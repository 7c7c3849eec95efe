import DocQuery.Json.Token

/- Passing over a value that nobody asked for. The value has to be well-formed, but its strings
   may hold halves of characters and its numerals may be out of range. Values can be nested to any
   depth: the open brackets are kept in a list. The main statement says that a skipped value takes
   at least one token. -/

namespace DocQuery.Json

/-- What a bracket encloses. -/
inductive Enclosure where
  | array
  | object
  deriving DecidableEq, Repr

/-- What may come next inside the brackets that are open. -/
inductive Expectation where
  | value
  /-- the first value of an array, or its end -/
  | valueOrEnd
  | key
  /-- the first key of an object, or its end -/
  | keyOrEnd
  | colon
  /-- a comma or the end of the innermost enclosure -/
  | separator
  deriving DecidableEq, Repr

/-- What a token is where a value may begin. -/
inductive Opening where
  | scalar
  | enclosure (kind : Enclosure)

/-- What begins with a token. A numeral that is not whole counts as malformed, also where the text
    is cut off. -/
def Token.opening : Token → Except Fault Opening
  | .openBracket => .ok (.enclosure .array)
  | .openBrace => .ok (.enclosure .object)
  | .word (.ok _) => .ok .scalar
  | .word (.error fault) => .error fault
  | .numeral (.ok _) => .ok .scalar
  | .text _ none => .ok .scalar
  | .text _ (some fault) => .error fault
  | _ => .error .malformed

/-- A token in the place of a key: it has to be a whole string. -/
def Token.checkKey : Token → Except Fault Unit
  | .text _ none => .ok ()
  | .text _ (some fault) => .error fault
  | _ => .error .malformed

/-- What comes after a bracket. -/
def Enclosure.first : Enclosure → Expectation
  | .array => .valueOrEnd
  | .object => .keyOrEnd

/-- What comes after a comma. -/
def Enclosure.next : Enclosure → Expectation
  | .array => .value
  | .object => .key

/-- The token closes the enclosure. -/
def Enclosure.closedBy : Enclosure → Token → Bool
  | .array, .closeBracket => true
  | .object, .closeBrace => true
  | _, _ => false

/-- What is left to do after a token: nothing, or to meet an expectation inside brackets. -/
inductive Progress where
  | finished
  | inside (expectation : Expectation) (nesting : List Enclosure)

/-- A value is complete inside the given brackets. -/
def Progress.completed : List Enclosure → Progress
  | [] => .finished
  | nesting => .inside .separator nesting

/-- A token where a value may begin. -/
def beginValue (nesting : List Enclosure) (token : Token) : Except Fault Progress :=
  match token.opening with
  | .ok .scalar => .ok (.completed nesting)
  | .ok (.enclosure kind) => .ok (.inside kind.first (kind :: nesting))
  | .error fault => .error fault

/-- A token where a key has to be. -/
def takeKey (nesting : List Enclosure) (token : Token) : Except Fault Progress :=
  match token.checkKey with
  | .ok () => .ok (.inside .colon nesting)
  | .error fault => .error fault

/-- One token of a value that is skipped. -/
def stepOver (expectation : Expectation) (nesting : List Enclosure) (token : Token) :
    Except Fault Progress :=
  match expectation, nesting with
  | .value, _ => beginValue nesting token
  | .valueOrEnd, outer =>
    if Enclosure.array.closedBy token then .ok (.completed (outer.drop 1))
    else beginValue nesting token
  | .key, _ => takeKey nesting token
  | .keyOrEnd, outer =>
    if Enclosure.object.closedBy token then .ok (.completed (outer.drop 1))
    else takeKey nesting token
  | .colon, _ =>
    match token with
    | .colon => .ok (.inside .value nesting)
    | _ => .error .malformed
  | .separator, [] => .ok .finished
  | .separator, kind :: outer =>
    match token with
    | .comma => .ok (.inside kind.next nesting)
    | _ => if kind.closedBy token then .ok (.completed outer) else .error .malformed

/-- Passes over tokens until the expectation and all open brackets are met, and gives the tokens
    after them. -/
def skip (expectation : Expectation) (nesting : List Enclosure) :
    List Token → Except Fault (List Token)
  | [] => .error .cutOff
  | token :: rest =>
    match stepOver expectation nesting token with
    | .error fault => .error fault
    | .ok .finished => .ok rest
    | .ok (.inside expectation nesting) => skip expectation nesting rest

/-- Passes over one value. -/
def skipValue (ts : List Token) : Except Fault (List Token) := skip .value [] ts

theorem skip_length {expectation : Expectation} {nesting : List Enclosure} {ts rest : List Token}
    (h : skip expectation nesting ts = .ok rest) : rest.length < ts.length := by
  induction ts generalizing expectation nesting with
  | nil => cases h
  | cons token more ih =>
    unfold skip at h
    split at h
    · cases h
    · cases h
      exact Nat.lt_succ_self _
    · exact Nat.lt_succ_of_lt (ih h)

/-- A value takes at least one token. -/
theorem skipValue_length {ts rest : List Token} (h : skipValue ts = .ok rest) :
    rest.length < ts.length := skip_length h

end DocQuery.Json
