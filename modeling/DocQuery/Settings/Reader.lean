import DocQuery.Json.Skip
import DocQuery.Settings.Writer
import DocQuery.Settings.Error

/- Settings are read from a JSON text: an object with the fields as keys, in any order and among
   others, or a list of the fields. The text is read in one pass, and the first thing that is
   wrong with it counts. -/

namespace DocQuery

open Json (Token Fault)

/-- What has been read with the tokens that are left, or what is wrong. -/
abbrev Reading (α : Type) := Except SettingsError (α × List Token)

namespace Settings

/-- Changes what has been read and keeps the tokens that are left. -/
def onRead {α β : Type} (f : α → β) : Reading α → Reading β
  | .ok (a, rest) => .ok (f a, rest)
  | .error e => .error e

theorem onRead_eq_ok {α β : Type} {f : α → β} {r : Reading α} {b : β} {rest : List Token}
    (h : onRead f r = .ok (b, rest)) : ∃ a, r = .ok (a, rest) := by
  cases r with
  | error e => cases h
  | ok read =>
    obtain ⟨a, left⟩ := read
    cases h
    exact ⟨a, rfl⟩

/-- What a token stands for where a value of another kind is asked for: an error, or what was
    found. Lists and objects are not looked into. -/
def found : Token → Except SettingsError Found
  | .openBrace => .ok .map
  | .openBracket => .ok .sequence
  | .word (.ok .null) => .ok .null
  | .word (.ok (.bool b)) => .ok (.bool b)
  | .word (.error fault) => .error (.fault fault)
  | .numeral (.ok numeral) =>
    match numeral.number? with
    | some n => .ok (.number n)
    | none => .error (.fault .malformed)
  | .numeral (.error fault) => .error (.fault fault)
  | .text pieces ending =>
    match Json.joinPieces ending pieces with
    | .ok chars => .ok (.text (String.ofList chars))
    | .error fault => .error (.fault fault)
  | _ => .error (.fault .malformed)

/-- The value of a token, if `accept` takes what the token stands for. -/
def valueOf {α : Type} (expected : Expected) (accept : Found → Option (Except SettingsError α))
    (token : Token) : Except SettingsError α :=
  match found token with
  | .error e => .error e
  | .ok f =>
    match accept f with
    | some result => result
    | none => .error (.unexpected f expected)

/-- Strings are accepted. -/
def acceptText : Found → Option (Except SettingsError String)
  | .text s => some (.ok s)
  | _ => none

/-- Naturals are accepted, and negative integers are refused for their value. -/
def acceptCount : Found → Option (Except SettingsError UInt64)
  | .number (.natural n) => some (.ok (UInt64.ofNat n))
  | .number (.negative n) => some (.error (.negativeCount n))
  | _ => none

/-- Null is accepted as an absent value. -/
def acceptOption {α : Type} (accept : Found → Option (Except SettingsError α)) :
    Found → Option (Except SettingsError (Option α))
  | .null => some (.ok none)
  | f => (accept f).map (·.map some)

/-- Reads a value that takes one token. -/
def readValue {α : Type} (expected : Expected) (accept : Found → Option (Except SettingsError α)) :
    List Token → Reading α
  | [] => .error (.fault .cutOff)
  | token :: rest => (valueOf expected accept token).map fun a => (a, rest)

def readText (ts : List Token) : Reading String := readValue .text acceptText ts

def readOptionalText (ts : List Token) : Reading (Option String) :=
  readValue .text (acceptOption acceptText) ts

def readOptionalCount (ts : List Token) : Reading (Option UInt64) :=
  readValue .count (acceptOption acceptCount) ts

/-! ## Objects -/

/-- The fields that have been read so far. -/
structure Draft where
  collection : Option String
  timeLimitMs : Option (Option UInt64)
  comment : Option (Option String)

namespace Draft

def empty : Draft := ⟨none, none, none⟩

/-- The field has been read. -/
def has (d : Draft) : SettingsField → Bool
  | .collection => d.collection.isSome
  | .timeLimit => d.timeLimitMs.isSome
  | .comment => d.comment.isSome

/-- The settings of the fields; only the collection has to be there. -/
def finish (d : Draft) : Except SettingsError Settings :=
  match d.collection with
  | some collection => .ok ⟨collection, d.timeLimitMs.getD none, d.comment.getD none⟩
  | none => .error (.missingField .collection)

end Draft

/-- The field of a key. -/
def fieldOf? (key : List Char) : Option SettingsField :=
  [SettingsField.collection, .timeLimit, .comment].find? fun field => field.key.toList == key

/-- Reads the key of a member. -/
def readKey : List Token → Reading (List Char)
  | [] => .error (.fault .cutOff)
  | .text pieces ending :: rest =>
    match Json.joinPieces ending pieces with
    | .ok chars => .ok (chars, rest)
    | .error fault => .error (.fault fault)
  | _ :: _ => .error (.fault .malformed)

/-- Passes over the colon behind a key. -/
def readColon : List Token → Except SettingsError (List Token)
  | [] => .error (.fault .cutOff)
  | .colon :: rest => .ok rest
  | _ :: _ => .error (.fault .malformed)

/-- Reads the value of a field into the draft. -/
def readField (d : Draft) (field : SettingsField) (ts : List Token) : Reading Draft :=
  match field with
  | .collection => onRead (fun s => { d with collection := some s }) (readText ts)
  | .timeLimit => onRead (fun n => { d with timeLimitMs := some n }) (readOptionalCount ts)
  | .comment => onRead (fun s => { d with comment := some s }) (readOptionalText ts)

/-- Passes over the value of a key that is not a field. -/
def skipMember (d : Draft) (ts : List Token) : Reading Draft :=
  match Json.skipValue ts with
  | .ok rest => .ok (d, rest)
  | .error fault => .error (.fault fault)

/-- Reads one member into the draft. A field that comes again is refused at its key. -/
def readMember (d : Draft) (ts : List Token) : Reading Draft :=
  match readKey ts with
  | .error e => .error e
  | .ok (key, rest) =>
    match fieldOf? key with
    | none =>
      match readColon rest with
      | .error e => .error e
      | .ok rest => skipMember d rest
    | some field =>
      if d.has field then .error (.duplicateField field)
      else
        match readColon rest with
        | .error e => .error e
        | .ok rest => readField d field rest

theorem readValue_length {α : Type} {expected : Expected}
    {accept : Found → Option (Except SettingsError α)} {ts rest : List Token} {a : α}
    (h : readValue expected accept ts = .ok (a, rest)) : rest.length < ts.length := by
  cases ts with
  | nil => cases h
  | cons token more =>
    simp only [readValue] at h
    cases hv : valueOf expected accept token with
    | error e => rw [hv] at h; cases h
    | ok v =>
      rw [hv] at h
      cases h
      exact Nat.lt_succ_self _

theorem readField_length {d d' : Draft} {field : SettingsField} {ts rest : List Token}
    (h : readField d field ts = .ok (d', rest)) : rest.length < ts.length := by
  cases field with
  | collection =>
    obtain ⟨a, ha⟩ := onRead_eq_ok h
    exact readValue_length ha
  | timeLimit =>
    obtain ⟨a, ha⟩ := onRead_eq_ok h
    exact readValue_length ha
  | comment =>
    obtain ⟨a, ha⟩ := onRead_eq_ok h
    exact readValue_length ha

theorem readKey_length {key : List Char} {ts rest : List Token}
    (h : readKey ts = .ok (key, rest)) : rest.length < ts.length := by
  unfold readKey at h
  split at h
  · cases h
  · split at h
    · cases h
      exact Nat.lt_succ_self _
    · cases h
  · cases h

theorem readColon_length {ts rest : List Token} (h : readColon ts = .ok rest) :
    rest.length < ts.length := by
  unfold readColon at h
  split at h
  · cases h
  · cases h
    exact Nat.lt_succ_self _
  · cases h

/-- A member takes at least one token. -/
theorem readMember_length {d d' : Draft} {ts rest : List Token}
    (h : readMember d ts = .ok (d', rest)) : rest.length < ts.length := by
  unfold readMember at h
  split at h
  · cases h
  · next key afterKey hk =>
    have key := readKey_length hk
    split at h
    · split at h
      · cases h
      · next afterColon hc =>
        have colon := readColon_length hc
        unfold skipMember at h
        split at h
        · next hs =>
          cases h
          have value := Json.skipValue_length hs
          omega
        · cases h
    · split at h
      · cases h
      · split at h
        · cases h
        · next afterColon hc =>
          have colon := readColon_length hc
          have value := readField_length h
          omega

/-- Reads members up to the brace that closes the object. -/
def readMembers (d : Draft) (ts : List Token) : Reading Draft :=
  match _member : readMember d ts with
  | .error e => .error e
  | .ok (d', rest) =>
    match rest with
    | [] => .error (.fault .cutOff)
    | .closeBrace :: after => .ok (d', after)
    | .comma :: more => readMembers d' more
    | _ :: _ => .error (.fault .malformed)
termination_by ts.length
decreasing_by
  have shorter := readMember_length _member
  simp only [List.length_cons] at shorter
  omega

/-- Reads an object from behind its opening brace. -/
def readObject (ts : List Token) : Reading Settings :=
  let members : Reading Draft := match ts with
    | .closeBrace :: rest => .ok (.empty, rest)
    | _ => readMembers .empty ts
  match members with
  | .error e => .error e
  | .ok (d, rest) => d.finish.map fun s => (s, rest)

/-! ## Lists -/

/-- Reads a further element of a list, if there is one before the closing bracket. -/
def readElement {α : Type} (read : List Token → Reading (Option α)) :
    List Token → Reading (Option α)
  | [] => .error (.fault .cutOff)
  | .closeBracket :: rest => .ok (none, .closeBracket :: rest)
  | .comma :: .closeBracket :: _ => .error (.fault .malformed)
  | .comma :: rest => read rest
  | _ :: _ => .error (.fault .malformed)

/-- Passes over the bracket that closes a list. -/
def readListEnd : List Token → Except SettingsError (List Token)
  | [] => .error (.fault .cutOff)
  | .closeBracket :: rest => .ok rest
  | _ :: _ => .error (.fault .malformed)

/-- Reads a list of the fields from behind its opening bracket; the last two may be left out. -/
def readList (ts : List Token) : Except SettingsError (Settings × List Token) :=
  match ts with
  | .closeBracket :: _ => .error .noElements
  | _ => do
    let (collection, ts) ← readText ts
    let (timeLimitMs, ts) ← readElement readOptionalCount ts
    let (comment, ts) ← readElement readOptionalText ts
    let ts ← readListEnd ts
    return (⟨collection, timeLimitMs, comment⟩, ts)

/-! ## Texts -/

/-- Reads settings. -/
def readSettings : List Token → Reading Settings
  | [] => .error (.fault .cutOff)
  | .openBrace :: rest => readObject rest
  | .openBracket :: rest => readList rest
  | token :: _ => valueOf .settings (fun _ => none) token

/-- The settings of the tokens of a text, with nothing after them. -/
def ofTokens (ts : List Token) : Except SettingsError Settings :=
  match readSettings ts with
  | .error e => .error e
  | .ok (s, []) => .ok s
  | .ok (_, _ :: _) => .error (.fault .malformed)

/-- The settings of a JSON text. -/
def ofJson (text : String) : Except SettingsError Settings := ofTokens (Json.tokens text.toList)

end Settings

end DocQuery
