import DocQuery.Text.Basic

/- Why a text is not JSON, as far as a reader in one pass can tell, and the strings of a JSON text.
   A string between quotation marks is scanned into pieces: characters, and the 16-bit units that
   `\u` escapes spell. Units are joined to characters afterwards, because a string that nobody
   reads may hold units that do not make up a character. The module also writes strings: only the
   quotation mark, the backslash and the control characters are escaped. -/

namespace DocQuery.Json

/-- What is wrong with a text. -/
inductive Fault where
  /-- the text ends inside a value -/
  | cutOff
  /-- the text goes on in a way that no JSON text does -/
  | malformed
  deriving DecidableEq, Repr

/-- The fault of a text that cannot go on with what is left: nothing, or something wrong. -/
def Fault.at : List Char → Fault
  | [] => .cutOff
  | _ :: _ => .malformed

/-- The characters that may stand between tokens. -/
def isSpace (c : Char) : Bool := c == ' ' || c == '\n' || c == '\t' || c == '\r'

/-! ## Strings -/

/-- A piece of a string: a character, or a unit given by its number. -/
inductive Piece where
  | char (c : Char)
  | unit (n : Nat)
  deriving DecidableEq, Repr

/-- What a string was scanned into: its pieces, and the text after the closing mark, or the fault
    that comes after the pieces. -/
structure ScannedText where
  pieces : List Piece
  rest : Except Fault (List Char)

/-- The character for a letter behind a backslash. -/
def escapeOf? : Char → Option Char
  | '"' => some '"'
  | '\\' => some '\\'
  | '/' => some '/'
  | 'b' => some '\x08'
  | 'f' => some '\x0c'
  | 'n' => some '\n'
  | 'r' => some '\r'
  | 't' => some '\t'
  | _ => none

/-- The fault of a unit that is not spelled by four hexadecimal digits: the text is cut off if it
    has fewer than four bytes left. -/
def unitFault (s : List Char) : Fault :=
  if (s.take 4).foldl (fun size c => size + c.utf8Size) 0 < 4 then .cutOff else .malformed

/-- The control characters, which a string holds in escaped form only. -/
def isControl (c : Char) : Bool := decide (c.toNat < 0x20)

/-- Scans a string from behind its opening mark. -/
def scanText : List Char → ScannedText
  | [] => ⟨[], .error .cutOff⟩
  | '"' :: rest => ⟨[], .ok rest⟩
  | '\\' :: 'u' :: a :: b :: c :: d :: rest =>
    match Text.hexNumber? 0 [a, b, c, d] with
    | some n =>
      let scanned := scanText rest
      ⟨.unit n :: scanned.pieces, scanned.rest⟩
    | none => ⟨[], .error .malformed⟩
  | '\\' :: 'u' :: rest => ⟨[], .error (unitFault rest)⟩
  | '\\' :: c :: rest =>
    match escapeOf? c with
    | some e =>
      let scanned := scanText rest
      ⟨.char e :: scanned.pieces, scanned.rest⟩
    | none => ⟨[], .error .malformed⟩
  | ['\\'] => ⟨[], .error .cutOff⟩
  | c :: rest =>
    if isControl c then ⟨[], .error .malformed⟩
    else
      let scanned := scanText rest
      ⟨.char c :: scanned.pieces, scanned.rest⟩

/-- The first unit of a character that takes two. -/
def isHighSurrogate (n : Nat) : Bool := decide (0xd800 ≤ n ∧ n < 0xdc00)

/-- The second unit of a character that takes two. -/
def isLowSurrogate (n : Nat) : Bool := decide (0xdc00 ≤ n ∧ n < 0xe000)

/-- The character of two units. -/
def joinSurrogates (high low : Nat) : Char :=
  Char.ofNat (0x10000 + (high - 0xd800) * 0x400 + (low - 0xdc00))

/-- The characters of scanned pieces. A unit that is half a character needs its other half next to
    it. A fault at the end of the pieces counts after all faults in them. -/
def joinPieces (ending : Option Fault) : List Piece → Except Fault (List Char)
  | [] =>
    match ending with
    | none => .ok []
    | some fault => .error fault
  | .char c :: rest => (joinPieces ending rest).map (c :: ·)
  | .unit high :: .unit low :: rest =>
    if isHighSurrogate high then
      if isLowSurrogate low then (joinPieces ending rest).map (joinSurrogates high low :: ·)
      else .error .malformed
    else if isLowSurrogate high then .error .malformed
    else (joinPieces ending (.unit low :: rest)).map (Char.ofNat high :: ·)
  | .unit n :: rest =>
    if isHighSurrogate n then .error (if rest.isEmpty then ending.getD .malformed else .malformed)
    else if isLowSurrogate n then .error .malformed
    else (joinPieces ending rest).map (Char.ofNat n :: ·)

/-! ## Writing -/

/-- How a character is written in a string. -/
def written (c : Char) : List Char :=
  if c = '"' then ['\\', '"']
  else if c = '\\' then ['\\', '\\']
  else if c = '\x08' then ['\\', 'b']
  else if c = '\x0c' then ['\\', 'f']
  else if c = '\n' then ['\\', 'n']
  else if c = '\r' then ['\\', 'r']
  else if c = '\t' then ['\\', 't']
  else if isControl c then
    ['\\', 'u', '0', '0', Text.hexDigit (c.toNat / 16), Text.hexDigit (c.toNat % 16)]
  else [c]

/-- A string with its marks. -/
def writeText (s : List Char) : List Char := '"' :: s.flatMap written ++ ['"']

end DocQuery.Json
