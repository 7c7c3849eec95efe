import DocQuery.Json.Token

/- JSON texts told without a reader: what values there are, and as which texts each of them can be
   written. Between any two tokens there may be blanks, and a character of a string may be spelled
   in several ways. A string can hold half of a character that takes two units; such a string is
   well-formed, but it is no string of characters. -/

namespace DocQuery.Json

/-! ## Strings -/

/-- The texts of a piece: most characters stand for themselves, some have a letter behind a
    backslash, and each unit is given by four hexadecimal digits. -/
inductive PieceText : Piece → List Char → Prop
  | plain {c : Char} : c ≠ '"' → c ≠ '\\' → isControl c = false → PieceText (.char c) [c]
  | escape {letter c : Char} : escapeOf? letter = some c → PieceText (.char c) ['\\', letter]
  | unit {a b c d : Char} {n : Nat} : Text.hexNumber? 0 [a, b, c, d] = some n →
      PieceText (.unit n) ['\\', 'u', a, b, c, d]

/-- The texts of several pieces. -/
inductive PiecesText : List Piece → List Char → Prop
  | nil : PiecesText [] []
  | cons {piece : Piece} {pieces : List Piece} {text more : List Char} : PieceText piece text →
      PiecesText pieces more → PiecesText (piece :: pieces) (text ++ more)

/-- The number of a unit that is half of a character. -/
def IsHalf (n : Nat) : Prop := 0xd800 ≤ n ∧ n < 0xe000

/-- The characters that pieces make up. A unit that is half of a character needs its other half next
    to it, the higher one first. -/
inductive Denotes : List Piece → List Char → Prop
  | nil : Denotes [] []
  | char {c : Char} {pieces : List Piece} {s : List Char} : Denotes pieces s →
      Denotes (.char c :: pieces) (c :: s)
  | unit {n : Nat} {pieces : List Piece} {s : List Char} : ¬IsHalf n → Denotes pieces s →
      Denotes (.unit n :: pieces) (Char.ofNat n :: s)
  | pair {high low : Nat} {pieces : List Piece} {s : List Char} : 0xd800 ≤ high → high < 0xdc00 →
      0xdc00 ≤ low → low < 0xe000 → Denotes pieces s →
      Denotes (.unit high :: .unit low :: pieces)
        (Char.ofNat (0x10000 + (high - 0xd800) * 0x400 + (low - 0xdc00)) :: s)

/-- The pieces make up the given characters, or there are none that they make up. -/
def HasContent (pieces : List Piece) : Option (List Char) → Prop
  | some s => Denotes pieces s
  | none => ∀ s, ¬Denotes pieces s

/-- The texts of a string, with its marks. -/
def StringText (content : Option (List Char)) (text : List Char) : Prop :=
  ∃ pieces body, HasContent pieces content ∧ PiecesText pieces body ∧
    text = '"' :: (body ++ ['"'])

/-! ## Numerals -/

/-- The text is a natural without leading zeros. -/
structure IsWhole (text : List Char) : Prop where
  ne_nil : text ≠ []
  digits : ∀ c ∈ text, isDigit c = true
  zero_alone : text.head? = some '0' → text = ['0']

/-- The digits of a list of values, at least one. -/
structure DigitsText (values : List Nat) (text : List Char) : Prop where
  ne_nil : text ≠ []
  digits : ∀ c ∈ text, isDigit c = true
  values : text.map digitValue = values

/-- The texts of the part behind the point, with the point. -/
def FractionText : Option (List Nat) → List Char → Prop
  | none, text => text = []
  | some values, text => ∃ digits, DigitsText values digits ∧ text = '.' :: digits

/-- The texts of the sign of an exponent; a plus can be left out. -/
def SignText : Bool → List Char → Prop
  | true, text => text = ['-']
  | false, text => text = [] ∨ text = ['+']

/-- The texts of an exponent, with its letter. -/
def ExponentText : Option (Bool × List Nat) → List Char → Prop
  | none, text => text = []
  | some (negative, values), text => ∃ letter sign digits, (letter = 'e' ∨ letter = 'E') ∧
      SignText negative sign ∧ DigitsText values digits ∧ text = letter :: (sign ++ digits)

/-- The texts of a numeral without its minus sign. -/
def UnsignedText (n : Numeral) (text : List Char) : Prop :=
  ∃ whole fraction exponent, IsWhole whole ∧ whole.map digitValue = n.whole ∧
    FractionText n.fraction fraction ∧ ExponentText n.exponent exponent ∧
    text = whole ++ (fraction ++ exponent)

/-- The texts of a numeral. -/
def NumeralText (n : Numeral) (text : List Char) : Prop :=
  if n.negative then ∃ unsigned, UnsignedText n unsigned ∧ text = '-' :: unsigned
  else UnsignedText n text

/-! ## Values -/

/-- A value, as far as its meaning goes. The characters of a string are missing if its units make up
    none. -/
inductive Value where
  | null
  | bool (value : Bool)
  | numeral (numeral : Numeral)
  | text (content : Option (List Char))
  | array (items : List Value)
  | object (members : List (Option (List Char) × Value))

/-- A text of blanks. -/
def Blank (text : List Char) : Prop := ∀ c ∈ text, isSpace c = true

/-- A text with blanks around it. -/
def Padded (written : List Char → Prop) (text : List Char) : Prop :=
  ∃ before inner after, Blank before ∧ written inner ∧ Blank after ∧
    text = before ++ (inner ++ after)

/-- The texts of a member, given those of its key and of its value. -/
def MemberText (key value : List Char → Prop) (text : List Char) : Prop :=
  ∃ first second, Padded key first ∧ Padded value second ∧ text = first ++ ':' :: second

mutual

/-- The value can be written as the text. -/
def Value.Written : Value → List Char → Prop
  | .null, text => text = ['n', 'u', 'l', 'l']
  | .bool true, text => text = ['t', 'r', 'u', 'e']
  | .bool false, text => text = ['f', 'a', 'l', 's', 'e']
  | .numeral n, text => NumeralText n text
  | .text content, text => StringText content text
  | .array items, text => ∃ inner, ItemsText items inner ∧ text = '[' :: (inner ++ [']'])
  | .object members, text => ∃ inner, MembersText members inner ∧ text = '{' :: (inner ++ ['}'])

/-- The texts of the items of an array, with commas between them. -/
def ItemsText : List Value → List Char → Prop
  | [], text => Blank text
  | v :: rest, text => ∃ first more, Padded v.Written first ∧ MoreItemsText rest more ∧
      text = first ++ more

/-- The texts of further items, each behind a comma. -/
def MoreItemsText : List Value → List Char → Prop
  | [], text => text = []
  | v :: rest, text => ∃ first more, Padded v.Written first ∧ MoreItemsText rest more ∧
      text = ',' :: (first ++ more)

/-- The texts of the members of an object, with commas between them. -/
def MembersText : List (Option (List Char) × Value) → List Char → Prop
  | [], text => Blank text
  | (key, v) :: rest, text => ∃ first more, MemberText (StringText key) v.Written first ∧
      MoreMembersText rest more ∧ text = first ++ more

/-- The texts of further members, each behind a comma. -/
def MoreMembersText : List (Option (List Char) × Value) → List Char → Prop
  | [], text => text = []
  | (key, v) :: rest, text => ∃ first more, MemberText (StringText key) v.Written first ∧
      MoreMembersText rest more ∧ text = ',' :: (first ++ more)

end

end DocQuery.Json
