import DocQuery.Bson.Basic
import DocQuery.Calendar
import DocQuery.Decimal.Layout
import DocQuery.Text.Basic

/- One line of text for a value, meant for a reader of logs: strings and keys stand in quotes as
   they are, without escapes, and the scope of code is left out. -/

namespace DocQuery

/-- Doubles are written with their shortest digits, a half going up, never with an exponent, and a
    whole number shows no fraction. -/
def Bson.numberLayout : Decimal.Layout := ⟨.up, none, false⟩

/-- A text between quotation marks, as it is. -/
def quotedRaw (text : String) : String := "\"" ++ text ++ "\""

/-- Parts between the marks of a list, with commas. -/
def bracketed (first last : String) (parts : List String) : String :=
  first ++ ", ".intercalate parts ++ last

/-- The text of a document, given the texts of its fields: an empty one shows no blank. -/
def documentText (parts : List String) : String :=
  if parts.isEmpty then "\x7b\x7d" else bracketed "\x7b " " \x7d" parts

mutual

/-- The display text of a value. -/
def Bson.text : Bson → String
  | .null => "null"
  | .bool b => if b then "true" else "false"
  | .int32 n => Decimal.integerText n.toInt
  | .int64 n => Decimal.integerText n.toInt
  | .double x => Bson.numberLayout.text x
  | .string s => quotedRaw s
  | .array items => bracketed "[" "]" (Bson.itemTexts items)
  | .document ⟨fields⟩ => documentText (Bson.fieldTexts fields)
  | .dateTime millis => "DateTime(" ++ quotedRaw (Calendar.momentText millis.toInt) ++ ")"
  | .objectId bytes =>
    "ObjectId(" ++ quotedRaw (String.ofList (Text.hexOfBytes bytes.toList)) ++ ")"
  | .regex pattern options => "/" ++ pattern ++ "/" ++ options
  | .timestamp time increment =>
    "Timestamp(" ++ Decimal.naturalText time.toNat ++ ", " ++
      Decimal.naturalText increment.toNat ++ ")"
  | .binary subtype bytes =>
    "Binary(0x" ++ String.ofList (Text.hexOfNat subtype.toNat) ++ ", " ++
      String.ofList (Text.base64 bytes) ++ ")"
  | .code source => source
  | .codeWithScope source _ => source
  | .symbol s => "Symbol(" ++ quotedRaw s ++ ")"
  | .decimal128 d => d.text
  | .minKey => "MinKey"
  | .maxKey => "MaxKey"
  | .undefined => "undefined"

/-- The texts of the items of an array. -/
def Bson.itemTexts : List Bson → List String
  | [] => []
  | item :: rest => item.text :: Bson.itemTexts rest

/-- The texts of the fields of a document. -/
def Bson.fieldTexts : List (String × Bson) → List String
  | [] => []
  | (key, value) :: rest => (quotedRaw key ++ ": " ++ value.text) :: Bson.fieldTexts rest

end

/-- The display text of a document. -/
def Document.text (d : Document) : String := (Bson.document d).text

theorem Bson.itemTexts_eq_map (items : List Bson) : Bson.itemTexts items = items.map Bson.text := by
  induction items with
  | nil => rfl
  | cons item rest ih => simp only [Bson.itemTexts, List.map_cons, ih]

end DocQuery
