import DocQuery.Decimal.Layout
import DocQuery.Json.Text

/- What every builder for a collection starts from, and how it is written: as a JSON object without
   blanks, with all fields in a fixed order and absent ones as null. -/

namespace DocQuery

/-- A collection, with a time limit and a comment for every command on it. -/
structure Settings where
  collection : String
  timeLimitMs : Option UInt64
  comment : Option String
  deriving DecidableEq, Repr

/-- The settings that name a collection only. -/
def Settings.forCollection (collection : String) : Settings := ⟨collection, none, none⟩

namespace Settings

/-- An optional value. -/
def writeOption {α : Type} (write : α → List Char) : Option α → List Char
  | none => ['n', 'u', 'l', 'l']
  | some a => write a

/-- A member of an object. -/
def writeMember (key : String) (value : List Char) : List Char :=
  Json.writeText key.toList ++ ':' :: value

/-- The JSON text of settings. -/
def toJson (s : Settings) : String :=
  String.ofList <|
    '{' :: writeMember "collection" (Json.writeText s.collection.toList) ++
    ',' :: writeMember "max_time_ms"
      (writeOption (fun n : UInt64 => Decimal.digitsOf n.toNat) s.timeLimitMs) ++
    ',' :: writeMember "comment" (writeOption (fun c => Json.writeText c.toList) s.comment) ++ ['}']

end Settings

end DocQuery
