import DocQuery.Decimal.Layout
import DocQuery.Json.Numeral
import DocQuery.Text.Quoted

/- Why a text does not give settings, and the words in which that is said: it is not JSON, or it
   is JSON of another shape. -/

namespace DocQuery

/-- A field of the settings. -/
inductive SettingsField where
  | collection
  | timeLimit
  | comment
  deriving DecidableEq, Repr

/-- The key of a field. -/
def SettingsField.key : SettingsField → String
  | .collection => "collection"
  | .timeLimit => "max_time_ms"
  | .comment => "comment"

/-- What was found in a text in place of something else. -/
inductive Found where
  | null
  | bool (value : Bool)
  | number (number : Json.Number)
  | text (text : String)
  | sequence
  | map
  deriving DecidableEq, Repr

/-- What should have been found. -/
inductive Expected where
  | text
  | count
  | settings
  deriving DecidableEq, Repr

/-- The reason for which a text gives no settings. -/
inductive SettingsError where
  | fault (fault : Json.Fault)
  | missingField (field : SettingsField)
  | duplicateField (field : SettingsField)
  | unexpected (found : Found) (expected : Expected)
  /-- a negative integer in place of a count -/
  | negativeCount (n : Int)
  /-- an empty list in place of a list of the fields -/
  | noElements
  deriving DecidableEq, Repr

/-- What kind of reason it is. -/
inductive SettingsError.Category where
  /-- the text is not JSON -/
  | malformed
  /-- the text ends too early -/
  | cutOff
  /-- the text is JSON and does not describe settings -/
  | unfit
  deriving DecidableEq, Repr

/-- Doubles in messages are written with an exponent below 0.00001 and from 10^16 on, and whole
    numbers keep a fraction. -/
def Found.numberLayout : Decimal.Layout := ⟨.toEven, some (-5, 15), true⟩

/-- A text between grave accents. -/
def marked (text : String) : String := "`" ++ text ++ "`"

def Found.description : Found → String
  | .null => "null"
  | .bool b => "boolean " ++ marked (if b then "true" else "false")
  | .number (.natural n) => "integer " ++ marked (Decimal.naturalText n)
  | .number (.negative n) => "integer " ++ marked (Decimal.integerText n)
  | .number (.float x) => "floating point " ++ marked (Found.numberLayout.text x)
  | .text s => "string " ++ Text.quoted s
  | .sequence => "sequence"
  | .map => "map"

def Expected.description : Expected → String
  | .text => "a string"
  | .count => "u64"
  | .settings => "struct BuilderConfig"

namespace SettingsError

def category : SettingsError → Category
  | .fault .malformed => .malformed
  | .fault .cutOff => .cutOff
  | _ => .unfit

/-- The details of an error; there are none for a text that is not JSON. -/
def details? : SettingsError → Option String
  | .fault _ => none
  | .missingField field => some ("missing field " ++ marked field.key)
  | .duplicateField field => some ("duplicate field " ++ marked field.key)
  | .unexpected found expected =>
    some ("invalid type: " ++ found.description ++ ", expected " ++ expected.description)
  | .negativeCount n =>
    some ("invalid value: " ++ (Found.number (.negative n)).description ++ ", expected " ++
      Expected.count.description)
  | .noElements =>
    some ("invalid length 0, expected " ++ Expected.settings.description ++ " with 3 elements")

/-- The text of an error. -/
def message (e : SettingsError) : String :=
  match e.details? with
  | none => "invalid builder config"
  | some details => "invalid builder config: " ++ details

end SettingsError

end DocQuery
