import DocQuery.Bson.Equality
import DocQuery.Instant

/- The values that a caller hands to a query. `Value.coerce` turns them into stored values:
   integers take the narrowest encoding, moments become milliseconds in UTC, native values pass as
   they are. -/

namespace DocQuery

/-- A value in a query. -/
inductive Value where
  | null
  | bool (value : Bool)
  | int (value : Int64)
  | float (value : Binary64)
  | string (text : String)
  | date (moment : Instant)
  | array (items : List Value)
  /-- a stored value that is passed through -/
  | native (value : Bson)
  deriving Repr, Inhabited

namespace Value

mutual

/-- The stored value for a query value. -/
def coerce : Value → Bson
  | .null => .null
  | .bool b => .bool b
  | .int n => .ofInt n
  | .float x => .double x
  | .string s => .string s
  | .date t => .dateTime (Int64.ofInt t.millis)
  | .array items => .array (coerceAll items)
  | .native b => b

/-- The stored values for a list of query values. -/
def coerceAll : List Value → List Bson
  | [] => []
  | v :: rest => v.coerce :: coerceAll rest

end

theorem coerceAll_eq_map (vs : List Value) : coerceAll vs = vs.map coerce := by
  induction vs with
  | nil => rfl
  | cons v rest ih => simp only [coerceAll, List.map_cons, ih]

/-! ## Views -/

/-- The items of an array of query values; a native array is not looked into. -/
def items? : Value → Option (List Value)
  | .array items => some items
  | _ => none

/-- The text of a string. -/
def text? : Value → Option String
  | .string s => some s
  | _ => none

def isNativeDocument : Value → Bool
  | .native (.document _) => true
  | _ => false

/-! ## Values from other types -/

/-- A 32-bit integer as a value. -/
def ofInt32 (n : Int32) : Value := .int n.toInt64

/-- An unsigned 32-bit integer as a value. -/
def ofUInt32 (n : UInt32) : Value := .int (Int64.ofNat n.toNat)

/-- An absent value is null. -/
def ofOption : Option Value → Value
  | none => .null
  | some v => v

/-- A document passes through. -/
def ofDocument (d : Document) : Value := .native (.document d)

def ofObjectId (bytes : Vector UInt8 12) : Value := .native (.objectId bytes)

/-- A stored moment passes through. -/
def ofDateTime (millis : Int64) : Value := .native (.dateTime millis)

/-- A list of strings as an array. -/
def ofStrings (texts : List String) : Value := .array (texts.map .string)

/-! ## Equality -/

mutual

/-- Equality of query values: floats as numbers, dates by their moment, native values as the store
    sees them. -/
def same : Value → Value → Bool
  | .null, .null => true
  | .bool a, .bool b => a == b
  | .int a, .int b => a == b
  | .float a, .float b => a.sameNumber b
  | .string a, .string b => a == b
  | .date a, .date b => a.same b
  | .array as, .array bs => sameItems as bs
  | .native a, .native b => a.same b
  | _, _ => false

/-- Arrays agree place by place. -/
def sameItems : List Value → List Value → Bool
  | [], [] => true
  | a :: as, b :: bs => a.same b && sameItems as bs
  | _, _ => false

end

end Value

end DocQuery
