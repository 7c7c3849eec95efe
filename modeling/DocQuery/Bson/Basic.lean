import DocQuery.Binary64
import DocQuery.Decimal.Decimal128
import DocQuery.OrderedMap

/- The values that a document store holds and that commands are made of. A document is an
   insertion-ordered map of values. The deprecated pointers into other collections are left out:
   nothing that makes commands builds one or looks into one. -/

namespace DocQuery

/-- A value of the document store. -/
inductive Bson where
  | null
  | bool (value : Bool)
  | int32 (value : Int32)
  | int64 (value : Int64)
  | double (value : Binary64)
  | string (text : String)
  | array (items : List Bson)
  | document (fields : OrderedMap Bson)
  /-- a moment, in milliseconds since 1970-01-01 in UTC -/
  | dateTime (millis : Int64)
  | objectId (bytes : Vector UInt8 12)
  | regex (pattern options : String)
  | timestamp (time increment : UInt32)
  | binary (subtype : UInt8) (bytes : List UInt8)
  | code (source : String)
  | codeWithScope (source : String) (scope : OrderedMap Bson)
  | symbol (text : String)
  | decimal128 (value : Decimal128)
  | minKey
  | maxKey
  | undefined
  deriving Repr, Inhabited

/-- A document of the store. -/
abbrev Document := OrderedMap Bson

namespace Bson

/-- The narrower of the two integer encodings that holds the number. -/
def ofInt (n : Int64) : Bson :=
  if -2147483648 ≤ n.toInt ∧ n.toInt ≤ 2147483647 then .int32 n.toInt32 else .int64 n

/-- An unsigned count as an integer; a count beyond the signed range is cut down to its end. -/
def ofCount (n : UInt64) : Bson := ofInt (Int64.ofNat (min n.toNat 9223372036854775807))

/-- An array of documents. -/
def documents (docs : List Document) : Bson := .array (docs.map .document)

end Bson

/-- A key by which the store tells operators and stages from fields. -/
def isOperatorKey (key : String) : Bool := key.toList.head? == some '$'

/-- A document with operators for keys, and at least one. -/
def Document.isOperators (d : Document) : Bool :=
  !d.isEmpty && d.keys.all isOperatorKey

end DocQuery
