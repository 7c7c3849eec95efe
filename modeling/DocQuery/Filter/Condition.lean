import DocQuery.LikePattern
import DocQuery.Predicate

/- The filter document of one clause. For a fit operand it says what the operator asks for. An
   unfit one still gives a condition: a lone value counts as a list of one, a lone bound as both
   bounds, and anything but a string as the empty pattern. -/

namespace DocQuery

namespace Document

/-- The document with one field. -/
def field (key : String) (value : Bson) : Document := .single key value

/-- Alternatives: one of the documents has to hold. -/
def anyOf (docs : List Document) : Document := field "$or" (.documents docs)

/-- A conjunction: all of the documents have to hold. -/
def allOf (docs : List Document) : Document := field "$and" (.documents docs)

end Document

/-- The coerced items of a list of operands. -/
def Value.sequence (v : Value) : List Bson :=
  match v.coerce with
  | .array items => items
  | lone => [lone]

/-- The two bounds of a range. -/
def Value.bounds : Value → Bson × Bson
  | .array (low :: high :: _) => (low.coerce, high.coerce)
  | .array [only] => (only.coerce, only.coerce)
  | v => (v.coerce, v.coerce)

/-- The regular expression document of a LIKE pattern; case does not matter. -/
def Value.likeDocument (v : Value) : Document :=
  let expression := match v.text? with
    | some pattern => LikePattern.expression pattern
    | none => ""
  (Document.field "$regex" (.string expression)).insert "$options" (.string "i")

/-- The document of an operator with its operand. -/
def Operator.document (op : Operator) (operand : Bson) : Document :=
  match op.key? with
  | some key => Document.field key operand
  | none => .empty

namespace Clause

/-- The condition that a clause puts on its column. For a value outside a range there are two, one
    of which has to hold. -/
inductive Condition where
  | one (condition : Bson)
  | either (first second : Document)

def condition (c : Clause) : Condition :=
  match c.operator with
  | .eq | .raw => .one c.operand.coerce
  | .isIn | .notIn | .all => .one (.document (c.operator.document (.array c.operand.sequence)))
  | .between =>
    let (low, high) := c.operand.bounds
    .one (.document ((Document.field "$gte" low).insert "$lte" high))
  | .notBetween =>
    let (low, high) := c.operand.bounds
    .either (Document.field "$lte" low) (Document.field "$gte" high)
  | .like => .one (.document c.operand.likeDocument)
  | .notLike => .one (.document (Document.field "$not" (.document c.operand.likeDocument)))
  | op => .one (.document (op.document c.operand.coerce))

/-- The filter document of a clause. -/
def document (c : Clause) : Document :=
  match c.condition with
  | .one condition => Document.field c.column condition
  | .either first second =>
    Document.anyOf
      [Document.field c.column (.document first), Document.field c.column (.document second)]

/-- The document of the clause may share its column with others. Equality and raw conditions hold a
    value of the caller, which stays as it is, and a value outside a range takes two documents. -/
def isMergeable (c : Clause) : Bool :=
  match c.operator with
  | .eq | .raw | .notBetween => false
  | _ => true

end Clause

end DocQuery
