import DocQuery.Text.Basic
import DocQuery.Value

/- The comparisons that a predicate on a column can make: the key that the document store has for
   each of them, how each of them is spelled, and what operand it takes. A spelling is looked up in
   its normal form, so blanks around it and the case of ASCII letters do not matter, while blanks
   inside it do. -/

namespace DocQuery

/-- The comparison of a predicate. -/
inductive Operator where
  | eq | ne | gt | gte | lt | lte
  | isIn | notIn
  | between | notBetween
  | like | notLike | regex
  | fieldExists
  | size | all | elemMatch
  | type | mod
  /-- the operand is the store's own condition -/
  | raw
  deriving DecidableEq, Repr

namespace Operator

/-- The name by which messages call an operator. -/
def name : Operator → String
  | .eq => "Eq"
  | .ne => "Ne"
  | .gt => "Gt"
  | .gte => "Gte"
  | .lt => "Lt"
  | .lte => "Lte"
  | .isIn => "In"
  | .notIn => "NotIn"
  | .between => "Between"
  | .notBetween => "NotBetween"
  | .like => "Like"
  | .notLike => "NotLike"
  | .regex => "Regex"
  | .fieldExists => "Exists"
  | .size => "Size"
  | .all => "All"
  | .elemMatch => "ElemMatch"
  | .type => "Type"
  | .mod => "Mod"
  | .raw => "Raw"

/-- Every operator, once. -/
def every : List Operator :=
  [.eq, .ne, .gt, .gte, .lt, .lte, .isIn, .notIn, .between, .notBetween, .like, .notLike, .regex,
    .fieldExists, .size, .all, .elemMatch, .type, .mod, .raw]

theorem mem_every (op : Operator) : op ∈ every := by cases op <;> decide

/-- The key of the store that stands for an operator by itself. Equality and raw conditions need
    none; ranges and patterns are made up of several keys. -/
def key? : Operator → Option String
  | .ne => some "$ne"
  | .gt => some "$gt"
  | .gte => some "$gte"
  | .lt => some "$lt"
  | .lte => some "$lte"
  | .isIn => some "$in"
  | .notIn => some "$nin"
  | .regex => some "$regex"
  | .fieldExists => some "$exists"
  | .size => some "$size"
  | .all => some "$all"
  | .elemMatch => some "$elemMatch"
  | .type => some "$type"
  | .mod => some "$mod"
  | .eq | .between | .notBetween | .like | .notLike | .raw => none

/-- The operators that take several values. -/
def takesSequence : Operator → Bool
  | .isIn | .notIn | .all | .between | .notBetween | .mod => true
  | _ => false

/-- The spellings in normal form. Raw conditions have none. -/
def spellings : List (String × Operator) :=
  [("=", .eq), ("==", .eq), ("!=", .ne), ("<>", .ne), (">", .gt), (">=", .gte), ("<", .lt),
    ("<=", .lte), ("in", .isIn), ("not in", .notIn), ("between", .between),
    ("not between", .notBetween), ("like", .like), ("not like", .notLike), ("regex", .regex),
    ("exists", .fieldExists), ("size", .size), ("all", .all), ("elemmatch", .elemMatch),
    ("type", .type), ("mod", .mod)]

/-- The operator that a text spells. -/
def ofSpelling? (text : String) : Option Operator := spellings.lookup (Text.normalised text)

end Operator

/-- A condition on the operand of an operator. -/
inductive Requirement where
  | anything
  | pair
  | sequence
  | pattern
  | patternOrRegex
  | boolean
  | naturalNumber
  | nativeDocument
  deriving DecidableEq, Repr

namespace Requirement

/-- The operand meets the condition. A sequence is an array of query values: a native array does
    not count as one. -/
def accepts : Requirement → Value → Bool
  | .anything, _ => true
  | .pair, .array [_, _] => true
  | .sequence, .array _ => true
  | .pattern, .string _ => true
  | .patternOrRegex, .string _ => true
  | .patternOrRegex, .native (.regex _ _) => true
  | .boolean, .bool _ => true
  | .naturalNumber, .int n => decide (0 ≤ n.toInt)
  | .nativeDocument, v => v.isNativeDocument
  | _, _ => false

/-- The condition in words. -/
def description : Requirement → String
  | .anything => "a value"
  | .pair => "a sequence of exactly two values"
  | .sequence => "a sequence of values"
  | .pattern => "a string pattern"
  | .patternOrRegex => "a string pattern or a native regex"
  | .boolean => "a boolean"
  | .naturalNumber => "a non-negative integer"
  | .nativeDocument => "a native document"

@[simp] theorem accepts_anything (v : Value) : anything.accepts v = true := by
  cases v <;> rfl

end Requirement

/-- The condition that an operator puts on its operand. -/
def Operator.requirement : Operator → Requirement
  | .between | .notBetween | .mod => .pair
  | .isIn | .notIn | .all => .sequence
  | .like | .notLike => .pattern
  | .regex => .patternOrRegex
  | .fieldExists => .boolean
  | .size => .naturalNumber
  | .elemMatch | .raw => .nativeDocument
  | .eq | .ne | .gt | .gte | .lt | .lte | .type => .anything

end DocQuery
