import DocQuery.Operator

/- Why a call to the builder can be refused, and the words in which it is. Builders for relational
   databases have methods that mean nothing to a document store; they exist as names only, so that
   calling one can be refused by name. -/

namespace DocQuery

/-- A builder method that needs a relational database. -/
inductive RelationalMethod where
  | toSql | toRawSql
  | whereRaw | orWhereRaw
  | whereColumn | orWhereColumn
  | whereFulltext | orWhereFulltext
  | groupByRaw | orderByRaw | selectRaw
  | inRandomOrder
  | union | unionAll
  | having | orHaving | havingRaw | orHavingRaw | havingBetween
  deriving DecidableEq, Repr

namespace RelationalMethod

/-- Every method, once. -/
def every : List RelationalMethod :=
  [.toSql, .toRawSql, .whereRaw, .orWhereRaw, .whereColumn, .orWhereColumn, .whereFulltext,
    .orWhereFulltext, .groupByRaw, .orderByRaw, .selectRaw, .inRandomOrder, .union, .unionAll,
    .having, .orHaving, .havingRaw, .orHavingRaw, .havingBetween]

/-- The name that callers use. -/
def name : RelationalMethod → String
  | .toSql => "to_sql"
  | .toRawSql => "to_raw_sql"
  | .whereRaw => "where_raw"
  | .orWhereRaw => "or_where_raw"
  | .whereColumn => "where_column"
  | .orWhereColumn => "or_where_column"
  | .whereFulltext => "where_fulltext"
  | .orWhereFulltext => "or_where_fulltext"
  | .groupByRaw => "group_by_raw"
  | .orderByRaw => "order_by_raw"
  | .selectRaw => "select_raw"
  | .inRandomOrder => "in_random_order"
  | .union => "union"
  | .unionAll => "union_all"
  | .having => "having"
  | .orHaving => "or_having"
  | .havingRaw => "having_raw"
  | .orHavingRaw => "or_having_raw"
  | .havingBetween => "having_between"

theorem mem_every (m : RelationalMethod) : m ∈ every := by cases m <;> decide

theorem name_injective {m n : RelationalMethod} (h : m.name = n.name) : m = n := by
  have table : ∀ a ∈ every, ∀ b ∈ every, a.name = b.name → a = b := by decide
  exact table m (mem_every m) n (mem_every n) h

end RelationalMethod

/-- The reason for which a call is refused. -/
inductive QueryError where
  /-- no operator is spelled like this; the spelling is given in normal form -/
  | unknownOperator (spelling : String)
  /-- the operand does not meet the operator's condition -/
  | unfitOperand (operator : Operator) (column : String)
  /-- neither a keyword nor a number for a direction -/
  | unknownDirection
  /-- the method needs a relational database -/
  | relationalOnly (method : RelationalMethod)
  deriving DecidableEq, Repr

/-- The error is about an argument, and not about a method that document stores do not have. -/
def QueryError.isInvalidArgument : QueryError → Bool
  | .relationalOnly _ => false
  | .unknownOperator _ | .unfitOperand _ _ | .unknownDirection => true

/-- The text of an error. -/
def QueryError.message : QueryError → String
  | .unknownOperator spelling => "unknown operator: " ++ spelling
  | .unfitOperand operator column =>
    "operator " ++ operator.name ++ " on \"" ++ column ++ "\" requires " ++
      operator.requirement.description
  | .unknownDirection => "Order direction must be \"asc\" or \"desc\""
  | .relationalOnly _ => "This method is not supported by MongoDB"

/-- The operator that a text spells, or an error with its normal form. -/
def Operator.parse (text : String) : Except QueryError Operator :=
  match ofSpelling? text with
  | some op => .ok op
  | none => .error (.unknownOperator (Text.normalised text))

end DocQuery
