import DocQuery.Error
import DocQuery.Query.Compile
import DocQuery.Settings.Writer

/- A query under construction, and the calls that extend it. A call that can be refused is an
   `Attempt`, which leaves a builder behind in either case. -/

namespace DocQuery

/-- A query under construction for a collection. -/
structure Builder where
  collection : String
  query : Query
  deriving Repr

/-- A part of a query that can be reset. -/
inductive Slot where
  | predicates
  | lastPredicate
  | orders
  | columns
  | projection
  | limit
  | offset
  | groups
  | distinct
  | options
  deriving DecidableEq, Repr

/-- An operator, or a text that spells one. -/
inductive OperatorArg where
  | operator (op : Operator)
  | spelling (text : String)
  deriving DecidableEq, Repr

def OperatorArg.resolve : OperatorArg → Except QueryError Operator
  | .operator op => .ok op
  | .spelling text => Operator.parse text

/-- A call that changes a builder or is refused. What it did before it was refused stays done. -/
abbrev Attempt := EStateM QueryError Builder Unit

namespace Builder

/-- A builder that starts from settings. -/
def ofSettings (s : Settings) : Builder :=
  ⟨s.collection,
    { Query.all with options := { QueryOptions.empty with
        timeLimitMs := s.timeLimitMs, comment := s.comment } }⟩

/-- A builder for a collection. -/
def new (collection : String) : Builder := ofSettings (.forCollection collection)

/-- Builders agree if they are for the same collection and their queries agree. -/
def same (a b : Builder) : Bool := a.collection == b.collection && a.query.same b.query

def setCollection (b : Builder) (collection : String) : Builder :=
  { b with collection := collection }

/-! ## Predicates -/

/-- Adds a predicate behind the others. -/
def addPredicate (b : Builder) (p : Predicate) : Builder :=
  { b with query := { b.query with predicates := b.query.predicates ++ [p] } }

/-- Adds a clause without looking at its operand. -/
def addClause (b : Builder) (connector : Connector) (column : String) (operator : Operator)
    (operand : Value) : Builder :=
  b.addPredicate (.clause ⟨column, operator, operand, connector⟩)

/-- Compares for equality. An operator of the store in the place of a column takes a native
    document as its own condition. -/
def whereEq (b : Builder) (connector : Connector) (column : String) (value : Value) : Builder :=
  let operator := if isOperatorKey column && value.isNativeDocument then .raw else .eq
  b.addClause connector column operator value

/-- Compares with an operator, which has to accept the operand. -/
def whereOp (connector : Connector) (column : String) (operator : Operator) (operand : Value) :
    Attempt := do
  let clause ← ofExcept (Clause.checked ⟨column, operator, operand, connector⟩)
  modify fun b => b.addPredicate (.clause clause)

def whereIn (b : Builder) (connector : Connector) (column : String) (values : List Value) :
    Builder :=
  b.addClause connector column .isIn (.array values)

def whereNotIn (b : Builder) (connector : Connector) (column : String) (values : List Value) :
    Builder :=
  b.addClause connector column .notIn (.array values)

def whereNull (b : Builder) (column : String) : Builder := b.addClause .and column .eq .null

def whereNotNull (b : Builder) (column : String) : Builder := b.addClause .and column .ne .null

/-- Both bounds belong to the range. -/
def whereBetween (b : Builder) (column : String) (low high : Value) : Builder :=
  b.addClause .and column .between (.array [low, high])

def whereNotBetween (b : Builder) (column : String) (low high : Value) : Builder :=
  b.addClause .and column .notBetween (.array [low, high])

/-- Adds predicates in parentheses. -/
def addGroup (b : Builder) (connector : Connector) (members : List Predicate) : Builder :=
  b.addPredicate (.group members connector)

/-! ## Orders -/

def setOrders (b : Builder) (orders : Option (List OrderClause)) : Builder :=
  { b with query := { b.query with orders := orders } }

/-- Adds an order behind the others. -/
def addOrder (b : Builder) (order : OrderClause) : Builder :=
  b.setOrders (some (b.query.orderList ++ [order]))

def orderBy (b : Builder) (column : String) : Builder := b.addOrder (.ascending column)

def orderByDesc (b : Builder) (column : String) : Builder := b.addOrder (.descending column)

def orderByWith (column : String) (direction : DirectionArg) : Attempt := do
  let order ← ofExcept (OrderClause.make column direction)
  modify fun b => b.addOrder order

/-- The latest first. -/
def latest (b : Builder) (column : String) : Builder := b.orderByDesc column

/-- The oldest first. -/
def oldest (b : Builder) (column : String) : Builder := b.orderBy column

/-- Drops all orders. -/
def reorder (b : Builder) : Builder := b.setOrders none

/-- Drops all orders for a new one. -/
def reorderBy (column : String) (direction : DirectionArg) : Attempt := do
  let order ← ofExcept (OrderClause.make column direction)
  modify fun b => b.setOrders (some [order])

/-! ## The window of the result -/

def limit (b : Builder) (n : UInt64) : Builder :=
  { b with query := { b.query with limit := some n } }

def offset (b : Builder) (n : UInt64) : Builder :=
  { b with query := { b.query with offset := some n } }

def take (b : Builder) (n : UInt64) : Builder := b.limit n

def skip (b : Builder) (n : UInt64) : Builder := b.offset n

/-- The number of results before a page; pages count from one, page zero is page one, and a number
    beyond the range of counts is cut down to its end. -/
def pageStart (page perPage : UInt64) : UInt64 :=
  UInt64.ofNat (min ((page.toNat - 1) * perPage.toNat) 18446744073709551615)

/-- Selects one page of the result. -/
def forPage (b : Builder) (page perPage : UInt64) : Builder :=
  (b.offset (pageStart page perPage)).limit perPage

/-! ## Columns -/

/-- Shows these columns only. -/
def select (b : Builder) (columns : List String) : Builder :=
  { b with query := { b.query with columns := some columns } }

/-- Shows these columns too. -/
def addSelect (b : Builder) (columns : List String) : Builder :=
  b.select (b.query.columns.getD [] ++ columns)

/-- Says what to show of further columns; what is said last about a column counts. -/
def project (b : Builder) (projection : Document) : Builder :=
  let current := b.query.projection.getD .empty
  { b with query := { b.query with projection := some (current.insertAll projection.entries) } }

def groupBy (b : Builder) (columns : List String) : Builder :=
  { b with query := { b.query with groups := b.query.groups ++ columns } }

def distinct (b : Builder) (column : String) : Builder :=
  { b with query := { b.query with distinct := some column } }

/-! ## Options -/

def setOptions (b : Builder) (options : QueryOptions) : Builder :=
  { b with query := { b.query with options := options } }

def hint (b : Builder) (index : Bson) : Builder :=
  b.setOptions { b.query.options with hint := some index }

def timeLimit (b : Builder) (millis : UInt64) : Builder :=
  b.setOptions { b.query.options with timeLimitMs := some millis }

def comment (b : Builder) (text : String) : Builder :=
  b.setOptions { b.query.options with comment := some text }

def allowDiskUse (b : Builder) (allow : Bool) : Builder :=
  b.setOptions { b.query.options with diskUse := some allow }

/-- Resets a part of the query. -/
def clear (b : Builder) : Slot → Builder
  | .predicates => { b with query := { b.query with predicates := [] } }
  | .lastPredicate => { b with query := { b.query with predicates := b.query.predicates.dropLast } }
  | .orders => b.setOrders none
  | .columns => { b with query := { b.query with columns := none } }
  | .projection => { b with query := { b.query with projection := none } }
  | .limit => { b with query := { b.query with limit := none } }
  | .offset => { b with query := { b.query with offset := none } }
  | .groups => { b with query := { b.query with groups := [] } }
  | .distinct => { b with query := { b.query with distinct := none } }
  | .options => b.setOptions .empty

/-! ## Commands -/

/-- The command of the query. -/
def toCommand (b : Builder) : Command := b.query.compile b.collection

/-- The command that computes a function over what the query selects. -/
def toAggregate (b : Builder) (function : AggregateFunction) (column : String) : Command :=
  b.query.compileAggregate b.collection function column

end Builder

end DocQuery
