import DocQuery.Order
import DocQuery.Predicate

/- Everything that a caller has asked for, before it becomes a command: predicates, orders,
   columns, a window of the result, groups, a distinct target and options. -/

namespace DocQuery

/-- Settings that travel with a command and do not change what it selects. -/
structure QueryOptions where
  /-- the index to use, by name or by keys -/
  hint : Option Bson
  timeLimitMs : Option UInt64
  comment : Option String
  diskUse : Option Bool
  deriving Repr

/-- What a query asks for. -/
structure Query where
  predicates : List Predicate
  /-- absent and empty orders both leave the result as it comes -/
  orders : Option (List OrderClause)
  /-- absent columns mean all of them -/
  columns : Option (List String)
  /-- what to show of a column in place of its value, or which columns to leave out -/
  projection : Option Document
  limit : Option UInt64
  offset : Option UInt64
  groups : List String
  distinct : Option String
  options : QueryOptions
  deriving Repr

/-- No settings. -/
def QueryOptions.empty : QueryOptions := ⟨none, none, none, none⟩

def QueryOptions.same (a b : QueryOptions) : Bool :=
  sameOption Bson.same a.hint b.hint && a.timeLimitMs == b.timeLimitMs && a.comment == b.comment &&
    a.diskUse == b.diskUse

namespace Query

/-- The query that selects everything. -/
def all : Query :=
  { predicates := [], orders := none, columns := none, projection := none, limit := none,
    offset := none, groups := [], distinct := none, options := .empty }

/-- The orders that count, none if they are absent. -/
def orderList (q : Query) : List OrderClause := q.orders.getD []

def hasOrders (q : Query) : Bool := !q.orderList.isEmpty

/-- Queries agree if all parts do; absent and empty orders are told apart. -/
def same (a b : Query) : Bool :=
  Predicate.sameMembers a.predicates b.predicates &&
    sameOption (sameList OrderClause.same) a.orders b.orders &&
    a.columns == b.columns &&
    sameOption Document.same a.projection b.projection &&
    a.limit == b.limit && a.offset == b.offset && a.groups == b.groups &&
    a.distinct == b.distinct && a.options.same b.options

end Query

end DocQuery
