import DocQuery.Command
import DocQuery.Filter.Basic
import DocQuery.Query.Group

/- Which command a query becomes, and with which options. A distinct target comes first, then
   groups, and a query with neither is a search. Each kind of command takes some of the options
   and leaves the others out. -/

namespace DocQuery

/-! ## The order of the result -/

/-- The sort document of a list of orders. A column that is ordered by twice keeps its first place and
    takes the last direction. -/
def sortOf (orders : List OrderClause) : Document :=
  .ofList (orders.map fun order => (order.column, order.direction.toBson))

/-- The sort document of a query's orders; there is none without orders. -/
def sortOf? : Option (List OrderClause) → Option Document
  | some (first :: rest) => some (sortOf (first :: rest))
  | _ => none

/-! ## What is shown of the result -/

/-- The entries of the selected columns. The column `*` selects nothing by itself. -/
def selected (columns : List String) : List (String × Bson) :=
  (columns.filter fun column => column != "*").map fun column => (column, .int32 1)

/-- The projection document: first the selected columns, then what the projection says about them and
    about others. -/
def projectionOf (columns : Option (List String)) (projection : Option Document) : Document :=
  .ofList (selected (columns.getD []) ++ (projection.getD .empty).entries)

/-- The projection document, if there is anything in it. -/
def projectionOf? (columns : Option (List String)) (projection : Option Document) :
    Option Document :=
  let doc := projectionOf columns projection
  if doc.isEmpty then none else some doc

namespace Query

/-! ## Options and commands -/

/-- The options of every command. -/
def addCommonOptions (q : Query) (options : Document) : Document :=
  (options.insert? "maxTimeMS" (q.options.timeLimitMs.map .ofCount)).insert? "comment"
    (q.options.comment.map .string)

/-- The options of a search. -/
def findOptions (q : Query) : Document :=
  q.addCommonOptions <|
    ((((OrderedMap.empty.insert? "limit" (q.limit.map .ofCount)).insert? "skip"
      (q.offset.map .ofCount)).insert? "projection"
      ((projectionOf? q.columns q.projection).map .document)).insert? "sort"
      ((sortOf? q.orders).map .document)).insert? "hint" q.options.hint

/-- The options of a pipeline. -/
def aggregateOptions (q : Query) : Document :=
  q.addCommonOptions <|
    (OrderedMap.empty.insert? "allowDiskUse" (q.options.diskUse.map .bool)).insert? "hint"
      q.options.hint

/-- The options of a search for distinct values. -/
def distinctOptions (q : Query) : Document := q.addCommonOptions .empty

/-- The command of a query. -/
def compile (collection : String) (q : Query) : Command :=
  match q.distinct with
  | some field => .distinct collection field (filterOf q.predicates) q.distinctOptions
  | none =>
    if q.groups.isEmpty then .find collection (filterOf q.predicates) q.findOptions
    else
      .aggregate collection (pipelineOf (filterOf q.predicates) (groupStage q.groups))
        q.aggregateOptions

/-- The command that computes a function over what a query selects. -/
def compileAggregate (collection : String) (q : Query) (function : AggregateFunction)
    (column : String) : Command :=
  .aggregate collection
    (pipelineOf (filterOf q.predicates) (aggregateStage q.groups function column))
    q.aggregateOptions

end Query

end DocQuery
