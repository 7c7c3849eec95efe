import DocQuery.Query.Basic

/- The pipeline of a query over groups: the filter first, if it restricts anything, then the stage
   that forms the groups. The key of a group is a document of the columns, and each column is kept
   under its own name as well. -/

namespace DocQuery

/-- A function over the documents of a group. -/
inductive AggregateFunction where
  | count
  | sum
  | avg
  | min
  | max
  deriving DecidableEq, Repr

namespace AggregateFunction

/-- The name by which events call a function. -/
def name : AggregateFunction → String
  | .count => "Count"
  | .sum => "Sum"
  | .avg => "Avg"
  | .min => "Min"
  | .max => "Max"

theorem name_injective {f g : AggregateFunction} (h : f.name = g.name) : f = g := by
  cases f <;> cases g <;> first | rfl | simp [name] at h

/-- The store's operator for a function; counting sums up ones. -/
def operatorKey : AggregateFunction → String
  | .count | .sum => "$sum"
  | .avg => "$avg"
  | .min => "$min"
  | .max => "$max"

end AggregateFunction

/-- The reference to the value of a column. -/
def columnReference (column : String) : Bson := .string ("$" ++ column)

/-- The accumulator of a function over a column. -/
def AggregateFunction.accumulator (function : AggregateFunction) (column : String) : Document :=
  .single function.operatorKey <|
    match function with
    | .count => .int32 1
    | _ => columnReference column

/-- The key of the groups: each column with a reference to it. -/
def groupKey (groups : List String) : Document :=
  .ofList (groups.map fun column => (column, columnReference column))

/-- The stage that forms groups, with the last value of each of their columns. -/
def groupStage (groups : List String) : Document :=
  (OrderedMap.single "_id" (.document (groupKey groups))).insertAll
    (groups.map fun column => (column, .document (.single "$last" (columnReference column))))

/-- The stage that computes a function over each group; without groups, all is one group. -/
def aggregateStage (groups : List String) (function : AggregateFunction) (column : String) :
    Document :=
  let stage := if groups.isEmpty then OrderedMap.single "_id" .null else groupStage groups
  stage.insert "aggregate" (.document (function.accumulator column))

/-- The pipeline of a filter and a group stage. -/
def pipelineOf (filter stage : Document) : List Document :=
  let grouping := [OrderedMap.single "$group" (.document stage)]
  if filter.isEmpty then grouping else .single "$match" (.document filter) :: grouping

end DocQuery
