import DocQuery.Query.Compile

/- What the builder reports while it works. Every event has a level, a fixed message and named
   texts. -/

namespace DocQuery

/-- How much an event matters. -/
inductive Level where
  | trace
  | debug
  | warn
  deriving DecidableEq, Repr

/-- Something worth reporting. -/
inductive Event where
  /-- a query became a command; the numbers are those of its predicates and orders -/
  | compiled (collection command : String) (predicates orders : Nat)
  /-- the command in full -/
  | commandText (text : String)
  /-- a function over a column became a command -/
  | aggregated (collection : String) (function : AggregateFunction) (column : String)
  /-- a relational method was called -/
  | refused (method : RelationalMethod)
  deriving DecidableEq, Repr

namespace Event

def level : Event → Level
  | .compiled .. | .aggregated .. => .debug
  | .commandText _ => .trace
  | .refused _ => .warn

def message : Event → String
  | .compiled .. => "compiled query"
  | .commandText _ => "compiled mql"
  | .aggregated .. => "compiled aggregate function"
  | .refused _ => "relational method has no document-store translation"

/-- The named texts of an event. -/
def fields : Event → List (String × String)
  | .compiled collection command predicates orders =>
    [("collection", collection), ("command", command),
      ("wheres", Decimal.naturalText predicates), ("orders", Decimal.naturalText orders)]
  | .commandText text => [("mql", text)]
  | .aggregated collection function column =>
    [("collection", collection), ("function", function.name), ("column", column)]
  | .refused method => [("method", method.name)]

end Event

/-- The events of a query that becomes a command. -/
def Query.compileEvents (collection : String) (q : Query) : List Event :=
  let command := q.compile collection
  [.compiled collection command.name q.predicates.length q.orderList.length,
    .commandText command.text]

end DocQuery
