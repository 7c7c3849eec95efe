import DocQuery.Error
import DocQuery.Text.Basic

/- The columns by which the result of a query is ordered, and the directions in which. -/

namespace DocQuery

/-- The direction of an order. -/
inductive Direction where
  | ascending
  | descending
  /-- by metadata of the store, such as the score of a text search -/
  | metadata (spec : Document)
  deriving Repr

namespace Direction

/-- The stored value that stands for a direction in a sort document. -/
def toBson : Direction → Bson
  | .ascending => .int32 1
  | .descending => .int32 (-1)
  | .metadata spec => .document spec

def same : Direction → Direction → Bool
  | .ascending, .ascending => true
  | .descending, .descending => true
  | .metadata a, .metadata b => a.same b
  | _, _ => false

end Direction

/-- What a caller may give for a direction. -/
inductive DirectionArg where
  | keyword (word : String)
  | number (n : Int64)
  | native (spec : Document)
  deriving Repr

namespace DirectionArg

/-- A direction given as such. -/
def ofDirection : Direction → DirectionArg
  | .ascending => .number 1
  | .descending => .number (-1)
  | .metadata spec => .native spec

/-- The direction that is meant: `asc` and `desc` in any case, 1 and -1, or metadata. -/
def resolve : DirectionArg → Except QueryError Direction
  | .keyword word =>
    if Text.sameIgnoringCase word "asc" then .ok .ascending
    else if Text.sameIgnoringCase word "desc" then .ok .descending
    else .error .unknownDirection
  | .number n =>
    if n = 1 then .ok .ascending
    else if n = -1 then .ok .descending
    else .error .unknownDirection
  | .native spec => .ok (.metadata spec)

end DirectionArg

/-- One column to order by. -/
structure OrderClause where
  column : String
  direction : Direction
  deriving Repr

namespace OrderClause

def ascending (column : String) : OrderClause := ⟨column, .ascending⟩

def descending (column : String) : OrderClause := ⟨column, .descending⟩

/-- The order by a column in a direction that is still to be resolved. -/
def make (column : String) (direction : DirectionArg) : Except QueryError OrderClause :=
  match direction.resolve with
  | .ok d => .ok ⟨column, d⟩
  | .error e => .error e

def same (a b : OrderClause) : Bool := a.column == b.column && a.direction.same b.direction

end OrderClause

end DocQuery
