import DocQuery.Error

/- A list of predicates restricts what a query selects. A predicate is a clause on one column or a
   group of predicates in parentheses, and each says how it is joined to the ones before it. -/

namespace DocQuery

/-- How a predicate is joined to the ones before it. -/
inductive Connector where
  | and
  | or
  deriving DecidableEq, Repr, Inhabited

/-- A comparison of one column with an operand. -/
structure Clause where
  column : String
  operator : Operator
  operand : Value
  connector : Connector
  deriving Repr

namespace Clause

/-- The operand meets the condition of the operator. -/
def isFit (c : Clause) : Bool := c.operator.requirement.accepts c.operand

/-- The clause, if its operand is fit. -/
def checked (c : Clause) : Except QueryError Clause :=
  if c.isFit then .ok c else .error (.unfitOperand c.operator c.column)

/-- Clauses agree if all parts do. -/
def same (a b : Clause) : Bool :=
  a.column == b.column && a.operator == b.operator && a.operand.same b.operand &&
    a.connector == b.connector

theorem checked_eq_ok {c d : Clause} (h : c.checked = .ok d) : d = c ∧ c.isFit = true := by
  unfold checked at h
  split at h
  · next fit => exact ⟨(Except.ok.inj h).symm, fit⟩
  · cases h

end Clause

/-- A restriction of a query. -/
inductive Predicate where
  | clause (clause : Clause)
  /-- predicates in parentheses -/
  | group (members : List Predicate) (connector : Connector)
  deriving Repr

namespace Predicate

def connector : Predicate → Connector
  | .clause c => c.connector
  | .group _ connector => connector

mutual

/-- A group in which there is no clause at any depth. -/
def isEmptyGroup : Predicate → Bool
  | .clause _ => false
  | .group members _ => allEmptyGroups members

/-- All of the listed predicates are empty groups. -/
def allEmptyGroups : List Predicate → Bool
  | [] => true
  | p :: rest => p.isEmptyGroup && allEmptyGroups rest

end

theorem allEmptyGroups_eq_all (ps : List Predicate) :
    allEmptyGroups ps = ps.all isEmptyGroup := by
  induction ps with
  | nil => rfl
  | cons p rest ih => simp only [allEmptyGroups, List.all_cons, ih]

mutual

/-- The clauses at any depth, from left to right. -/
def clauses : Predicate → List Clause
  | .clause c => [c]
  | .group members _ => clausesOf members

/-- The clauses of all listed predicates. -/
def clausesOf : List Predicate → List Clause
  | [] => []
  | p :: rest => p.clauses ++ clausesOf rest

end

theorem clausesOf_eq_flatMap (ps : List Predicate) : clausesOf ps = ps.flatMap clauses := by
  induction ps with
  | nil => rfl
  | cons p rest ih => simp only [clausesOf, List.flatMap_cons, ih]

mutual

/-- The empty groups are the predicates without clauses. -/
theorem isEmptyGroup_eq (p : Predicate) : p.isEmptyGroup = p.clauses.isEmpty := by
  cases p with
  | clause c => rfl
  | group members connector => exact allEmptyGroups_eq members

theorem allEmptyGroups_eq (ps : List Predicate) :
    allEmptyGroups ps = (clausesOf ps).isEmpty := by
  cases ps with
  | nil => rfl
  | cons p rest =>
    rw [allEmptyGroups, clausesOf, isEmptyGroup_eq p, allEmptyGroups_eq rest]
    cases p.clauses <;> rfl

end

mutual

/-- Predicates agree if they have the same form and agreeing clauses. -/
def same : Predicate → Predicate → Bool
  | .clause a, .clause b => a.same b
  | .group as c, .group bs d => sameMembers as bs && c == d
  | _, _ => false

/-- Lists of predicates agree place by place. -/
def sameMembers : List Predicate → List Predicate → Bool
  | [], [] => true
  | a :: as, b :: bs => a.same b && sameMembers as bs
  | _, _ => false

end

end Predicate

end DocQuery
