import DocQuery.Filter.Branch

/- The filter document of a list of predicates. Empty groups do not count. Conjunction binds
   tighter than disjunction: the list is cut before every predicate that is joined by `or`, each
   of the runs becomes one document, and several documents become alternatives. A group is a
   filter of its own. -/

namespace DocQuery

/-- Cuts a list before each element that `starts` a run; the first element starts one anyway. -/
def cutBefore {α : Type} (starts : α → Bool) : List α → List (List α)
  | [] => []
  | [a] => [[a]]
  | a :: b :: rest =>
    match cutBefore starts (b :: rest) with
    | [] => [[a]]
    | run :: runs => if starts b then [a] :: run :: runs else (a :: run) :: runs

/-- Cutting loses nothing and changes no order. -/
theorem flatten_cutBefore {α : Type} (starts : α → Bool) (l : List α) :
    (cutBefore starts l).flatten = l := by
  fun_induction cutBefore starts l with
  | case1 => rfl
  | case2 => rfl
  | case3 a b rest empty ih =>
    rw [empty] at ih
    simp at ih
  | case4 a b rest run runs found cut ih =>
    rw [found] at ih
    simp only [List.flatten_cons] at ih ⊢
    simp [ih]
  | case5 a b rest run runs found stays ih =>
    rw [found] at ih
    simp only [List.flatten_cons] at ih ⊢
    simp [ih]

/-- Every run has a member. -/
theorem ne_nil_of_mem_cutBefore {α : Type} {starts : α → Bool} {l run : List α}
    (h : run ∈ cutBefore starts l) : run ≠ [] := by
  fun_induction cutBefore starts l with
  | case1 => cases h
  | case2 a =>
    rcases List.mem_singleton.mp h with rfl
    exact List.cons_ne_nil _ _
  | case3 a b rest empty ih =>
    rcases List.mem_singleton.mp h with rfl
    exact List.cons_ne_nil _ _
  | case4 a b rest first runs found cut ih =>
    rcases List.mem_cons.mp h with rfl | later
    · exact List.cons_ne_nil _ _
    · exact ih (found ▸ later)
  | case5 a b rest first runs found stays ih =>
    rcases List.mem_cons.mp h with rfl | later
    · exact List.cons_ne_nil _ _
    · exact ih (found ▸ List.mem_cons_of_mem _ later)

/-- The members of a run are members of the list. -/
theorem mem_of_mem_cutBefore {α : Type} {starts : α → Bool} {l run : List α} {a : α}
    (h : run ∈ cutBefore starts l) (ha : a ∈ run) : a ∈ l := by
  rw [← flatten_cutBefore starts l]
  exact List.mem_flatten.mpr ⟨run, h, ha⟩

/-- The document that holds if one of the given documents does; no alternatives mean no
    restriction. -/
def joinAlternatives : List Document → Document
  | [] => .empty
  | [doc] => doc
  | docs => Document.anyOf docs

/-- The document of a list of parts. -/
def joinParts (parts : List Part) : Document :=
  joinAlternatives ((cutBefore (fun part => part.connector == .or) parts).map Branch.documentOf)

namespace Predicate

/-- The document of a predicate may share columns with others: groups keep theirs to themselves. -/
def isMergeable : Predicate → Bool
  | .clause c => c.isMergeable
  | .group _ _ => false

mutual

/-- The filter document of one predicate. -/
def document : Predicate → Document
  | .clause c => c.document
  | .group members _ => joinParts (parts members)

/-- The parts of a list of predicates, without those of empty groups. -/
def parts : List Predicate → List Part
  | [] => []
  | p :: rest =>
    if p.isEmptyGroup then parts rest
    else ⟨p.connector, p.document, p.isMergeable⟩ :: parts rest

end

/-- A predicate as a part. -/
def part (p : Predicate) : Part := ⟨p.connector, p.document, p.isMergeable⟩

theorem parts_eq_map (ps : List Predicate) :
    parts ps = (ps.filter fun p => !p.isEmptyGroup).map part := by
  induction ps with
  | nil => rfl
  | cons p rest ih =>
    rw [parts, List.filter_cons]
    cases h : p.isEmptyGroup with
    | true => simp only [if_true, Bool.not_true, Bool.false_eq_true, if_false, ih]
    | false => simp only [Bool.false_eq_true, if_false, Bool.not_false, if_true, List.map_cons, ih,
        part]

end Predicate

/-- The filter document of a list of predicates. -/
def filterOf (predicates : List Predicate) : Document := joinParts (Predicate.parts predicates)

/-- The filter of a group is that of its members, however the group is joined. -/
theorem document_group (members : List Predicate) (connector : Connector) :
    (Predicate.group members connector).document = filterOf members := rfl

end DocQuery
