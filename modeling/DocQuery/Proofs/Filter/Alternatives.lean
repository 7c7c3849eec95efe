import DocQuery.Proofs.Filter.Emptiness
import DocQuery.Proofs.Filter.Runs

/- Where the alternatives of a filter begin. Empty groups are dropped first, with the connector that
   they carry; what is left is cut before every predicate that is joined by `or`, the first one
   apart. Each of the runs is a filter of its own, and several become alternatives. So neither empty
   groups nor the connector of the first predicate that is no empty group reach the document, at
   any depth: a group is empty only if its filter is (`Predicate.document_eq_empty_iff`), so a change
   inside of a group that leaves its filter as it is leaves the list around it as it is. Main
   statement: `filter_of_alternatives`. -/

namespace DocQuery

/-! ## Runs -/

/-- The first part stands in front however it is joined. -/
theorem joinParts_cons_connector (part : Part) (connector : Connector) (rest : List Part) :
    joinParts ({ part with connector := connector } :: rest) = joinParts (part :: rest) := by
  obtain ⟨run, runs, first⟩ := cutBefore_cons_any (fun p : Part => p.connector == .or) rest
  rw [joinParts, joinParts, first, first]
  -- A branch reads the documents of its parts and whether they are mergeable.
  rfl

namespace Predicate

theorem parts_append (ps qs : List Predicate) : parts (ps ++ qs) = parts ps ++ parts qs := by
  rw [parts_eq_map, parts_eq_map, parts_eq_map, List.filter_append, List.map_append]

theorem parts_cons_of_empty {p : Predicate} (empty : p.isEmptyGroup = true)
    (rest : List Predicate) : parts (p :: rest) = parts rest := by
  rw [parts, if_pos empty]

/-- Predicates are empty groups together if they have the same document. -/
theorem isEmptyGroup_eq_of_document {p q : Predicate} (same : p.document = q.document) :
    p.isEmptyGroup = q.isEmptyGroup := by
  rw [Bool.eq_iff_iff, ← document_eq_empty_iff, ← document_eq_empty_iff, same]

/-- The part that a predicate is joined as is all that the list around it sees. -/
theorem parts_cons_congr {p q : Predicate} (same : p.part = q.part) (rest : List Predicate) :
    parts (p :: rest) = parts (q :: rest) := by
  rw [parts, parts, isEmptyGroup_eq_of_document (congrArg Part.document same)]
  split
  · rfl
  · exact congrArg (fun part => part :: parts rest) same

/-- Of the members of a group the list around it sees their filter. -/
theorem part_group_congr (connector : Connector) {members members' : List Predicate}
    (same : filterOf members' = filterOf members) :
    (group members' connector).part = (group members connector).part :=
  congrArg (fun d => (⟨connector, d, false⟩ : Part)) same

/-- The runs of a list of predicates: the list without empty groups, cut before every predicate
    after the first that is joined by `or`. -/
def alternatives (ps : List Predicate) : List (List Predicate) :=
  (ps.filter fun p => !p.isEmptyGroup).splitBy fun _ next => next.connector != .or

theorem alternatives_eq_cutBefore (ps : List Predicate) :
    alternatives ps =
      cutBefore (fun p => p.connector == .or) (ps.filter fun p => !p.isEmptyGroup) :=
  (cutBefore_eq_splitBy _ _).symm

/-- A run is one branch. -/
theorem filterOf_of_mem_alternatives {ps run : List Predicate} (h : run ∈ alternatives ps) :
    filterOf run = Branch.documentOf (run.map part) := by
  rw [alternatives_eq_cutBefore] at h
  apply filterOf_of_joined
  · intro p hp
    have kept := mem_of_mem_cutBefore h hp
    rw [List.mem_filter] at kept
    simpa using kept.2
  · intro p hp
    have stays := starts_of_mem_tail h hp
    cases joined : p.connector with
    | and => rfl
    | or => simp [joined] at stays

/-- A filter is that of its runs, as alternatives. -/
theorem filterOf_eq_joinAlternatives (ps : List Predicate) :
    filterOf ps = joinAlternatives ((alternatives ps).map filterOf) := by
  have branches : (alternatives ps).map filterOf =
      ((alternatives ps).map (List.map part)).map Branch.documentOf := by
    rw [List.map_map]
    exact List.map_congr_left fun run hr => filterOf_of_mem_alternatives hr
  have cut : cutBefore (fun part => part.connector == .or) (parts ps) =
      (alternatives ps).map (List.map part) := by
    rw [parts_eq_map, cutBefore_map, alternatives_eq_cutBefore]
    rfl
  rw [filterOf, joinParts, cut, branches]

/-! ## Empty groups -/

mutual

/-- The predicate without the empty groups in it. -/
def pruned : Predicate → Predicate
  | .clause c => .clause c
  | .group members connector => .group (withoutEmptyGroups members) connector

/-- The listed predicates without empty groups, at any depth. -/
def withoutEmptyGroups : List Predicate → List Predicate
  | [] => []
  | p :: rest =>
    if p.isEmptyGroup then withoutEmptyGroups rest else p.pruned :: withoutEmptyGroups rest

end

mutual

theorem part_pruned (p : Predicate) : p.pruned.part = p.part := by
  cases p with
  | clause c => rfl
  | group members connector =>
    have same : filterOf (withoutEmptyGroups members) = filterOf members :=
      congrArg joinParts (parts_withoutEmptyGroups members)
    exact part_group_congr connector same

theorem parts_withoutEmptyGroups (ps : List Predicate) :
    parts (withoutEmptyGroups ps) = parts ps := by
  cases ps with
  | nil => rfl
  | cons p rest =>
    have later := parts_withoutEmptyGroups rest
    rw [withoutEmptyGroups]
    split
    · next empty => rw [parts_cons_of_empty empty, later]
    · rw [parts_cons_congr (part_pruned p), parts, parts, later]

end

/-! ## Connectors -/

/-- The predicate, joined in a given way. -/
def joinedBy (connector : Connector) : Predicate → Predicate
  | .clause c => .clause { c with connector := connector }
  | .group members _ => .group members connector

theorem part_joinedBy (p : Predicate) (connector : Connector) :
    (p.joinedBy connector).part = { p.part with connector := connector } := by
  cases p <;> rfl

/-- The first predicate that is no empty group may be joined in any way. -/
theorem joinParts_joinedBy {before : List Predicate}
    (skipped : ∀ q ∈ before, q.isEmptyGroup = true) (p : Predicate) (connector : Connector)
    (after : List Predicate) :
    joinParts (parts (before ++ p.joinedBy connector :: after)) =
      joinParts (parts (before ++ p :: after)) := by
  have none : parts before = [] := (parts_eq_nil_iff before).mpr skipped
  have same := part_joinedBy p connector
  have together : (p.joinedBy connector).isEmptyGroup = p.isEmptyGroup :=
    isEmptyGroup_eq_of_document (congrArg Part.document same)
  rw [parts_append, parts_append, none, List.nil_append, List.nil_append, parts, parts, together]
  split
  · rfl
  · have first : joinParts ((p.joinedBy connector).part :: parts after) =
        joinParts (p.part :: parts after) := by
      rw [same]
      exact joinParts_cons_connector p.part connector (parts after)
    exact first

/-- One change of a list of predicates: an empty group is dropped, the connector of the first
    predicate that is no empty group becomes another one, or there is such a change inside of a
    group. -/
inductive Tidies : List Predicate → List Predicate → Prop where
  | drop (before : List Predicate) {p : Predicate} (after : List Predicate)
      (empty : p.isEmptyGroup = true) : Tidies (before ++ p :: after) (before ++ after)
  | lead {before : List Predicate} (skipped : ∀ q ∈ before, q.isEmptyGroup = true) (p : Predicate)
      (connector : Connector) (after : List Predicate) :
      Tidies (before ++ p :: after) (before ++ p.joinedBy connector :: after)
  | within (before : List Predicate) {members members' : List Predicate} (connector : Connector)
      (after : List Predicate) (inner : Tidies members members') :
      Tidies (before ++ .group members connector :: after)
        (before ++ .group members' connector :: after)

theorem filterOf_of_tidies {ps qs : List Predicate} (h : Tidies ps qs) :
    filterOf qs = filterOf ps := by
  induction h with
  | drop before after empty =>
    rw [filterOf, filterOf, parts_append, parts_append, parts_cons_of_empty empty]
  | lead skipped p connector after => exact joinParts_joinedBy skipped p connector after
  | within before connector after _ ih =>
    have same := part_group_congr connector ih
    rw [filterOf, filterOf, parts_append, parts_append, parts_cons_congr same]

end Predicate

/-- The filter of a list of predicates is empty if there is no run, that of the run if there is one,
    and has the filters of the runs as alternatives if there are more. Empty groups, and how the
    first predicate that is none is joined, do not matter at any depth. -/
theorem filter_of_alternatives (ps : List Predicate) :
    filterOf ps = (match Predicate.alternatives ps with
      | [] => .empty
      | [run] => filterOf run
      | runs => Document.anyOf (runs.map filterOf)) ∧
    filterOf (Predicate.withoutEmptyGroups ps) = filterOf ps ∧
    ∀ qs, Predicate.Tidies ps qs → filterOf qs = filterOf ps := by
  refine ⟨?_, ?_, fun qs h => Predicate.filterOf_of_tidies h⟩
  · rw [Predicate.filterOf_eq_joinAlternatives]
    match Predicate.alternatives ps with
    | [] => rfl
    | [run] => rfl
    | _ :: _ :: _ => rfl
  · exact congrArg joinParts (Predicate.parts_withoutEmptyGroups ps)

/-- The empty group in front starts no run, whatever it carries, nor does the `or` behind it; the
    clause in the last group may be joined in either way. -/
theorem leading_or_starts_no_run :
    filterOf [.group [.group [] .or] .or, .clause ⟨"a", .eq, .int 1, .or⟩,
        .clause ⟨"b", .eq, .int 2, .and⟩,
        .group [.group [] .and, .clause ⟨"c", .eq, .int 3, .and⟩] .or] =
      Document.anyOf [⟨[("a", .int32 1), ("b", .int32 2)]⟩, ⟨[("c", .int32 3)]⟩] ∧
    filterOf [.group [.group [] .or] .or, .clause ⟨"a", .eq, .int 1, .or⟩,
        .clause ⟨"b", .eq, .int 2, .and⟩,
        .group [.group [] .and, .clause ⟨"c", .eq, .int 3, .or⟩] .or] =
      Document.anyOf [⟨[("a", .int32 1), ("b", .int32 2)]⟩, ⟨[("c", .int32 3)]⟩] := by
  obtain ⟨runs, _, tidied⟩ := filter_of_alternatives [.group [.group [] .or] .or,
    .clause ⟨"a", .eq, .int 1, .or⟩, .clause ⟨"b", .eq, .int 2, .and⟩,
    .group [.group [] .and, .clause ⟨"c", .eq, .int 3, .and⟩] .or]
  refine ⟨runs, (tidied _ ?_).trans runs⟩
  exact .within [.group [.group [] .or] .or, .clause ⟨"a", .eq, .int 1, .or⟩,
    .clause ⟨"b", .eq, .int 2, .and⟩] .or []
    (@Predicate.Tidies.lead [.group [] .and] (by decide) (.clause ⟨"c", .eq, .int 3, .and⟩) .or [])

end DocQuery
