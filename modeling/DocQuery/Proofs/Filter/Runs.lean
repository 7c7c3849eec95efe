import Mathlib.Data.List.Forall2
import Mathlib.Data.List.SplitBy
import DocQuery.Filter.Basic

/- The runs into which a list is cut. `cutBefore_eq_splitBy` says where the cuts are, in the words
   of the library's splitting by a relation between neighbours. -/

namespace DocQuery

/-- The first run begins with the first element, and where the cuts are does not depend on it. -/
theorem cutBefore_cons_any {α : Type} (starts : α → Bool) (l : List α) :
    ∃ run runs, ∀ a, cutBefore starts (a :: l) = (a :: run) :: runs := by
  cases l with
  | nil => exact ⟨[], [], fun _ => rfl⟩
  | cons b rest =>
    cases found : cutBefore starts (b :: rest) with
    | nil =>
      refine ⟨[], [], ?_⟩
      intro a
      rw [cutBefore, found]
    | cons run runs =>
      cases cut : starts b with
      | true =>
        refine ⟨[], run :: runs, ?_⟩
        intro a
        simp only [cutBefore, found, cut, if_true]
      | false =>
        refine ⟨run, runs, ?_⟩
        intro a
        simp only [cutBefore, found, cut, Bool.false_eq_true, if_false]

/-- The first run begins with the first element. -/
theorem cutBefore_cons {α : Type} (starts : α → Bool) (a : α) (l : List α) :
    ∃ run runs, cutBefore starts (a :: l) = (a :: run) :: runs := by
  obtain ⟨run, runs, first⟩ := cutBefore_cons_any starts l
  exact ⟨run, runs, first a⟩

theorem isEmpty_cutBefore {α : Type} (starts : α → Bool) (l : List α) :
    (cutBefore starts l).isEmpty = l.isEmpty := by
  cases l with
  | nil => rfl
  | cons a rest =>
    obtain ⟨run, runs, first⟩ := cutBefore_cons starts a rest
    rw [first]
    rfl

/-- Runs are cut apart exactly where an element starts one. -/
theorem cutBefore_eq_splitBy {α : Type} (starts : α → Bool) (l : List α) :
    cutBefore starts l = l.splitBy fun _ next => !starts next := by
  refine (List.splitBy_eq_iff.mpr ⟨(flatten_cutBefore starts l).symm,
    fun h => ne_nil_of_mem_cutBefore h rfl, ?_, ?_⟩).symm
  · -- Inside of a run no element after the first starts one.
    fun_induction cutBefore starts l with
    | case1 => simp
    | case2 a => simp
    | case3 a b rest empty ih => simp
    | case4 a b rest run runs found cut ih =>
      intro r hr
      rcases List.mem_cons.mp hr with rfl | later
      · simp
      · exact ih r (found ▸ later)
    | case5 a b rest run runs found stays ih =>
      intro r hr
      obtain ⟨run', runs', first⟩ := cutBefore_cons starts b rest
      rw [found] at first ih
      cases first
      rcases List.mem_cons.mp hr with rfl | later
      · exact List.isChain_cons_cons.mpr ⟨by simpa using stays, ih _ List.mem_cons_self⟩
      · exact ih r (List.mem_cons_of_mem _ later)
  · -- Between two runs there is a cut, since the second begins with an element that starts one.
    fun_induction cutBefore starts l with
    | case1 => simp
    | case2 a => simp
    | case3 a b rest empty ih => simp
    | case4 a b rest run runs found cut ih =>
      obtain ⟨run', runs', first⟩ := cutBefore_cons starts b rest
      rw [found] at first ih
      cases first
      exact List.isChain_cons_cons.mpr
        ⟨⟨List.cons_ne_nil _ _, List.cons_ne_nil _ _, by simpa using cut⟩, ih⟩
    | case5 a b rest run runs found stays ih =>
      rw [found] at ih
      cases runs with
      | nil => simp
      | cons second runs =>
        obtain ⟨⟨_, nonempty, cut⟩, later⟩ := List.isChain_cons_cons.mp ih
        exact List.isChain_cons_cons.mpr ⟨⟨List.cons_ne_nil _ _, nonempty, cut⟩, later⟩

/-- Inside of a run no element after the first starts one. -/
theorem starts_of_mem_tail {α : Type} {starts : α → Bool} {l run : List α}
    (h : run ∈ cutBefore starts l) {a : α} (ha : a ∈ run.tail) : starts a = false := by
  rw [cutBefore_eq_splitBy] at h
  have chain := List.isChain_of_mem_splitBy h
  -- The relation looks at the second element only, so it is transitive.
  have : Trans (fun _ next : α => (!starts next) = true) (fun _ next => (!starts next) = true)
      fun _ next => (!starts next) = true := ⟨fun _ stays => stays⟩
  cases run with
  | nil => cases ha
  | cons first rest =>
    have stays := (List.pairwise_cons.mp chain.pairwise).1 a ha
    simpa using stays

/-- Where no element after the first starts a run, the list is the only one. -/
theorem cutBefore_of_joined {α : Type} {starts : α → Bool} {l : List α} (nonempty : l ≠ [])
    (joined : ∀ a ∈ l.tail, starts a = false) : cutBefore starts l = [l] := by
  induction l with
  | nil => exact absurd rfl nonempty
  | cons a rest ih =>
    cases rest with
    | nil => rfl
    | cons b rest =>
      have stays : starts b = false := joined b List.mem_cons_self
      have whole : cutBefore starts (b :: rest) = [b :: rest] :=
        ih (List.cons_ne_nil b rest) fun a ha => joined a (List.mem_cons_of_mem b ha)
      rw [cutBefore, whole]
      simp [stays]

/-- Cutting looks at nothing but where runs start. -/
theorem cutBefore_map {α β : Type} (starts : β → Bool) (f : α → β) (l : List α) :
    cutBefore starts (l.map f) = (cutBefore (fun a => starts (f a)) l).map (List.map f) := by
  fun_induction cutBefore (fun a => starts (f a)) l with
  | case1 => rfl
  | case2 a => rfl
  | case3 a b rest empty ih =>
    simp only [List.map_cons] at ih ⊢
    rw [cutBefore, ih, empty]
    rfl
  | case4 a b rest run runs found cut ih =>
    simp only [List.map_cons] at ih ⊢
    rw [cutBefore, ih, found]
    simp [cut]
  | case5 a b rest run runs found stays ih =>
    simp only [List.map_cons] at ih ⊢
    rw [cutBefore, ih, found]
    simp [stays]

/-- Lists with related elements, which start runs at the same places, have related runs. -/
theorem forall₂_cutBefore {α β : Type} {R : α → β → Prop} {starts : α → Bool} {starts' : β → Bool}
    (agree : ∀ a b, R a b → starts a = starts' b) {l : List α} {m : List β}
    (h : List.Forall₂ R l m) :
    List.Forall₂ (List.Forall₂ R) (cutBefore starts l) (cutBefore starts' m) := by
  induction h with
  | nil => exact .nil
  | @cons a b l m first rest ih =>
    cases rest with
    | nil => exact .cons (.cons first .nil) .nil
    | @cons a' b' l m second rest =>
      obtain ⟨run, runs, found⟩ := cutBefore_cons starts a' l
      obtain ⟨run', runs', found'⟩ := cutBefore_cons starts' b' m
      rw [found, found'] at ih
      rw [cutBefore, cutBefore, found, found']
      simp only [agree a' b' second]
      obtain _ | ⟨related, others⟩ := ih
      split
      · exact .cons (.cons first .nil) (.cons related others)
      · exact .cons (.cons first related) others

/-- Without empty groups, and with no predicate after the first that is joined by `or`, a filter is
    one branch. -/
theorem filterOf_of_joined {ps : List Predicate} (nonempty : ∀ p ∈ ps, p.isEmptyGroup = false)
    (joined : ∀ p ∈ ps.tail, p.connector = .and) :
    filterOf ps = Branch.documentOf (ps.map Predicate.part) := by
  have parts : Predicate.parts ps = ps.map Predicate.part := by
    rw [Predicate.parts_eq_map, List.filter_eq_self.mpr fun p hp => by simp [nonempty p hp]]
  by_cases none : ps = []
  · rw [none]
    rfl
  · have cut : cutBefore (fun part : Part => part.connector == .or) (ps.map Predicate.part) =
        [ps.map Predicate.part] := by
      apply cutBefore_of_joined (by simpa using none)
      intro part hp
      rw [← List.map_tail] at hp
      obtain ⟨p, listed, rfl⟩ := List.mem_map.mp hp
      show (p.connector == .or) = false
      rw [joined p listed]
      rfl
    rw [filterOf, joinParts, parts, cut]
    rfl

end DocQuery
