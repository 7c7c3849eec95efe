import DocQuery.Proofs.OrderedMap
import DocQuery.Filter.Basic

/- The keys of filter documents. Whatever a caller's operands hold, a filter document names each key
   once (`Predicate.distinct_document`), so a lone part is never in its own way: it takes two to
   fill a listing under `$and` (`Branch.two_le_length_of_foldlM_add?`). -/

namespace DocQuery

/-- What every step of a fold keeps holds at its end. -/
theorem foldlM_invariant {σ α : Type} {P : σ → Prop} {f : σ → α → Option σ}
    (keeps : ∀ s a s', f s a = some s' → P s → P s') {l : List α} {s s' : σ}
    (h : l.foldlM f s = some s') (start : P s) : P s' := by
  induction l generalizing s with
  | nil =>
    cases h
    exact start
  | cons a rest ih =>
    rw [List.foldlM_cons] at h
    obtain ⟨middle, first, later⟩ := Option.bind_eq_some_iff.mp h
    exact ih later (keeps s a middle first start)

namespace Branch

/-! ## Distinct keys -/

theorem distinct_addEntry {closed : List String} {mergeable : Bool} {doc next : Document}
    {entry : String × Bson} (h : addEntry closed mergeable doc entry = some next)
    (distinct : doc.Distinct) : next.Distinct := by
  unfold addEntry at h
  split at h
  · cases h
    exact distinct.insert entry.1 entry.2
  · split at h
    · obtain ⟨joined, _, rfl⟩ := Option.map_eq_some_iff.mp h
      exact distinct.insert entry.1 joined
    · cases h

theorem distinct_add? {branch next : Branch} {part : Part} (h : branch.add? part = some next)
    (distinct : branch.document.Distinct) : next.document.Distinct := by
  unfold add? at h
  split at h
  · next doc taken =>
    cases h
    exact foldlM_invariant (P := OrderedMap.Distinct) (fun _ _ _ => distinct_addEntry) taken
      distinct
  · cases h

theorem distinct_documentOf (parts : List Part) : (documentOf parts).Distinct := by
  unfold documentOf
  split
  · next branch taken =>
    have start : empty.document.Distinct := OrderedMap.distinct_empty
    exact foldlM_invariant (P := fun b : Branch => b.document.Distinct)
      (fun _ _ _ => distinct_add?) taken start
  · exact OrderedMap.distinct_single _ _

/-! ## A lone part -/

/-- Keys that are all new are taken in as they are. -/
theorem foldlM_addEntry_fresh (closed : List String) (mergeable : Bool) (doc : Document)
    {entries : List (String × Bson)} (once : (entries.map Prod.fst).Nodup)
    (fresh : ∀ key ∈ entries.map Prod.fst, key ∉ doc.keys) :
    entries.foldlM (addEntry closed mergeable) doc = some ⟨doc.entries ++ entries⟩ := by
  induction entries generalizing doc with
  | nil => simp
  | cons entry rest ih =>
    rw [List.map_cons, List.nodup_cons] at once
    have new : entry.1 ∉ doc.keys := fresh entry.1 List.mem_cons_self
    have taken : addEntry closed mergeable doc entry = some ⟨doc.entries ++ [entry]⟩ := by
      rw [addEntry, (doc.find?_eq_none_iff entry.1).mpr new]
      simp only [OrderedMap.insert_of_not_mem entry.2 new]
    have later : ∀ key ∈ rest.map Prod.fst, key ∉ (⟨doc.entries ++ [entry]⟩ : Document).keys := by
      intro key hk known
      rw [OrderedMap.keys, List.map_append, List.mem_append] at known
      rcases known with old | here
      · exact fresh key (List.mem_cons_of_mem _ hk) old
      · rw [List.mem_singleton.mp here] at hk
        exact once.1 hk
    rw [List.foldlM_cons, taken]
    exact (ih _ once.2 later).trans (by simp)

/-- A lone part is taken in as a whole. -/
theorem foldlM_add?_singleton {part : Part} (distinct : part.document.Distinct) :
    ∃ closed, [part].foldlM add? empty = some ⟨part.document, closed⟩ := by
  have taken := foldlM_addEntry_fresh [] part.isMergeable .empty distinct
    fun _ _ => List.not_mem_nil
  rw [List.foldlM_cons, add?]
  simp only [empty, taken]
  exact ⟨_, rfl⟩

/-- The document of a lone part is its own. -/
theorem documentOf_singleton {part : Part} (distinct : part.document.Distinct) :
    documentOf [part] = part.document := by
  obtain ⟨closed, taken⟩ := foldlM_add?_singleton distinct
  rw [documentOf, taken]

/-- Only where there are two parts or more is one of them in the way of another. -/
theorem two_le_length_of_foldlM_add? {parts : List Part}
    (distinct : ∀ part ∈ parts, part.document.Distinct)
    (failed : parts.foldlM add? empty = none) : 2 ≤ parts.length := by
  match parts with
  | [] => cases failed
  | [part] =>
    obtain ⟨closed, taken⟩ := foldlM_add?_singleton (distinct part List.mem_cons_self)
    rw [taken] at failed
    cases failed
  | _ :: _ :: rest => simp

end Branch

/-! ## Filters -/

theorem distinct_joinAlternatives {docs : List Document} (h : ∀ d ∈ docs, d.Distinct) :
    (joinAlternatives docs).Distinct := by
  match docs with
  | [] => exact OrderedMap.distinct_empty
  | [doc] => exact h doc List.mem_cons_self
  | _ :: _ :: _ => exact OrderedMap.distinct_single _ _

theorem distinct_joinParts (parts : List Part) : (joinParts parts).Distinct := by
  apply distinct_joinAlternatives
  intro doc listed
  obtain ⟨run, _, rfl⟩ := List.mem_map.mp listed
  exact Branch.distinct_documentOf run

theorem Clause.distinct_document (c : Clause) : c.document.Distinct := by
  unfold document
  split <;> exact OrderedMap.distinct_single _ _

/-- A filter document names each key once. -/
theorem Predicate.distinct_document (p : Predicate) : p.document.Distinct := by
  cases p with
  | clause c => exact c.distinct_document
  | group members connector => exact distinct_joinParts (parts members)

theorem Predicate.distinct_of_mem_parts {ps : List Predicate} {part : Part}
    (h : part ∈ Predicate.parts ps) : part.document.Distinct := by
  rw [Predicate.parts_eq_map] at h
  obtain ⟨p, _, rfl⟩ := List.mem_map.mp h
  exact p.distinct_document

end DocQuery
