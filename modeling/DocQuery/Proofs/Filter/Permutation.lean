import Mathlib.Data.List.Perm.Basic
import DocQuery.Proofs.Filter.Merging

/- The order of predicates that all have to hold. Whether two parts clash does not depend on which
   of them comes first, so a permutation of a list merges exactly if the list does
   (`Part.pairwise_iff_of_perm`). What is merged then differs in the order of keys only: those of
   the document, and those of operators that several parts bring to one key
   (`Branch.Gathers.sameUpToOrder`). Main statement: `joined_predicates_in_any_order`. -/

namespace DocQuery

/-- Two documents have the same keys, each once, and the same values. Under the `merged` keys the
    values may also be operators that are the same in another order. -/
structure Document.SameUpToOrder (merged : String → Prop) (d e : Document) : Prop where
  distinct : d.Distinct
  keys : d.keys.Perm e.keys
  values : ∀ key, d.find? key = e.find? key ∨
    merged key ∧ ∃ first second : Document, d.find? key = some (.document first) ∧
      e.find? key = some (.document second) ∧ first.isOperators = true ∧
      first.entries.Perm second.entries

namespace Part

theorem Clashes.symm {a b : Part} (h : a.Clashes b) : b.Clashes a := by
  obtain ⟨key, here, there, reason⟩ := h
  refine ⟨key, there, here, ?_⟩
  rcases reason with whole | whole | ⟨op, first, second⟩
  · exact .inr (.inl whole)
  · exact .inl whole
  · exact .inr (.inr ⟨op, second, first⟩)

/-- Parts that are in nobody's way are so in any order. -/
theorem pairwise_iff_of_perm {parts others : List Part} (order : parts.Perm others) :
    parts.Pairwise (fun a b => ¬a.Clashes b) ↔ others.Pairwise fun a b => ¬a.Clashes b :=
  order.pairwise_iff fun apart clash => apart clash.symm

/-- Several predicates bring a value for the key. -/
def IsShared (parts : List Part) (key : String) : Prop := 2 ≤ (valuesOf parts key).length

end Part

/-- Documents that are the same in another order have the same fields in another order. -/
theorem Document.concat_perm {docs others : List Document}
    (order : (docs.map Bson.document).Perm (others.map Bson.document)) :
    (concat docs).entries.Perm (concat others).entries := by
  have same : docs.Perm others :=
    (List.map_perm_map_iff fun _ _ => Bson.document.inj).mp order
  exact same.flatMap_right _

/-- What two branches hold that took in the same parts in different orders. -/
theorem Branch.Gathers.sameUpToOrder {branch other : Branch} {parts others : List Part}
    (h : branch.Gathers parts) (h' : other.Gathers others)
    (apart : parts.Pairwise fun a b => ¬a.Clashes b) (order : parts.Perm others)
    (distinct : branch.document.Distinct) (distinct' : other.document.Distinct) :
    branch.document.SameUpToOrder (Part.IsShared parts) other.document := by
  have apart' := (Part.pairwise_iff_of_perm order).mp apart
  refine ⟨distinct, ?_, ?_⟩
  · rw [List.perm_ext_iff_of_nodup distinct distinct']
    intro key
    rw [h.mem_keys, h'.mem_keys]
    simp only [order.mem_iff]
  · intro key
    have brought : (Part.valuesOf parts key).Perm (Part.valuesOf others key) :=
      order.filterMap _
    match values : Part.valuesOf parts key with
    | [] =>
      rw [values, List.nil_perm] at brought
      exact .inl (by rw [h.values, h'.values, values, brought])
    | [value] =>
      rw [values, List.singleton_perm] at brought
      exact .inl (by rw [h.values, h'.values, values, ← brought])
    | _ :: _ :: _ =>
      have several : Part.IsShared parts key := by
        simp [Part.IsShared, values]
      have several' : Part.IsShared others key := by
        rw [Part.IsShared, ← brought.length_eq]
        exact several
      obtain ⟨docs, documents, operators, found⟩ := h.find?_of_several apart several
      obtain ⟨docs', documents', _, found'⟩ := h'.find?_of_several apart' several'
      rw [documents, documents'] at brought
      have nonempty : docs ≠ [] := by
        rintro rfl
        rw [documents] at values
        cases values
      exact .inr ⟨several, _, _, found, found', Document.isOperators_concat nonempty operators,
        Document.concat_perm brought⟩

/-- Predicates that are all joined by `and` are one branch, whatever empty groups are among them. -/
theorem filterOf_of_all_joined {ps : List Predicate} (joined : ∀ p ∈ ps, p.connector = .and) :
    filterOf ps = Branch.documentOf (Predicate.parts ps) := by
  have members : ∀ p ∈ ps.filter (fun p => !p.isEmptyGroup), p ∈ ps ∧ p.isEmptyGroup = false := by
    intro p hp
    simpa using List.mem_filter.mp hp
  have parts := Predicate.parts_eq_map ps
  calc filterOf ps
    _ = filterOf (ps.filter fun p => !p.isEmptyGroup) := by
      rw [filterOf, filterOf, parts, Predicate.parts_eq_map, List.filter_filter]
      simp
    _ = Branch.documentOf (Predicate.parts ps) := by
      rw [parts]
      apply filterOf_of_joined
      · exact fun p hp => (members p hp).2
      · exact fun p hp => joined p (members p (List.mem_of_mem_tail hp)).1

/-- A permutation of predicates that are all joined by `and` gives the same filter up to order. If
    no two of them clash, both lists become one document, and the two documents have the same
    entries up to the order of keys and of operators that several predicates bring to one column.
    Otherwise both become a single `$and`, which lists the documents of the predicates, without
    those of empty groups, in the order of the predicates. -/
theorem joined_predicates_in_any_order {ps qs : List Predicate}
    (joined : ∀ p ∈ ps, p.connector = .and) (order : ps.Perm qs) :
    (Predicate.parts ps).Pairwise (fun a b => ¬a.Clashes b) ∧
      (Predicate.parts qs).Pairwise (fun a b => ¬a.Clashes b) ∧
      (filterOf ps).SameUpToOrder (Part.IsShared (Predicate.parts ps)) (filterOf qs) ∨
    ¬(Predicate.parts ps).Pairwise (fun a b => ¬a.Clashes b) ∧
      ¬(Predicate.parts qs).Pairwise (fun a b => ¬a.Clashes b) ∧
      filterOf ps = Document.allOf
        ((ps.filter fun p => !p.isEmptyGroup).map Predicate.document) ∧
      filterOf qs = Document.allOf
        ((qs.filter fun p => !p.isEmptyGroup).map Predicate.document) := by
  have joined' : ∀ p ∈ qs, p.connector = .and := fun p hp => joined p (order.mem_iff.mpr hp)
  have plain : ∀ ps : List Predicate, ∀ part ∈ Predicate.parts ps, part.IsPlain := by
    intro ps part hp
    rw [Predicate.parts_eq_map] at hp
    obtain ⟨p, _, rfl⟩ := List.mem_map.mp hp
    exact p.isPlain_part
  have documents : ∀ ps : List Predicate, (Predicate.parts ps).map Part.document =
      (ps.filter fun p => !p.isEmptyGroup).map Predicate.document := by
    intro ps
    rw [Predicate.parts_eq_map, List.map_map]
    rfl
  have partsOrder : (Predicate.parts ps).Perm (Predicate.parts qs) := by
    rw [Predicate.parts_eq_map, Predicate.parts_eq_map]
    exact (order.filter _).map _
  have filter := filterOf_of_all_joined joined
  have filter' := filterOf_of_all_joined joined'
  have clashes := Part.pairwise_iff_of_perm partsOrder
  rcases Branch.documentOf_gathers_or_listed (plain ps) with
    ⟨apart, branch, gathers, same⟩ | ⟨clash, listed⟩
  · rcases Branch.documentOf_gathers_or_listed (plain qs) with
      ⟨apart', branch', gathers', same'⟩ | ⟨clash, _⟩
    · have distinct : branch.document.Distinct := same ▸ Branch.distinct_documentOf _
      have distinct' : branch'.document.Distinct := same' ▸ Branch.distinct_documentOf _
      left
      rw [filter, filter', same, same']
      exact ⟨apart, apart', gathers.sameUpToOrder gathers' apart partsOrder distinct distinct'⟩
    · exact absurd (clashes.mp apart) clash
  · rcases Branch.documentOf_gathers_or_listed (plain qs) with
      ⟨apart', _⟩ | ⟨clash', listed'⟩
    · exact absurd (clashes.mpr apart') clash
    · right
      rw [filter, filter', listed, listed', documents, documents]
      exact ⟨clash, clash', rfl, rfl⟩

/-- The bounds of a range merge in either order, with an empty group between them or not. A document
    of the caller on the same column keeps them apart, also where it comes first. -/
theorem bounds_merge_in_any_order :
    (filterOf [.clause ⟨"age", .gte, .int 18, .and⟩, .group [] .and,
        .clause ⟨"age", .lt, .int 65, .and⟩]).SameUpToOrder
      (Part.IsShared (Predicate.parts [.clause ⟨"age", .gte, .int 18, .and⟩, .group [] .and,
        .clause ⟨"age", .lt, .int 65, .and⟩]))
      (filterOf [.group [] .and, .clause ⟨"age", .lt, .int 65, .and⟩,
        .clause ⟨"age", .gte, .int 18, .and⟩]) ∧
    filterOf [.clause ⟨"age", .gte, .int 18, .and⟩,
        .clause ⟨"age", .eq, .native (.document ⟨[("$lt", .int32 65)]⟩), .and⟩] =
      Document.allOf [Document.field "age" (.document ⟨[("$gte", .int32 18)]⟩),
        Document.field "age" (.document ⟨[("$lt", .int32 65)]⟩)] ∧
    filterOf [.clause ⟨"age", .eq, .native (.document ⟨[("$lt", .int32 65)]⟩), .and⟩,
        .clause ⟨"age", .gte, .int 18, .and⟩] =
      Document.allOf [Document.field "age" (.document ⟨[("$lt", .int32 65)]⟩),
        Document.field "age" (.document ⟨[("$gte", .int32 18)]⟩)] := by
  constructor
  · rcases @joined_predicates_in_any_order
      [.clause ⟨"age", .gte, .int 18, .and⟩, .group [] .and, .clause ⟨"age", .lt, .int 65, .and⟩]
      [.group [] .and, .clause ⟨"age", .lt, .int 65, .and⟩, .clause ⟨"age", .gte, .int 18, .and⟩]
      (by decide) (List.perm_append_singleton _ [_, _]).symm with
      ⟨_, _, same⟩ | ⟨clash, _⟩
    · exact same
    · exact absurd (by decide) clash
  · rcases @joined_predicates_in_any_order
      [.clause ⟨"age", .gte, .int 18, .and⟩,
        .clause ⟨"age", .eq, .native (.document ⟨[("$lt", .int32 65)]⟩), .and⟩]
      [.clause ⟨"age", .eq, .native (.document ⟨[("$lt", .int32 65)]⟩), .and⟩,
        .clause ⟨"age", .gte, .int 18, .and⟩]
      (by decide) (List.Perm.swap _ _ []) with ⟨apart, _⟩ | ⟨_, _, listed⟩
    · exact absurd apart (by decide)
    · exact listed

end DocQuery
