import DocQuery.Proofs.Filter.Keys
import DocQuery.Proofs.Filter.Regrouping

/- Where a filter is empty, and what it lists. The parts that predicates are joined as are never
   empty (`Predicate.isWhole_of_mem_parts`), and joining keeps that, so a filter is the empty
   document only if there is nothing to join: `filterOf_eq_empty_iff`. Nor is a junction empty, or
   of one document only: `hasJunction_filterOf` says that every array under `$and` or `$or`, however
   deep, has two documents or more and none of them empty, unless it was handed in by a caller as
   the operand of an equality or a raw condition. -/

namespace DocQuery

/-! ## Clauses -/

theorem Document.field_ne_empty (key : String) (value : Bson) : field key value ≠ .empty :=
  fun h => List.cons_ne_nil _ _ (congrArg OrderedMap.entries h)

theorem Clause.document_ne_empty (c : Clause) : c.document ≠ .empty := by
  unfold document
  split
  · exact Document.field_ne_empty _ _
  · exact Document.field_ne_empty _ _

/-! ## Joining -/

/-- What all parts of predicates have in common. -/
structure Part.IsWhole (part : Part) : Prop where
  sound : part.IsSound
  distinct : part.document.Distinct
  nonempty : part.document ≠ .empty

theorem Regroups.ne_nil {l l' : List (String × Bson)} (h : Regroups l l') (nonempty : l' ≠ []) :
    l ≠ [] := by
  induction h with
  | perm h =>
    rintro rfl
    exact nonempty h.nil_eq.symm
  | join key rest hf hs apart => exact List.cons_ne_nil _ _
  | trans _ _ ih ih' => exact ih (ih' nonempty)

theorem Branch.documentOf_ne_empty {parts : List Part} (whole : ∀ part ∈ parts, part.IsWhole)
    (some : parts ≠ []) : documentOf parts ≠ .empty := by
  rcases documentOf_cases fun part hp => (whole part hp).sound with regroups | ⟨_, listed⟩
  · -- The entries of the first part are among what is regrouped.
    obtain ⟨first, rest, rfl⟩ := List.exists_cons_of_ne_nil some
    have entries : first.document.entries ≠ [] :=
      fun none => (whole first List.mem_cons_self).nonempty (congrArg OrderedMap.mk none)
    have all : ((first :: rest).flatMap fun part => part.document.entries) ≠ [] := by
      simp [entries]
    exact fun empty => regroups.ne_nil all (congrArg OrderedMap.entries empty)
  · rw [listed]
    exact Document.field_ne_empty _ _

theorem joinAlternatives_ne_empty {docs : List Document} (nonempty : ∀ d ∈ docs, d ≠ .empty)
    (some : docs ≠ []) : joinAlternatives docs ≠ .empty := by
  match docs with
  | [] => exact absurd rfl some
  | [doc] => exact nonempty doc List.mem_cons_self
  | _ :: _ :: _ => exact Document.field_ne_empty _ _

/-- The documents of the runs of parts. -/
theorem runDocument_ne_empty {parts : List Part} (whole : ∀ part ∈ parts, part.IsWhole)
    {d : Document}
    (h : d ∈ (cutBefore (fun part => part.connector == .or) parts).map Branch.documentOf) :
    d ≠ .empty := by
  obtain ⟨run, hr, rfl⟩ := List.mem_map.mp h
  exact Branch.documentOf_ne_empty (fun part hp => whole part (mem_of_mem_cutBefore hr hp))
    (ne_nil_of_mem_cutBefore hr)

theorem joinParts_eq_empty_iff {parts : List Part} (whole : ∀ part ∈ parts, part.IsWhole) :
    joinParts parts = .empty ↔ parts = [] := by
  constructor
  · intro empty
    by_contra some
    obtain ⟨first, rest, rfl⟩ := List.exists_cons_of_ne_nil some
    refine joinAlternatives_ne_empty (fun d hd => runDocument_ne_empty whole hd) ?_ empty
    intro none
    -- Cutting loses nothing, so there are runs where there are parts.
    have lost := flatten_cutBefore (fun part : Part => part.connector == .or) (first :: rest)
    rw [List.map_eq_nil_iff.mp none] at lost
    cases lost
  · rintro rfl
    rfl

namespace Predicate

theorem parts_eq_nil_iff (ps : List Predicate) :
    parts ps = [] ↔ ∀ p ∈ ps, p.isEmptyGroup = true := by
  rw [parts_eq_map, List.map_eq_nil_iff, List.filter_eq_nil_iff]
  simp

mutual

/-- The document of a predicate is empty only for a group without clauses. -/
theorem document_eq_empty_iff (p : Predicate) : p.document = .empty ↔ p.isEmptyGroup = true := by
  cases p with
  | clause c => exact iff_of_false c.document_ne_empty (by simp [isEmptyGroup])
  | group members connector =>
    rw [document, joinParts_eq_empty_iff fun part hp => isWhole_of_mem_parts members hp,
      parts_eq_nil_iff, isEmptyGroup, allEmptyGroups_eq_all, List.all_eq_true]

theorem isWhole_of_mem_parts (ps : List Predicate) {part : Part} (h : part ∈ parts ps) :
    part.IsWhole := by
  refine ⟨isSound_of_mem_parts h, distinct_of_mem_parts h, ?_⟩
  cases ps with
  | nil => cases h
  | cons p rest =>
    rw [parts] at h
    split at h
    · exact (isWhole_of_mem_parts rest h).nonempty
    · next some =>
      rcases List.mem_cons.mp h with rfl | later
      · exact fun empty => some ((document_eq_empty_iff p).mp empty)
      · exact (isWhole_of_mem_parts rest later).nonempty

end

end Predicate

/-- A filter is empty only if all predicates are empty groups. -/
theorem filterOf_eq_empty_iff (ps : List Predicate) :
    filterOf ps = .empty ↔ ∀ p ∈ ps, p.isEmptyGroup = true := by
  rw [filterOf, joinParts_eq_empty_iff fun part hp => Predicate.isWhole_of_mem_parts ps hp,
    Predicate.parts_eq_nil_iff]

/-- The filter of a lone predicate is its document, whether or not there is a clause in it. -/
theorem filterOf_singleton (p : Predicate) : filterOf [p] = p.document := by
  cases empty : p.isEmptyGroup with
  | true =>
    have none : filterOf [p] = .empty :=
      (filterOf_eq_empty_iff [p]).mpr fun _ listed => List.mem_singleton.mp listed ▸ empty
    rw [none, p.document_eq_empty_iff.mpr empty]
  | false =>
    have parts : Predicate.parts [p] = [p.part] := by
      rw [Predicate.parts_eq_map, List.filter_cons_of_pos (by simp [empty])]
      rfl
    rw [filterOf, parts]
    exact Branch.documentOf_singleton p.distinct_document

/-! ## Junctions -/

/-- An array stands under `$and` or `$or` in a document, at the top or in a document of such an
    array. -/
inductive Document.HasJunction : Document → List Bson → Prop where
  | here {d : Document} {key : String} {items : List Bson} (isKey : key = "$and" ∨ key = "$or")
      (h : (key, .array items) ∈ d.entries) : HasJunction d items
  | within {d inner : Document} {key : String} {items found : List Bson}
      (isKey : key = "$and" ∨ key = "$or") (h : (key, .array items) ∈ d.entries)
      (member : .document inner ∈ items) (deeper : HasJunction inner found) : HasJunction d found

/-- Two documents or more, and none of them empty. -/
def Bson.AreAlternatives (items : List Bson) : Prop :=
  2 ≤ items.length ∧ ∀ item ∈ items, ∃ d : Document, item = .document d ∧ d ≠ .empty

namespace Document.HasJunction

/-- What stands in a document with one entry stands under its key. -/
theorem of_field {key : String} {value : Bson} {found : List Bson}
    (h : (field key value).HasJunction found) :
    ∃ items, value = .array items ∧
      (items = found ∨ ∃ inner : Document, .document inner ∈ items ∧ inner.HasJunction found) := by
  cases h with
  | here isKey h =>
    cases List.mem_singleton.mp h
    exact ⟨found, rfl, .inl rfl⟩
  | within isKey h member deeper =>
    cases List.mem_singleton.mp h
    exact ⟨_, rfl, .inr ⟨_, member, deeper⟩⟩

/-- In a listing of documents the junctions are the listing and those of the documents. -/
theorem of_documents {key : String} {docs : List Document} {found : List Bson}
    (h : (field key (.documents docs)).HasJunction found) :
    docs.map .document = found ∨ ∃ d ∈ docs, d.HasJunction found := by
  obtain ⟨items, listed, whole | ⟨inner, member, deeper⟩⟩ := h.of_field
  · cases listed
    exact .inl whole
  · cases listed
    obtain ⟨d, hd, same⟩ := List.mem_map.mp member
    rw [← Bson.document.inj same] at deeper
    exact .inr ⟨d, hd, deeper⟩

/-- A document whose arrays are among those of another has no other junctions. -/
theorem mono {d : Document} {entries : List (String × Bson)} {found : List Bson}
    (h : d.HasJunction found)
    (arrays : ∀ key items, (key, Bson.array items) ∈ d.entries → (key, .array items) ∈ entries) :
    HasJunction ⟨entries⟩ found := by
  cases h with
  | here isKey h => exact .here isKey (arrays _ _ h)
  | within isKey h member deeper => exact .within isKey (arrays _ _ h) member deeper

/-- A junction among the entries of several documents is one of them. -/
theorem of_flatMap {parts : List Part} {found : List Bson}
    (h : HasJunction ⟨parts.flatMap fun part => part.document.entries⟩ found) :
    ∃ part ∈ parts, part.document.HasJunction found := by
  cases h with
  | here isKey h =>
    obtain ⟨part, hp, entry⟩ := List.mem_flatMap.mp h
    exact ⟨part, hp, .here isKey entry⟩
  | within isKey h member deeper =>
    obtain ⟨part, hp, entry⟩ := List.mem_flatMap.mp h
    exact ⟨part, hp, .within isKey entry member deeper⟩

end Document.HasJunction

theorem Bson.areAlternatives_map {docs : List Document} (two : 2 ≤ docs.length)
    (nonempty : ∀ d ∈ docs, d ≠ .empty) : AreAlternatives (docs.map .document) := by
  refine ⟨by simpa using two, ?_⟩
  intro item hi
  obtain ⟨d, hd, rfl⟩ := List.mem_map.mp hi
  exact ⟨d, rfl, nonempty d hd⟩

/-- Drawing conditions together makes no arrays. -/
theorem Regroups.mem_array {l l' : List (String × Bson)} (h : Regroups l l') {key : String}
    {items : List Bson} (listed : (key, .array items) ∈ l) : (key, .array items) ∈ l' := by
  induction h with
  | perm h => exact h.mem_iff.mp listed
  | join k rest hf hs apart => simpa using listed
  | trans _ _ ih ih' => exact ih' (ih listed)

/-- A branch whose parts are in each other's way lists two parts or more. -/
theorem Branch.areAlternatives_of_listed {parts : List Part}
    (whole : ∀ part ∈ parts, part.IsWhole) (failed : parts.foldlM add? empty = none) :
    Bson.AreAlternatives ((parts.map Part.document).map .document) := by
  apply Bson.areAlternatives_map
  · rw [List.length_map]
    exact two_le_length_of_foldlM_add? (fun part hp => (whole part hp).distinct) failed
  · intro d hd
    obtain ⟨part, hp, rfl⟩ := List.mem_map.mp hd
    exact (whole part hp).nonempty

theorem Branch.hasJunction_documentOf {parts : List Part} (whole : ∀ part ∈ parts, part.IsWhole)
    {found : List Bson} (h : (documentOf parts).HasJunction found) :
    Bson.AreAlternatives found ∨ ∃ part ∈ parts, part.document.HasJunction found := by
  rw [documentOf] at h
  split at h
  · next branch taken =>
    have regroups := foldlM_add? (fun part hp => (whole part hp).sound)
      (fun _ he => absurd he List.not_mem_nil) taken
    exact .inr (Document.HasJunction.of_flatMap (h.mono fun _ _ => regroups.mem_array))
  · -- The listing itself is new; everything below it was in a part.
    next failed =>
    rcases h.of_documents with rfl | ⟨d, hd, inner⟩
    · exact .inl (areAlternatives_of_listed whole failed)
    · obtain ⟨part, hp, rfl⟩ := List.mem_map.mp hd
      exact .inr ⟨part, hp, inner⟩

theorem hasJunction_joinAlternatives {docs : List Document} (nonempty : ∀ d ∈ docs, d ≠ .empty)
    {found : List Bson} (h : (joinAlternatives docs).HasJunction found) :
    Bson.AreAlternatives found ∨ ∃ d ∈ docs, d.HasJunction found := by
  match docs with
  | [] => cases h <;> contradiction
  | [d] => exact .inr ⟨d, List.mem_cons_self, h⟩
  | first :: second :: rest =>
    rcases h.of_documents with rfl | inner
    · exact .inl (Bson.areAlternatives_map (by simp) nonempty)
    · exact .inr inner

theorem hasJunction_joinParts {parts : List Part} (whole : ∀ part ∈ parts, part.IsWhole)
    {found : List Bson} (h : (joinParts parts).HasJunction found) :
    Bson.AreAlternatives found ∨ ∃ part ∈ parts, part.document.HasJunction found := by
  rcases hasJunction_joinAlternatives (fun d hd => runDocument_ne_empty whole hd) h with
    two | ⟨d, hd, inner⟩
  · exact .inl two
  · obtain ⟨run, hr, rfl⟩ := List.mem_map.mp hd
    have members : ∀ part ∈ run, part ∈ parts := fun part => mem_of_mem_cutBefore hr
    rcases Branch.hasJunction_documentOf (fun part hp => whole part (members part hp)) inner with
      two | ⟨part, hp, deeper⟩
    · exact .inl two
    · exact .inr ⟨part, members part hp, deeper⟩

/-- The clause hands a value of the caller on as it is. -/
def Clause.IsVerbatim (c : Clause) : Prop := c.operator = .eq ∨ c.operator = .raw

theorem Clause.hasJunction_document {c : Clause} {found : List Bson}
    (h : c.document.HasJunction found) : Bson.AreAlternatives found ∨ c.IsVerbatim := by
  cases mergeable : c.isMergeable with
  | true =>
    -- The only entry holds a document, so it is no junction.
    obtain ⟨d, _, hd⟩ := document_of_isMergeable mergeable
    rw [hd] at h
    obtain ⟨items, array, _⟩ := h.of_field
    cases array
  | false =>
    obtain ⟨column, operator, operand, connector⟩ := c
    cases operator with
    | eq => exact .inr (.inl rfl)
    | raw => exact .inr (.inr rfl)
    | notBetween =>
      rcases h.of_documents with rfl | ⟨d, hd, inner⟩
      · left
        refine Bson.areAlternatives_map (by simp) ?_
        intro d hd
        simp only [List.mem_cons, List.not_mem_nil, or_false] at hd
        rcases hd with rfl | rfl <;> exact Document.field_ne_empty _ _
      · simp only [List.mem_cons, List.not_mem_nil, or_false] at hd
        rcases hd with rfl | rfl <;>
        · obtain ⟨items, array, _⟩ := inner.of_field
          cases array
    | _ => cases mergeable

namespace Predicate

mutual

theorem hasJunction_document (p : Predicate) {found : List Bson}
    (h : p.document.HasJunction found) :
    Bson.AreAlternatives found ∨
      ∃ c ∈ p.clauses, c.IsVerbatim ∧ c.document.HasJunction found := by
  cases p with
  | clause c =>
    rcases c.hasJunction_document h with two | verbatim
    · exact .inl two
    · exact .inr ⟨c, List.mem_cons_self, verbatim, h⟩
  | group members connector =>
    rcases hasJunction_joinParts (fun part hp => isWhole_of_mem_parts members hp) h with
      two | ⟨part, hp, inner⟩
    · exact .inl two
    · exact hasJunction_of_mem_parts members hp inner

theorem hasJunction_of_mem_parts (ps : List Predicate) {part : Part} (hp : part ∈ parts ps)
    {found : List Bson} (h : part.document.HasJunction found) :
    Bson.AreAlternatives found ∨
      ∃ c ∈ clausesOf ps, c.IsVerbatim ∧ c.document.HasJunction found := by
  cases ps with
  | nil => cases hp
  | cons p rest =>
    rw [clausesOf]
    rw [parts] at hp
    split at hp
    · rcases hasJunction_of_mem_parts rest hp h with two | ⟨c, hc, given⟩
      · exact .inl two
      · exact .inr ⟨c, List.mem_append_right _ hc, given⟩
    · rcases List.mem_cons.mp hp with rfl | later
      · rcases hasJunction_document p h with two | ⟨c, hc, given⟩
        · exact .inl two
        · exact .inr ⟨c, List.mem_append_left _ hc, given⟩
      · rcases hasJunction_of_mem_parts rest later h with two | ⟨c, hc, given⟩
        · exact .inl two
        · exact .inr ⟨c, List.mem_append_right _ hc, given⟩

end

end Predicate

/-- Every array under `$and` or `$or` in a filter has two documents or more and none of them empty,
    or it is what a caller gave as the operand of a verbatim clause, or inside of that. -/
theorem hasJunction_filterOf {ps : List Predicate} {found : List Bson}
    (h : (filterOf ps).HasJunction found) :
    Bson.AreAlternatives found ∨
      ∃ c ∈ Predicate.clausesOf ps, c.IsVerbatim ∧ c.document.HasJunction found :=
  Predicate.hasJunction_document (.group ps .and) h

end DocQuery
