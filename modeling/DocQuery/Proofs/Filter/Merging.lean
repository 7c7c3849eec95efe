import DocQuery.Proofs.Filter.Emptiness
import DocQuery.Proofs.Filter.Runs
import DocQuery.Proofs.Filter.Shape

/- How a list of parts that all have to hold becomes one document. Two parts clash if they name the
   same key, unless both are mergeable and bring different operators to it: a relation between two
   parts that knows nothing of the order in which a branch takes them in. `Branch.Gathers` says what
   a branch holds after some parts, and `Branch.Gathers.add?_cases` that it gives up on the next one
   exactly if this clashes with one of them. So a branch is one document if no two parts clash, with
   the values of each key side by side, and lists all parts otherwise. Main statement:
   `joined_predicates_merge_or_are_listed`. -/

namespace DocQuery

/-! ## Keys and values -/

namespace Document

/-- The entries of several documents, one document after the other. -/
def concat (docs : List Document) : Document := ⟨docs.flatMap OrderedMap.entries⟩

theorem mem_keys_concat {docs : List Document} {key : String} :
    key ∈ (concat docs).keys ↔ ∃ d ∈ docs, key ∈ d.keys := by
  simp only [concat, OrderedMap.keys, List.map_flatMap, List.mem_flatMap]

theorem isOperators_concat {docs : List Document} (nonempty : docs ≠ [])
    (operators : ∀ d ∈ docs, d.isOperators = true) : (concat docs).isOperators = true := by
  refine isOperators_iff.mpr ⟨?_, ?_⟩
  · obtain ⟨first, rest, rfl⟩ := List.exists_cons_of_ne_nil nonempty
    obtain ⟨some, _⟩ := isOperators_iff.mp (operators first List.mem_cons_self)
    obtain ⟨key, listed⟩ := List.exists_mem_of_ne_nil _ some
    exact List.ne_nil_of_mem (mem_keys_concat.mpr ⟨first, List.mem_cons_self, listed⟩)
  · intro key hk
    obtain ⟨d, hd, listed⟩ := mem_keys_concat.mp hk
    exact (isOperators_iff.mp (operators d hd)).2 key listed

end Document

namespace Bson

/-- The fields of a document; any other value has none. -/
def fields : Bson → List (String × Bson)
  | .document d => d.entries
  | _ => []

/-- Several values of one key as one: a lone value as it is, several with their fields side by
    side. -/
def joined : List Bson → Option Bson
  | [] => none
  | [v] => some v
  | vs => some (.document ⟨vs.flatMap fields⟩)

theorem joined_documents {docs : List Document} (nonempty : docs ≠ []) :
    joined (docs.map .document) = some (.document (Document.concat docs)) := by
  match docs with
  | [d] => simp [joined, Document.concat]
  | d :: d' :: rest => simp [joined, fields, Document.concat, List.flatMap_map]

end Bson

/-! ## Parts -/

/-- A part as predicates make it: each key once, and if it is mergeable a single condition. -/
structure Part.IsPlain (part : Part) : Prop where
  distinct : part.document.Distinct
  condition : part.isMergeable = true → ∃ (column : String) (d : Document), d.IsCondition ∧
    part.document = .field column (.document d)

theorem Predicate.isPlain_part (p : Predicate) : p.part.IsPlain := by
  refine ⟨p.distinct_document, ?_⟩
  intro mergeable
  cases p with
  | group members connector => cases mergeable
  | clause c =>
    obtain ⟨d, condition, document⟩ := Clause.document_of_isMergeable mergeable
    exact ⟨c.column, d, condition, document⟩

namespace Part

/-- The operators that a part puts on a key. -/
def operators (part : Part) (key : String) : List String :=
  match part.document.find? key with
  | some (.document d) => d.keys
  | _ => []

/-- Two parts name the same key, and one of them keeps its keys to itself or they bring the same
    operator to it. -/
def Clashes (a b : Part) : Prop :=
  ∃ key ∈ a.document.keys, key ∈ b.document.keys ∧
    (a.isMergeable = false ∨ b.isMergeable = false ∨ ∃ op ∈ a.operators key, op ∈ b.operators key)

instance (a b : Part) : Decidable (a.Clashes b) :=
  inferInstanceAs (Decidable (∃ key ∈ a.document.keys, key ∈ b.document.keys ∧
    (a.isMergeable = false ∨ b.isMergeable = false ∨
      ∃ op ∈ a.operators key, op ∈ b.operators key)))

/-- The values that parts bring for a key. -/
def valuesOf (parts : List Part) (key : String) : List Bson :=
  parts.filterMap fun part => part.document.find? key

theorem valuesOf_append (parts : List Part) (part : Part) (key : String) :
    valuesOf (parts ++ [part]) key = valuesOf parts key ++ (part.document.find? key).toList := by
  rw [valuesOf, List.filterMap_append]
  cases found : part.document.find? key <;> simp [valuesOf, found]

theorem valuesOf_eq_nil {parts : List Part} {key : String}
    (absent : ∀ part ∈ parts, key ∉ part.document.keys) : valuesOf parts key = [] := by
  refine List.filterMap_eq_nil_iff.mpr ?_
  intro part hp
  exact (part.document.find?_eq_none_iff key).mpr (absent part hp)

theorem mem_operators_iff {part : Part} {key op : String} :
    op ∈ part.operators key ↔
      ∃ d : Document, part.document.find? key = some (.document d) ∧ op ∈ d.keys := by
  unfold operators
  split
  · next d found => simp [found]
  · next other =>
    refine iff_of_false List.not_mem_nil ?_
    rintro ⟨d, found, _⟩
    exact other d found

/-- Under a key of a mergeable part stands a condition. -/
theorem IsPlain.condition_of_find? {part : Part} (plain : part.IsPlain)
    (mergeable : part.isMergeable = true) {key : String} {value : Bson}
    (found : part.document.find? key = some value) :
    ∃ d : Document, d.IsCondition ∧ value = .document d := by
  obtain ⟨column, d, condition, document⟩ := plain.condition mergeable
  have entry := (OrderedMap.find?_eq_some_iff plain.distinct).mp found
  rw [document] at entry
  cases List.mem_singleton.mp entry
  exact ⟨d, condition, rfl⟩

/-- Mergeable parts bring conditions for a key. -/
theorem valuesOf_eq_documents {parts : List Part} {key : String}
    (plain : ∀ part ∈ parts, part.IsPlain)
    (mergeable : ∀ part ∈ parts, key ∈ part.document.keys → part.isMergeable = true) :
    ∃ docs : List Document, valuesOf parts key = docs.map .document ∧
      ∀ d ∈ docs, d.IsCondition := by
  induction parts with
  | nil => exact ⟨[], rfl, nofun⟩
  | cons part rest ih =>
    obtain ⟨docs, values, conditions⟩ := ih (fun p hp => plain p (List.mem_cons_of_mem _ hp))
      fun p hp => mergeable p (List.mem_cons_of_mem _ hp)
    cases found : part.document.find? key with
    | none =>
      refine ⟨docs, ?_, conditions⟩
      rw [← values, valuesOf, List.filterMap_cons, found]
      rfl
    | some value =>
      have listed := mergeable part List.mem_cons_self (OrderedMap.mem_keys_of_find? found)
      obtain ⟨d, condition, rfl⟩ :=
        (plain part List.mem_cons_self).condition_of_find? listed found
      refine ⟨d :: docs, ?_, List.forall_mem_cons.mpr ⟨condition, conditions⟩⟩
      rw [List.map_cons, ← values, valuesOf, List.filterMap_cons, found]
      rfl

/-- The operators under a key, where all values for it are documents. -/
theorem mem_keys_concat_iff {parts : List Part} {key : String} {docs : List Document}
    (values : valuesOf parts key = docs.map .document) {op : String} :
    op ∈ (Document.concat docs).keys ↔ ∃ part ∈ parts, op ∈ part.operators key := by
  have brought : ∀ d : Document, d ∈ docs ↔
      ∃ part ∈ parts, part.document.find? key = some (.document d) := by
    intro d
    rw [← List.mem_filterMap, ← valuesOf, values, List.mem_map_of_injective]
    exact fun a b => Bson.document.inj
  simp only [Document.mem_keys_concat, mem_operators_iff, brought]
  constructor
  · rintro ⟨d, ⟨part, hp, found⟩, listed⟩
    exact ⟨part, hp, d, found, listed⟩
  · rintro ⟨part, hp, d, found, listed⟩
    exact ⟨d, ⟨part, hp, found⟩, listed⟩

/-- A part with one condition clashes with mergeable ones if it brings an operator of theirs. -/
theorem exists_clashes_iff {parts : List Part} {part : Part} {key : String} {d : Document}
    (mergeable : part.isMergeable = true) (document : part.document = .field key (.document d))
    (others : ∀ p ∈ parts, key ∈ p.document.keys → p.isMergeable = true) {docs : List Document}
    (values : valuesOf parts key = docs.map .document) :
    (∃ p ∈ parts, p.Clashes part) ↔ ∃ op ∈ d.keys, op ∈ (Document.concat docs).keys := by
  have ours : part.operators key = d.keys := by
    rw [operators, document, Document.find?_field]
  have only : ∀ other, other ∈ part.document.keys ↔ other = key := by
    intro other
    rw [document]
    exact List.mem_singleton
  constructor
  · rintro ⟨p, hp, other, theirs, named, whole | whole | ⟨op, there, here⟩⟩
    · obtain rfl := (only other).mp named
      exact absurd (others p hp theirs) (by simp [whole])
    · exact absurd mergeable (by simp [whole])
    · obtain rfl := (only other).mp named
      exact ⟨op, ours ▸ here, (mem_keys_concat_iff values).mpr ⟨p, hp, there⟩⟩
  · rintro ⟨op, here, there⟩
    obtain ⟨p, hp, theirs⟩ := (mem_keys_concat_iff values).mp there
    obtain ⟨_, found, _⟩ := mem_operators_iff.mp theirs
    exact ⟨p, hp, key, OrderedMap.mem_keys_of_find? found, (only key).mpr rfl,
      .inr (.inr ⟨op, theirs, ours ▸ here⟩)⟩

/-- Where no two parts clash, a part that is not mergeable is alone with its keys. -/
theorem valuesOf_of_whole {parts : List Part} (apart : parts.Pairwise fun a b => ¬a.Clashes b)
    {part : Part} (hp : part ∈ parts) (whole : part.isMergeable = false) {key : String}
    {value : Bson} (found : part.document.find? key = some value) :
    valuesOf parts key = [value] := by
  have named := OrderedMap.mem_keys_of_find? found
  obtain ⟨before, after, rfl⟩ := List.append_of_mem hp
  rw [List.pairwise_append, List.pairwise_cons] at apart
  obtain ⟨_, ⟨later, _⟩, earlier⟩ := apart
  have none : ∀ p ∈ before, key ∉ p.document.keys := by
    intro p hp theirs
    exact earlier p hp part List.mem_cons_self ⟨key, theirs, named, .inr (.inl whole)⟩
  have none' : ∀ p ∈ after, key ∉ p.document.keys := by
    intro p hp theirs
    exact later p hp ⟨key, named, theirs, .inl whole⟩
  have split : valuesOf (before ++ part :: after) key =
      valuesOf before key ++ value :: valuesOf after key := by
    rw [valuesOf, List.filterMap_append, List.filterMap_cons, found]
    rfl
  rw [split, valuesOf_eq_nil none, valuesOf_eq_nil none', List.nil_append]

end Part

namespace Branch

/-- A branch holds what the parts bring: their keys in the order of first arrival, under each key
    their values as one, and the keys of the parts that are not mergeable closed. -/
structure Gathers (branch : Branch) (parts : List Part) : Prop where
  plain : ∀ part ∈ parts, part.IsPlain
  keys : branch.document.keys = (parts.flatMap fun part => part.document.keys).eraseDups
  values : ∀ key, branch.document.find? key = Bson.joined (Part.valuesOf parts key)
  closed : ∀ key, key ∈ branch.closed ↔
    ∃ part ∈ parts, part.isMergeable = false ∧ key ∈ part.document.keys

theorem gathers_empty : empty.Gathers [] :=
  ⟨nofun, rfl, fun _ => rfl, fun _ => iff_of_false List.not_mem_nil nofun⟩

/-! ## Two conditions on one column -/

theorem joinConditions_of_apart {first second : Document} (hf : first.isOperators = true)
    (hs : second.IsCondition) (apart : ∀ op ∈ second.keys, op ∉ first.keys) :
    joinConditions (.document first) (.document second) =
      some (.document ⟨first.entries ++ second.entries⟩) := by
  have fresh : second.keys.all (fun key => !first.contains key) = true := by
    simpa [OrderedMap.contains] using apart
  rw [joinConditions, hf, hs.operators, fresh, Bool.and_self, Bool.and_self, if_pos rfl]
  have entries := OrderedMap.entries_insertAll_of_fresh hs.distinct apart
  exact congrArg (fun entries => some (Bson.document ⟨entries⟩)) entries

theorem joinConditions_of_shared {first second : Document} {op : String} (hf : op ∈ first.keys)
    (hs : op ∈ second.keys) : joinConditions (.document first) (.document second) = none := by
  cases joined : joinConditions (.document first) (.document second) with
  | none => rfl
  | some both =>
    obtain ⟨_, _, first', second', apart, _⟩ := joinConditions_eq_some joined
    cases first'
    cases second'
    exact absurd hf (apart op hs)

/-! ## One part -/

/-- A known key cannot be written if it is closed or the part is not mergeable. -/
theorem foldlM_addEntry_blocked {closed : List String} {mergeable : Bool} {doc : Document}
    {entries : List (String × Bson)} {key : String} (listed : key ∈ entries.map Prod.fst)
    (known : key ∈ doc.keys) (blocked : mergeable = false ∨ key ∈ closed) :
    entries.foldlM (addEntry closed mergeable) doc = none := by
  induction entries generalizing doc with
  | nil => cases listed
  | cons entry rest ih =>
    rw [List.foldlM_cons]
    cases taken : addEntry closed mergeable doc entry with
    | none => rfl
    | some next =>
      -- The key is not that of this entry, and it stays known.
      have later : entry.1 ≠ key ∧ key ∈ next.keys := by
        rcases addEntry_cases taken with ⟨new, appended⟩ |
          ⟨both, isOpen, start, tail, first, second, there, _, _, written⟩
        · refine ⟨fun same => new (same ▸ known), ?_⟩
          rw [OrderedMap.keys, appended, List.map_append]
          exact List.mem_append_left _ known
        · refine ⟨?_, ?_⟩
          · rintro rfl
            exact blocked.elim (by simp [both]) isOpen
          · rw [OrderedMap.keys, there] at known
            rw [OrderedMap.keys, written]
            simpa using known
      have named : key ∈ rest.map Prod.fst := by
        rcases List.mem_cons.mp listed with same | named
        · exact absurd same.symm later.1
        · exact named
      exact ih named later.2

/-- A part with one condition, on a key that is known and not closed. -/
theorem add?_field (branch : Branch) {part : Part} (mergeable : part.isMergeable = true)
    {key : String} {current value : Bson} (document : part.document = .field key value)
    (found : branch.document.find? key = some current) (isOpen : key ∉ branch.closed) :
    branch.add? part = ((joinConditions current value).map (branch.document.insert key)).map
      fun doc => ⟨doc, branch.closed⟩ := by
  have taken : part.document.entries.foldlM (addEntry branch.closed part.isMergeable)
      branch.document = (joinConditions current value).map (branch.document.insert key) := by
    rw [document, mergeable]
    show addEntry branch.closed true branch.document (key, value) >>= pure = _
    rw [bind_pure, addEntry, found]
    simp [isOpen]
  rw [add?, taken, mergeable]
  cases (joinConditions current value).map (branch.document.insert key) <;> rfl

namespace Gathers

variable {branch : Branch} {parts : List Part} {part : Part}

theorem mem_keys (h : branch.Gathers parts) (key : String) :
    key ∈ branch.document.keys ↔ ∃ p ∈ parts, key ∈ p.document.keys := by
  rw [h.keys, List.mem_eraseDups, List.mem_flatMap]

/-- A part that names no key of the branch is taken in as it is. -/
theorem add?_fresh (h : branch.Gathers parts) (plain : part.IsPlain)
    (fresh : ∀ key ∈ part.document.keys, key ∉ branch.document.keys) :
    ∃ next, branch.add? part = some next ∧ next.Gathers (parts ++ [part]) := by
  have taken := foldlM_addEntry_fresh branch.closed part.isMergeable branch.document
    plain.distinct fresh
  have written : (⟨branch.document.entries ++ part.document.entries⟩ : Document) =
      branch.document.insertAll part.document.entries :=
    congrArg OrderedMap.mk (OrderedMap.entries_insertAll_of_fresh plain.distinct fresh).symm
  rw [written] at taken
  refine ⟨_, by rw [add?, taken], ?_, ?_, ?_, ?_⟩
  · simpa [or_imp, forall_and] using ⟨h.plain, plain⟩
  · rw [List.flatMap_append, List.flatMap_singleton]
    exact OrderedMap.keys_insertAll_eraseDups h.keys part.document.entries
  · intro key
    rw [OrderedMap.find?_insertAll_entries _ plain.distinct, Part.valuesOf_append, h.values key]
    cases found : part.document.find? key with
    | none => simp
    | some value =>
      -- The key is new, so no earlier part brings a value for it.
      have absent : ∀ p ∈ parts, key ∉ p.document.keys := by
        intro p hp listed
        exact fresh key (OrderedMap.mem_keys_of_find? found) ((h.mem_keys key).mpr ⟨p, hp, listed⟩)
      rw [Part.valuesOf_eq_nil absent]
      rfl
  · intro key
    cases mergeable : part.isMergeable <;>
      simp [h.closed key, mergeable, or_and_right, exists_or]

/-- A part is in the way if it names a key of the branch and is not mergeable, or the key is
    closed. -/
theorem add?_blocked (h : branch.Gathers parts) {key : String}
    (listed : key ∈ part.document.keys) (known : key ∈ branch.document.keys)
    (blocked : part.isMergeable = false ∨ key ∈ branch.closed) :
    (∃ p ∈ parts, p.Clashes part) ∧ branch.add? part = none := by
  constructor
  · rcases blocked with whole | isClosed
    · obtain ⟨p, hp, there⟩ := (h.mem_keys key).mp known
      exact ⟨p, hp, key, there, listed, .inr (.inl whole)⟩
    · obtain ⟨p, hp, whole, there⟩ := (h.closed key).mp isClosed
      exact ⟨p, hp, key, there, listed, .inl whole⟩
  · rw [add?, foldlM_addEntry_blocked listed known blocked]

/-- Under a key of mergeable parts the branch has their conditions, one after the other. -/
theorem find?_of_mergeable (h : branch.Gathers parts) {key : String}
    (mergeable : ∀ p ∈ parts, key ∈ p.document.keys → p.isMergeable = true)
    (known : key ∈ branch.document.keys) :
    ∃ docs : List Document, docs ≠ [] ∧ Part.valuesOf parts key = docs.map .document ∧
      (∀ d ∈ docs, d.isOperators = true) ∧
      branch.document.find? key = some (.document (Document.concat docs)) := by
  obtain ⟨docs, values, conditions⟩ := Part.valuesOf_eq_documents h.plain mergeable
  have nonempty : docs ≠ [] := by
    rintro rfl
    have absent := h.values key
    rw [values] at absent
    exact (branch.document.find?_eq_none_iff key).mp absent known
  refine ⟨docs, nonempty, values, fun d hd => (conditions d hd).operators, ?_⟩
  rw [h.values key, values, Bson.joined_documents nonempty]

/-- A condition written behind those that are there. -/
theorem join (h : branch.Gathers parts) (plain : part.IsPlain) (mergeable : part.isMergeable = true)
    {key : String} {d : Document} (document : part.document = .field key (.document d))
    {docs : List Document} (nonempty : docs ≠ [])
    (values : Part.valuesOf parts key = docs.map .document) :
    Gathers ⟨branch.document.insert key (.document ⟨(Document.concat docs).entries ++ d.entries⟩),
      branch.closed⟩ (parts ++ [part]) := by
  refine ⟨?_, ?_, ?_, ?_⟩
  · simpa [or_imp, forall_and] using ⟨h.plain, plain⟩
  · rw [List.flatMap_append, List.flatMap_singleton, document]
    exact OrderedMap.keys_insertAll_eraseDups h.keys [(key, _)]
  · intro other
    rw [OrderedMap.find?_insert, Part.valuesOf_append, document]
    by_cases here : other = key
    · have together : Part.valuesOf parts key ++ (some (Bson.document d)).toList =
          (docs ++ [d]).map .document := by simp [values]
      rw [if_pos here, here, Document.find?_field, together,
        Bson.joined_documents (List.append_ne_nil_of_left_ne_nil nonempty [d])]
      simp [Document.concat]
    · have absent : (Document.field key (.document d)).find? other = none := by
        rw [OrderedMap.find?_eq_none_iff]
        exact fun listed => here (List.mem_singleton.mp listed)
      rw [if_neg here, absent, h.values other]
      simp
  · intro other
    simp [h.closed other, mergeable]

/-- A condition on a key that is not closed is drawn together with those that are there, unless
    an operator of it is among theirs. -/
theorem add?_condition (h : branch.Gathers parts) (plain : part.IsPlain)
    (mergeable : part.isMergeable = true) {key : String} (listed : key ∈ part.document.keys)
    (known : key ∈ branch.document.keys) (isOpen : key ∉ branch.closed) :
    ((∀ p ∈ parts, ¬p.Clashes part) ∧
      ∃ next, branch.add? part = some next ∧ next.Gathers (parts ++ [part])) ∨
    (∃ p ∈ parts, p.Clashes part) ∧ branch.add? part = none := by
  obtain ⟨column, d, condition, document⟩ := plain.condition mergeable
  have same : key = column := by
    rw [document] at listed
    exact List.mem_singleton.mp listed
  subst same
  have others : ∀ p ∈ parts, key ∈ p.document.keys → p.isMergeable = true := by
    intro p hp named
    by_contra whole
    exact isOpen ((h.closed key).mpr ⟨p, hp, by simpa using whole, named⟩)
  obtain ⟨docs, nonempty, values, operators, found⟩ := h.find?_of_mergeable others known
  have clashes := Part.exists_clashes_iff mergeable document others values
  have step := add?_field branch mergeable document found isOpen
  by_cases shared : ∃ op ∈ d.keys, op ∈ (Document.concat docs).keys
  · right
    refine ⟨clashes.mpr shared, ?_⟩
    obtain ⟨op, here, there⟩ := shared
    rw [step, joinConditions_of_shared there here]
    rfl
  · left
    have free : ∀ p ∈ parts, ¬p.Clashes part := by
      intro p hp clash
      exact shared (clashes.mp ⟨p, hp, clash⟩)
    have apart : ∀ op ∈ d.keys, op ∉ (Document.concat docs).keys := by
      intro op here there
      exact shared ⟨op, here, there⟩
    rw [step, joinConditions_of_apart (Document.isOperators_concat nonempty operators) condition
      apart]
    exact ⟨free, _, rfl, h.join plain mergeable document nonempty values⟩

/-- A branch takes the next part in exactly if this clashes with none of those before it. -/
theorem add?_cases (h : branch.Gathers parts) (plain : part.IsPlain) :
    ((∀ p ∈ parts, ¬p.Clashes part) ∧
      ∃ next, branch.add? part = some next ∧ next.Gathers (parts ++ [part])) ∨
    (∃ p ∈ parts, p.Clashes part) ∧ branch.add? part = none := by
  by_cases shared : ∃ key ∈ part.document.keys, key ∈ branch.document.keys
  · obtain ⟨key, listed, known⟩ := shared
    by_cases blocked : part.isMergeable = false ∨ key ∈ branch.closed
    · exact .inr (h.add?_blocked listed known blocked)
    · obtain ⟨mergeable, isOpen⟩ := not_or.mp blocked
      exact h.add?_condition plain (by simpa using mergeable) listed known isOpen
  · have fresh : ∀ key ∈ part.document.keys, key ∉ branch.document.keys :=
      fun key listed known => shared ⟨key, listed, known⟩
    refine .inl ⟨?_, h.add?_fresh plain fresh⟩
    rintro p hp ⟨key, theirs, ours, _⟩
    exact fresh key ours ((h.mem_keys key).mpr ⟨p, hp, theirs⟩)

/-- A branch takes all further parts in exactly if no two parts clash. -/
theorem foldlM_add? (h : branch.Gathers parts)
    (apart : parts.Pairwise fun a b => ¬a.Clashes b) {more : List Part}
    (plain : ∀ part ∈ more, part.IsPlain) :
    ((parts ++ more).Pairwise (fun a b => ¬a.Clashes b) ∧
      ∃ last, more.foldlM add? branch = some last ∧ last.Gathers (parts ++ more)) ∨
    ¬(parts ++ more).Pairwise (fun a b => ¬a.Clashes b) ∧ more.foldlM add? branch = none := by
  induction more generalizing branch parts with
  | nil =>
    rw [List.append_nil]
    exact .inl ⟨apart, branch, rfl, h⟩
  | cons part rest ih =>
    have together : parts ++ part :: rest = (parts ++ [part]) ++ rest := by simp
    rw [together, List.foldlM_cons]
    rcases h.add?_cases (plain part List.mem_cons_self) with ⟨free, next, taken, gathers⟩ |
      ⟨⟨p, hp, clash⟩, failed⟩
    · rw [taken]
      apply ih gathers
      · rw [List.pairwise_append]
        refine ⟨apart, List.pairwise_singleton _ part, ?_⟩
        intro p hp other listed
        rw [List.mem_singleton.mp listed]
        exact free p hp
      · exact fun p hp => plain p (List.mem_cons_of_mem _ hp)
    · right
      rw [failed]
      refine ⟨?_, rfl⟩
      intro pairwise
      rw [List.pairwise_append, List.pairwise_append] at pairwise
      exact pairwise.1.2.2 p hp part List.mem_cons_self clash

/-- Where no two parts clash, a key that several of them bring has their operators, one part after
    the other. -/
theorem find?_of_several (h : branch.Gathers parts)
    (apart : parts.Pairwise fun a b => ¬a.Clashes b) {key : String}
    (several : 2 ≤ (Part.valuesOf parts key).length) :
    ∃ docs : List Document, Part.valuesOf parts key = docs.map .document ∧
      (∀ d ∈ docs, d.isOperators = true) ∧
      branch.document.find? key = some (.document (Document.concat docs)) := by
  have mergeable : ∀ p ∈ parts, key ∈ p.document.keys → p.isMergeable = true := by
    intro p hp named
    by_contra whole
    obtain ⟨value, found⟩ := OrderedMap.exists_find?_of_mem_keys named
    rw [Part.valuesOf_of_whole apart hp (by simpa using whole) found] at several
    simp at several
  have known : key ∈ branch.document.keys := by
    by_contra absent
    rw [h.mem_keys] at absent
    have none : Part.valuesOf parts key = [] :=
      Part.valuesOf_eq_nil fun p hp named => absent ⟨p, hp, named⟩
    simp [none] at several
  obtain ⟨docs, _, found⟩ := h.find?_of_mergeable mergeable known
  exact ⟨docs, found⟩

end Gathers

/-- Parts become one document with everything they bring if no two of them clash, and are listed
    otherwise. -/
theorem documentOf_gathers_or_listed {parts : List Part} (plain : ∀ part ∈ parts, part.IsPlain) :
    (parts.Pairwise (fun a b => ¬a.Clashes b) ∧
      ∃ branch : Branch, branch.Gathers parts ∧ documentOf parts = branch.document) ∨
    ¬parts.Pairwise (fun a b => ¬a.Clashes b) ∧
      documentOf parts = Document.allOf (parts.map Part.document) := by
  rcases gathers_empty.foldlM_add? List.Pairwise.nil plain with
    ⟨apart, branch, taken, gathers⟩ | ⟨clash, failed⟩
  · exact .inl ⟨apart, branch, gathers, by rw [documentOf, taken]⟩
  · exact .inr ⟨clash, by rw [documentOf, failed]⟩

end Branch

/-! ## Predicates -/

theorem Clause.document_of_isVerbatim {c : Clause} (h : c.IsVerbatim) :
    c.isMergeable = false ∧ c.document = .field c.column c.operand.coerce := by
  obtain ⟨column, operator, operand, connector⟩ := c
  rcases h with rfl | rfl <;> exact ⟨rfl, rfl⟩

/-- Predicates that all have to hold become one document if no two of them clash: it has their keys
    in the order of first arrival, a key of one predicate with the value that this brings, and a
    key of several with the operators that they bring, one after the other. Otherwise their
    documents are listed under `$and`. Either way the value of a verbatim clause stays as it is. -/
theorem joined_predicates_merge_or_are_listed {ps : List Predicate}
    (nonempty : ∀ p ∈ ps, p.isEmptyGroup = false) (joined : ∀ p ∈ ps.tail, p.connector = .and) :
    (ps.Pairwise (fun p q => ¬p.part.Clashes q.part) →
      (filterOf ps).keys = (ps.flatMap fun p => p.document.keys).eraseDups ∧
      ∀ key brought, ps.filterMap (fun p => p.document.find? key) = brought →
        (∀ value, brought = [value] → (filterOf ps).find? key = some value) ∧
        (2 ≤ brought.length → ∃ docs : List Document, brought = docs.map .document ∧
          (∀ d ∈ docs, d.isOperators = true) ∧
          (filterOf ps).find? key = some (.document (Document.concat docs)))) ∧
    (¬ps.Pairwise (fun p q => ¬p.part.Clashes q.part) →
      filterOf ps = Document.allOf (ps.map Predicate.document)) ∧
    ∀ c, .clause c ∈ ps → c.IsVerbatim → c.document = .field c.column c.operand.coerce ∧
      ((filterOf ps).find? c.column = some c.operand.coerce ∧
          ps.filterMap (fun p => p.document.find? c.column) = [c.operand.coerce] ∨
        filterOf ps = Document.allOf (ps.map Predicate.document)) := by
  have filter := filterOf_of_joined nonempty joined
  have plain : ∀ part ∈ ps.map Predicate.part, part.IsPlain := by
    intro part hp
    obtain ⟨p, _, rfl⟩ := List.mem_map.mp hp
    exact p.isPlain_part
  have values : ∀ key, ps.filterMap (fun p => p.document.find? key) =
      Part.valuesOf (ps.map Predicate.part) key := by
    intro key
    rw [Part.valuesOf, List.filterMap_map]
    rfl
  have keys : ps.flatMap (fun p => p.document.keys) =
      (ps.map Predicate.part).flatMap fun part => part.document.keys := by
    rw [List.flatMap_map]
    rfl
  have docs : ps.map Predicate.document = (ps.map Predicate.part).map Part.document := by
    rw [List.map_map]
    rfl
  have pairs : ps.Pairwise (fun p q => ¬p.part.Clashes q.part) ↔
      (ps.map Predicate.part).Pairwise fun a b => ¬a.Clashes b := by
    rw [List.pairwise_map]
  simp only [filter, keys, docs, values, pairs]
  rcases Branch.documentOf_gathers_or_listed plain with
    ⟨apart, branch, gathers, same⟩ | ⟨clash, listed⟩
  · rw [same]
    refine ⟨fun _ => ⟨gathers.keys, ?_⟩, fun clash => absurd apart clash, ?_⟩
    · rintro key brought rfl
      refine ⟨?_, gathers.find?_of_several apart⟩
      intro value one
      rw [gathers.values key, one]
      rfl
    · intro c hc verbatim
      obtain ⟨whole, document⟩ := Clause.document_of_isVerbatim verbatim
      have found : (Predicate.clause c).part.document.find? c.column = some c.operand.coerce := by
        show c.document.find? c.column = _
        rw [document, Document.find?_field]
      have alone := Part.valuesOf_of_whole apart (List.mem_map_of_mem hc) whole found
      refine ⟨document, .inl ⟨?_, alone⟩⟩
      rw [gathers.values c.column, alone]
      rfl
  · refine ⟨fun apart => absurd apart clash, fun _ => listed, ?_⟩
    intro c _ verbatim
    exact ⟨(Clause.document_of_isVerbatim verbatim).2, .inr listed⟩

/-- Two bounds stand side by side. A document of the caller that looks like a bound takes in no
    other, wherever it stands. -/
theorem bounds_share_a_column_and_caller_document_does_not :
    (filterOf [.clause ⟨"age", .gte, .int 18, .or⟩, .clause ⟨"name", .eq, .string "x", .and⟩,
        .clause ⟨"age", .lt, .int 65, .and⟩]).find? "age" =
      some (.document ⟨[("$gte", .int32 18), ("$lt", .int32 65)]⟩) ∧
    filterOf [.clause ⟨"age", .gte, .int 18, .or⟩, .clause ⟨"name", .ne, .string "x", .and⟩,
        .clause ⟨"age", .eq, .native (.document ⟨[("$lt", .int32 65)]⟩), .and⟩] =
      Document.allOf [Document.field "age" (.document ⟨[("$gte", .int32 18)]⟩),
        Document.field "name" (.document ⟨[("$ne", .string "x")]⟩),
        Document.field "age" (.document ⟨[("$lt", .int32 65)]⟩)] := by
  constructor
  · obtain ⟨merged, _⟩ := @joined_predicates_merge_or_are_listed
      [.clause ⟨"age", .gte, .int 18, .or⟩, .clause ⟨"name", .eq, .string "x", .and⟩,
        .clause ⟨"age", .lt, .int 65, .and⟩] (by decide) (by decide)
    obtain ⟨_, values⟩ := merged (by decide)
    obtain ⟨docs, brought, _, found⟩ := (values "age" _ rfl).2 (by decide)
    match docs, brought, found with
    | [_, _], rfl, found => exact found
  · obtain ⟨_, listed, _⟩ := @joined_predicates_merge_or_are_listed
      [.clause ⟨"age", .gte, .int 18, .or⟩, .clause ⟨"name", .ne, .string "x", .and⟩,
        .clause ⟨"age", .eq, .native (.document ⟨[("$lt", .int32 65)]⟩), .and⟩]
      (by decide) (by decide)
    exact listed (by decide)

end DocQuery
