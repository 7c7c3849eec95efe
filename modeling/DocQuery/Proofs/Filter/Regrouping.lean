import DocQuery.Filter.Basic

/- A branch takes in the entries of its parts one by one. What it ends up with is a regrouping of
   them: the same conditions on the same columns, in another order, and with several conditions on
   one column drawn together. `addEntry_cases` says what taking in one entry can do, and
   `documentOf_cases` what joining a list of parts comes to. A way to read documents that regards
   neither the order of entries nor how conditions are drawn together is therefore kept by joining;
   the meaning of a filter and the pieces of a filter are two such ways. -/

namespace DocQuery

/-! ## Conditions that clauses make -/

theorem Document.isOperators_iff {d : Document} :
    d.isOperators = true ↔ d.keys ≠ [] ∧ ∀ key ∈ d.keys, isOperatorKey key = true := by
  unfold Document.isOperators OrderedMap.isEmpty OrderedMap.keys
  cases d.entries with
  | nil => simp
  | cons entry rest => simp

/-- A document of operators as clauses make it: each operator once, and options only beside the
    expression that they belong to. -/
structure Document.IsCondition (d : Document) : Prop where
  operators : d.isOperators = true
  distinct : d.Distinct
  options : "$options" ∈ d.keys → "$regex" ∈ d.keys

/-- Whether a document is a condition shows in its keys. -/
theorem Document.isCondition_of_keys {d : Document} (keys : List String) (h : d.keys = keys)
    (nonempty : keys ≠ []) (all : ∀ key ∈ keys, isOperatorKey key = true)
    (once : keys.Nodup) (options : "$options" ∈ keys → "$regex" ∈ keys) : d.IsCondition := by
  subst h
  exact ⟨Document.isOperators_iff.mpr ⟨nonempty, all⟩, once, options⟩

theorem Operator.key_spec {op : Operator} {key : String} (h : op.key? = some key) :
    isOperatorKey key = true ∧ key ≠ "$options" := by
  have table : ∀ op ∈ Operator.every, ∀ key ∈ op.key?, isOperatorKey key = true ∧
      key ≠ "$options" := by decide
  exact table op (Operator.mem_every op) key h

theorem Operator.isCondition_document {op : Operator} {key : String} (h : op.key? = some key)
    (operand : Bson) : (op.document operand).IsCondition := by
  obtain ⟨operator, other⟩ := Operator.key_spec h
  rw [Operator.document, h]
  refine Document.isCondition_of_keys [key] rfl (List.cons_ne_nil _ _) ?_
    (List.pairwise_singleton _ key) ?_
  · intro k hk
    rw [List.mem_singleton.mp hk]
    exact operator
  · intro hk
    exact absurd (List.mem_singleton.mp hk).symm other

theorem Document.isCondition_insertAll {first second : Document} (hf : first.IsCondition)
    (hs : second.IsCondition) (apart : ∀ key ∈ second.keys, key ∉ first.keys) :
    first.insertAll second.entries = ⟨first.entries ++ second.entries⟩ ∧
      Document.IsCondition ⟨first.entries ++ second.entries⟩ := by
  have entries := OrderedMap.entries_insertAll_of_fresh hs.distinct apart
  have joined : first.insertAll second.entries = ⟨first.entries ++ second.entries⟩ :=
    congrArg OrderedMap.mk entries
  have keys : (⟨first.entries ++ second.entries⟩ : Document).keys = first.keys ++ second.keys :=
    List.map_append
  have hf' := Document.isOperators_iff.mp hf.operators
  have hs' := Document.isOperators_iff.mp hs.operators
  refine ⟨joined, Document.isCondition_of_keys _ keys ?_ ?_ ?_ ?_⟩
  · intro none
    exact hf'.1 (List.append_eq_nil_iff.mp none).1
  · intro key hk
    exact (List.mem_append.mp hk).elim (hf'.2 key) (hs'.2 key)
  · rw [← keys, ← joined]
    exact hf.distinct.insertAll second.entries
  · intro hk
    rw [List.mem_append] at hk ⊢
    exact hk.imp hf.options hs.options

/-- A clause that may share its column puts one condition on it. -/
theorem Clause.document_of_isMergeable {c : Clause} (h : c.isMergeable = true) :
    ∃ d : Document, d.IsCondition ∧ c.document = .field c.column (.document d) := by
  obtain ⟨column, operator, operand, connector⟩ := c
  cases operator with
  | eq | raw | notBetween => cases h
  | between =>
    exact ⟨_, Document.isCondition_of_keys ["$gte", "$lte"] rfl (by decide) (by decide)
      (by decide) (by decide), rfl⟩
  | like =>
    exact ⟨_, Document.isCondition_of_keys ["$regex", "$options"] rfl (by decide)
      (by decide) (by decide) (by decide), rfl⟩
  | notLike =>
    exact ⟨_, Document.isCondition_of_keys ["$not"] rfl (by decide) (by decide)
      (by decide) (by decide), rfl⟩
  | _ => exact ⟨_, Operator.isCondition_document rfl _, rfl⟩

/-! ## Junctions -/

/-- An array of documents, at least one. Under `$and` and `$or` such an array is a junction. -/
def Bson.areDocuments (items : List Bson) : Bool :=
  !items.isEmpty && items.all fun
    | .document _ => true
    | _ => false

theorem Bson.areDocuments_map (docs : List Document) :
    Bson.areDocuments (docs.map .document) = !docs.isEmpty := by
  simp [Bson.areDocuments]

/-! ## Regrouping -/

/-- The first list of entries puts the same conditions on the same columns as the second, in
    another order and with conditions drawn together. -/
inductive Regroups : List (String × Bson) → List (String × Bson) → Prop where
  | perm {l l' : List (String × Bson)} (h : l.Perm l') : Regroups l l'
  | join (key : String) {first second : Document} (rest : List (String × Bson))
      (hf : first.IsCondition) (hs : second.IsCondition)
      (apart : ∀ op ∈ second.keys, op ∉ first.keys) :
      Regroups ((key, .document ⟨first.entries ++ second.entries⟩) :: rest)
        ((key, .document first) :: (key, .document second) :: rest)
  | trans {l l' l'' : List (String × Bson)} (h : Regroups l l') (h' : Regroups l' l'') :
      Regroups l l''

theorem Regroups.append_right {l l' : List (String × Bson)} (h : Regroups l l')
    (r : List (String × Bson)) : Regroups (l ++ r) (l' ++ r) := by
  induction h with
  | perm h => exact .perm (h.append_right r)
  | join key rest hf hs apart => exact .join key (rest ++ r) hf hs apart
  | trans _ _ ih ih' => exact .trans ih ih'

/-- A condition in the middle of a list drawn together with one that stands behind the list. -/
theorem Regroups.join_last {key : String} {first second : Document}
    (start rest : List (String × Bson)) (hf : first.IsCondition) (hs : second.IsCondition)
    (apart : ∀ op ∈ second.keys, op ∉ first.keys) :
    Regroups (start ++ (key, .document ⟨first.entries ++ second.entries⟩) :: rest)
      (start ++ (key, .document first) :: rest ++ [(key, .document second)]) := by
  refine .trans (.perm List.perm_middle) (.trans (.join key (start ++ rest) hf hs apart) (.perm ?_))
  refine List.Perm.trans ?_ (List.perm_append_singleton _ _).symm
  exact (List.Perm.swap _ _ _).trans (List.perm_middle.symm.cons _)

namespace Branch

/-- Every entry whose key is not closed holds a condition. -/
def Joinable (closed : List String) (entries : List (String × Bson)) : Prop :=
  ∀ entry ∈ entries, entry.1 ∉ closed → ∃ d : Document, d.IsCondition ∧ entry.2 = .document d

/-! ## One entry -/

theorem joinConditions_eq_some {a b c : Bson} (h : joinConditions a b = some c) :
    ∃ first second : Document, a = .document first ∧ b = .document second ∧
      (∀ key ∈ second.keys, key ∉ first.keys) ∧ c = .document (first.insertAll second.entries) := by
  unfold joinConditions at h
  split at h
  · next first second =>
    split at h
    · next apart =>
      refine ⟨first, second, rfl, rfl, ?_, (Option.some.inj h).symm⟩
      intro key hk known
      rw [Bool.and_eq_true, List.all_eq_true] at apart
      have absent := apart.2 key hk
      rw [(first.contains_iff_mem key).mpr known] at absent
      cases absent
    · cases h
  · cases h

/-- What taking in an entry does: a new key goes last as it is, and for a known one two conditions
    are drawn together in its place. -/
theorem addEntry_cases {closed : List String} {mergeable : Bool} {doc next : Document}
    {entry : String × Bson} (h : addEntry closed mergeable doc entry = some next) :
    (entry.1 ∉ doc.keys ∧ next.entries = doc.entries ++ [entry]) ∨
    (mergeable = true ∧ entry.1 ∉ closed ∧ ∃ start rest, ∃ first second : Document,
      doc.entries = start ++ (entry.1, .document first) :: rest ∧ entry.2 = .document second ∧
      (∀ op ∈ second.keys, op ∉ first.keys) ∧
      next.entries =
        start ++ (entry.1, .document (first.insertAll second.entries)) :: rest) := by
  unfold addEntry at h
  cases found : doc.find? entry.1 with
  | none =>
    rw [found] at h
    have new := (doc.find?_eq_none_iff entry.1).mp found
    refine .inl ⟨new, ?_⟩
    rw [← Option.some.inj h, OrderedMap.insert_of_not_mem entry.2 new]
  | some current =>
    rw [found] at h
    simp only at h
    split at h
    · next both =>
      rw [Bool.and_eq_true, Bool.not_eq_true', List.contains_eq_mem, decide_eq_false_iff_not]
        at both
      obtain ⟨joined, hj, rfl⟩ := Option.map_eq_some_iff.mp h
      obtain ⟨first, second, rfl, hs, apart, rfl⟩ := joinConditions_eq_some hj
      obtain ⟨start, rest, known, written⟩ := OrderedMap.entries_insert_of_find? found
      exact .inr ⟨both.1, both.2, start, rest, first, second, known, hs, apart, written _⟩
    · cases h

/-- A condition that is taken in leaves the branch joinable and regroups the entries. -/
theorem addEntry_condition {closed : List String} {mergeable : Bool} {doc next : Document}
    {entry : String × Bson} (ready : Joinable closed doc.entries)
    (condition : ∃ d : Document, d.IsCondition ∧ entry.2 = .document d)
    (h : addEntry closed mergeable doc entry = some next) :
    Joinable closed next.entries ∧ Regroups next.entries (doc.entries ++ [entry]) := by
  rcases addEntry_cases h with ⟨_, appended⟩ |
    ⟨_, notClosed, start, rest, first, second, known, hs, apart, written⟩
  · rw [appended]
    refine ⟨?_, .perm (.refl _)⟩
    intro e he free
    rcases List.mem_append.mp he with old | new
    · exact ready e old free
    · rw [List.mem_singleton.mp new]
      exact condition
  · -- The condition that is there was made by clauses, since its key is not closed.
    obtain ⟨key, value⟩ := entry
    obtain ⟨d, made, hd⟩ := ready (key, .document first) (by rw [known]; simp) notClosed
    cases hd
    obtain ⟨d', made', hd'⟩ := condition
    subst hs
    cases hd'
    obtain ⟨joined, madeBoth⟩ := Document.isCondition_insertAll made made' apart
    rw [joined] at written
    rw [written, known]
    refine ⟨?_, by simpa using Regroups.join_last start rest made made' apart⟩
    intro e he free
    rcases List.mem_append.mp he with old | new
    · exact ready e (by rw [known]; exact List.mem_append_left _ old) free
    · rcases List.mem_cons.mp new with rfl | old
      · exact ⟨_, madeBoth, rfl⟩
      · refine ready e ?_ free
        rw [known]
        exact List.mem_append_right _ (List.mem_cons_of_mem _ old)

/-! ## One part -/

theorem foldlM_addEntry_conditions {closed : List String} {mergeable : Bool}
    {entries : List (String × Bson)} {doc next : Document} (ready : Joinable closed doc.entries)
    (conditions : Joinable [] entries)
    (h : entries.foldlM (addEntry closed mergeable) doc = some next) :
    Joinable closed next.entries ∧ Regroups next.entries (doc.entries ++ entries) := by
  induction entries generalizing doc with
  | nil =>
    cases h
    exact ⟨ready, .perm (by simp)⟩
  | cons entry rest ih =>
    rw [List.foldlM_cons] at h
    obtain ⟨middle, first, later⟩ := Option.bind_eq_some_iff.mp h
    have condition := conditions entry List.mem_cons_self List.not_mem_nil
    obtain ⟨ready', regroups⟩ := addEntry_condition ready condition first
    obtain ⟨ready'', regroups'⟩ :=
      ih ready' (fun e he => conditions e (List.mem_cons_of_mem _ he)) later
    refine ⟨ready'', regroups'.trans ?_⟩
    simpa using regroups.append_right rest

/-- The entries of a part that is not mergeable all stand behind those that were there. -/
theorem foldlM_addEntry_whole {closed : List String} {entries : List (String × Bson)}
    {doc next : Document} (h : entries.foldlM (addEntry closed false) doc = some next) :
    next.entries = doc.entries ++ entries := by
  induction entries generalizing doc with
  | nil =>
    cases h
    simp
  | cons entry rest ih =>
    rw [List.foldlM_cons] at h
    obtain ⟨middle, first, later⟩ := Option.bind_eq_some_iff.mp h
    rcases addEntry_cases first with ⟨_, appended⟩ | ⟨mergeable, _⟩
    · rw [ih later, appended]
      simp
    · cases mergeable

end Branch

/-- The part holds conditions only, if it says that these may stand beside others. -/
def Part.IsSound (part : Part) : Prop :=
  part.isMergeable = true → Branch.Joinable [] part.document.entries

theorem Predicate.isSound_part (p : Predicate) : p.part.IsSound := by
  intro mergeable entry he _
  cases p with
  | group members connector => cases mergeable
  | clause c =>
    obtain ⟨d, made, hd⟩ := Clause.document_of_isMergeable mergeable
    have single : entry ∈ (Document.field c.column (.document d)).entries := hd ▸ he
    rw [List.mem_singleton.mp single]
    exact ⟨d, made, rfl⟩

theorem Predicate.isSound_of_mem_parts {ps : List Predicate} {part : Part}
    (h : part ∈ Predicate.parts ps) : part.IsSound := by
  rw [Predicate.parts_eq_map] at h
  obtain ⟨p, _, rfl⟩ := List.mem_map.mp h
  exact p.isSound_part

namespace Branch

theorem add?_eq_some {branch next : Branch} {part : Part} (sound : part.IsSound)
    (ready : Joinable branch.closed branch.document.entries)
    (h : branch.add? part = some next) :
    Joinable next.closed next.document.entries ∧
      Regroups next.document.entries (branch.document.entries ++ part.document.entries) := by
  unfold add? at h
  split at h
  · next doc taken =>
    cases h
    cases mergeable : part.isMergeable with
    | true =>
      rw [mergeable] at taken
      exact foldlM_addEntry_conditions ready (sound mergeable) taken
    | false =>
      rw [mergeable] at taken
      have entries := foldlM_addEntry_whole taken
      simp only [Bool.false_eq_true, if_false]
      rw [entries]
      refine ⟨?_, .perm (.refl _)⟩
      -- What the part brought may be anything, but all its keys are closed from here on.
      intro entry he free
      rw [List.mem_append] at free
      rcases List.mem_append.mp he with old | new
      · exact ready entry old fun closed => free (.inl closed)
      · exact absurd (.inr (List.mem_map_of_mem new)) free
  · cases h

/-! ## All parts -/

theorem foldlM_add? {parts : List Part} {branch last : Branch}
    (sound : ∀ part ∈ parts, part.IsSound)
    (ready : Joinable branch.closed branch.document.entries)
    (h : parts.foldlM add? branch = some last) :
    Regroups last.document.entries
      (branch.document.entries ++ parts.flatMap fun part => part.document.entries) := by
  induction parts generalizing branch with
  | nil =>
    cases h
    exact .perm (by simp)
  | cons part rest ih =>
    rw [List.foldlM_cons] at h
    obtain ⟨middle, first, later⟩ := Option.bind_eq_some_iff.mp h
    obtain ⟨ready', regroups⟩ := add?_eq_some (sound part List.mem_cons_self) ready first
    have regroups' := ih (fun p hp => sound p (List.mem_cons_of_mem _ hp)) ready' later
    refine regroups'.trans ?_
    simpa using regroups.append_right _

/-- Parts that all have to hold become a regrouping of their entries, or are listed. -/
theorem documentOf_cases {parts : List Part} (sound : ∀ part ∈ parts, part.IsSound) :
    Regroups (documentOf parts).entries (parts.flatMap fun part => part.document.entries) ∨
      (parts ≠ [] ∧ documentOf parts = Document.allOf (parts.map Part.document)) := by
  unfold documentOf
  cases h : parts.foldlM add? empty with
  | some last => exact .inl (foldlM_add? sound (fun _ he => absurd he List.not_mem_nil) h)
  | none =>
    refine .inr ⟨?_, rfl⟩
    rintro rfl
    cases h

end Branch

end DocQuery
