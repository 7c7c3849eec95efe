import DocQuery.Proofs.Bson.Agreement
import DocQuery.Proofs.Filter.Keys
import DocQuery.Proofs.Filter.Regrouping
import DocQuery.Proofs.Filter.Runs

/- Predicates that agree have filter documents that are aligned: they name the same keys in the same
   order, and what they say under them agrees (`aligned_filterOf`). Only where two conditions on a
   column are drawn together does it matter what a document says under a key. The conditions were
   made by clauses there and name each operator once, so agreeing ones are drawn together alike,
   whatever the order of their operators. -/

namespace DocQuery

/-! ## Values -/

theorem Instant.millis_congr {t u : Instant} (h : t.same u = true) : t.millis = u.millis := by
  rw [Instant.same, Bool.and_eq_true, beq_iff_eq, beq_iff_eq] at h
  rw [millis, millis, h.1, h.2]

theorem Bson.same_ofInt (n : Int64) : (Bson.ofInt n).same (.ofInt n) = true := by
  unfold ofInt
  split <;> exact beq_self_eq_true _

namespace Value

mutual

theorem same_coerce {v w : Value} (h : v.same w = true) : v.coerce.same w.coerce = true := by
  cases v <;> cases w
  case null.null => rfl
  case bool.bool => exact h
  case float.float => exact h
  case string.string => exact h
  case native.native => exact h
  case int.int n m =>
    rw [eq_of_beq h]
    exact Bson.same_ofInt m
  case date.date t u =>
    rw [coerce, coerce, Instant.millis_congr h]
    exact beq_self_eq_true _
  case array.array => exact sameItems_coerceAll h
  all_goals cases h

theorem sameItems_coerceAll {vs ws : List Value} (h : sameItems vs ws = true) :
    Bson.sameItems (coerceAll vs) (coerceAll ws) = true := by
  cases vs <;> cases ws
  case nil.nil => rfl
  case cons.cons v vs w ws =>
    rw [sameItems, Bool.and_eq_true] at h
    rw [coerceAll, coerceAll, Bson.sameItems, same_coerce h.1, sameItems_coerceAll h.2]
    rfl
  all_goals cases h

end

theorem text?_congr {v w : Value} (h : v.same w = true) : v.text? = w.text? := by
  cases v <;> cases w
  case string.string => exact congrArg some (eq_of_beq h)
  -- Any other values that agree are both no strings.
  all_goals first | rfl | cases h

theorem same_sequence {v w : Value} (h : v.same w = true) :
    (Bson.array v.sequence).same (.array w.sequence) = true := by
  have coerced := same_coerce h
  unfold sequence
  split
  · next items array =>
    rw [array] at coerced
    obtain ⟨items', array'⟩ := Bson.array_of_same coerced
    rw [array'] at coerced ⊢
    exact coerced
  · next lone =>
    split
    · next items' array' =>
      rw [array'] at coerced
      obtain ⟨items, array⟩ := Bson.array_of_same_array coerced
      exact absurd array (lone items)
    · -- Two values that are no arrays count as arrays of one.
      exact (Bool.and_eq_true _ _).mpr ⟨coerced, rfl⟩

theorem same_bounds {v w : Value} (h : v.same w = true) :
    v.bounds.1.same w.bounds.1 = true ∧ v.bounds.2.same w.bounds.2 = true := by
  have coerced := same_coerce h
  cases v <;> cases w
  case array.array vs ws =>
    match vs, ws, h with
    | [], [], _ => exact ⟨rfl, rfl⟩
    | [v], [w], h =>
      rw [same, sameItems, Bool.and_eq_true] at h
      exact ⟨same_coerce h.1, same_coerce h.1⟩
    | v :: v' :: _, w :: w' :: _, h =>
      rw [same, sameItems, sameItems, Bool.and_eq_true, Bool.and_eq_true] at h
      exact ⟨same_coerce h.1, same_coerce h.2.1⟩
    | [_], _ :: _ :: _, h | _ :: _ :: _, [_], h => simp [same, sameItems] at h
  all_goals first
    | exact ⟨coerced, coerced⟩
    | cases h

theorem same_likeDocument {v w : Value} (h : v.same w = true) :
    Document.same v.likeDocument w.likeDocument = true := by
  have documents : v.likeDocument = w.likeDocument := by
    rw [likeDocument, likeDocument, text?_congr h]
  have strings (text : String) : (Bson.string text).same (.string text) = true :=
    beq_self_eq_true text
  rw [documents]
  refine ((Document.Aligned.single "$regex" (strings _)).insert "$options" (strings _)).same ?_
  exact (OrderedMap.distinct_single _ _).insert _ _

end Value

/-! ## Clauses -/

/-- A condition on a column, which may say what it says in another order. -/
theorem Document.Aligned.condition (column : String) {d d' : Document} (h : d.same d' = true) :
    Document.Aligned (.field column (.document d)) (.field column (.document d')) :=
  .single column h

theorem Document.same_field (key : String) {v w : Bson} (h : v.same w = true) :
    Document.same (.field key v) (.field key w) = true :=
  (Document.Aligned.single key h).same (OrderedMap.distinct_single key v)

theorem Document.same_condition (column : String) {d d' : Document} (h : d.same d' = true) :
    Document.same (.field column (.document d)) (.field column (.document d')) = true :=
  Document.same_field column h

theorem Operator.same_document (op : Operator) {v w : Bson} (h : v.same w = true) :
    Document.same (op.document v) (op.document w) = true := by
  unfold Operator.document
  split
  · exact Document.same_field _ h
  · rfl

/-- Clauses that agree make the same keys, and agree under them. -/
theorem Clause.aligned_document {c d : Clause} (h : c.same d = true) :
    c.document.Aligned d.document := by
  obtain ⟨column, op, v, connector⟩ := c
  obtain ⟨column', op', w, connector'⟩ := d
  simp only [Clause.same, Bool.and_eq_true, beq_iff_eq] at h
  obtain ⟨⟨⟨rfl, rfl⟩, operand⟩, rfl⟩ := h
  obtain ⟨low, high⟩ := Value.same_bounds operand
  cases op with
  | eq | raw => exact .single column (Value.same_coerce operand)
  | isIn | notIn | all =>
    exact .condition column (Operator.same_document _ (Value.same_sequence operand))
  | between =>
    refine .condition column (((Document.Aligned.single "$gte" low).insert "$lte" high).same ?_)
    exact (OrderedMap.distinct_single _ _).insert _ _
  | notBetween =>
    have first := Document.same_condition column (Document.same_field "$lte" low)
    have second := Document.same_condition column (Document.same_field "$gte" high)
    exact .single "$or" (Bson.same_documents (.cons first (.cons second .nil)))
  | like => exact .condition column (Value.same_likeDocument operand)
  | notLike =>
    exact .condition column (Document.same_condition "$not" (Value.same_likeDocument operand))
  | _ => exact .condition column (Operator.same_document _ (Value.same_coerce operand))

/-! ## Branches -/

/-- Parts that are joined in the same way: what they hold is aligned, and they are parts as
    predicates make them. -/
structure Part.Agree (p q : Part) : Prop where
  connector : p.connector = q.connector
  isMergeable : p.isMergeable = q.isMergeable
  document : p.document.Aligned q.document
  distinct : p.document.Distinct
  sound : p.IsSound

namespace Branch

theorem rel_joinConditions {a c : Document} {v w : Bson} (ha : a.Distinct) (hc : c.Distinct)
    (h : (Bson.document a).same v = true) (h' : (Bson.document c).same w = true) :
    Option.Rel (fun v w => Bson.same v w) (joinConditions (.document a) (.document c))
      (joinConditions v w) := by
  obtain ⟨b, rfl⟩ := Bson.document_of_same h
  obtain ⟨d, rfl⟩ := Bson.document_of_same h'
  rw [Bson.same_document] at h h'
  have apart : c.keys.all (fun key => !a.contains key) = d.keys.all fun key => !b.contains key := by
    rw [(Document.keys_perm_of_same hc h').all_eq]
    simp only [Document.contains_congr ha h]
  rw [joinConditions, joinConditions, apart, Document.isOperators_congr ha h,
    Document.isOperators_congr hc h']
  split
  · exact .some (Document.same_insertAll ha (Document.distinct_of_same ha h) hc h h')
  · exact .none

/-- Entries that agree are taken in alike. -/
theorem rel_addEntry {closed : List String} {mergeable : Bool} {doc doc' : Document}
    {entry entry' : String × Bson} (ready : mergeable = true → Joinable closed doc.entries)
    (condition : mergeable = true → ∃ d : Document, d.IsCondition ∧ entry.2 = .document d)
    (aligned : doc.Aligned doc') (agree : Document.EntryAgree entry entry') :
    Option.Rel Document.Aligned (addEntry closed mergeable doc entry)
      (addEntry closed mergeable doc' entry') := by
  obtain ⟨key, value⟩ := entry
  obtain ⟨key', value'⟩ := entry'
  obtain ⟨rfl, values⟩ := agree
  have known := aligned.find? key
  unfold addEntry
  cases found : doc.find? key with
  | none =>
    rw [found] at known
    generalize doc'.find? key = known' at known ⊢
    cases known
    exact .some (aligned.insert key values)
  | some current =>
    rw [found] at known
    generalize doc'.find? key = known' at known ⊢
    obtain currents | _ := known
    dsimp only
    split
    · next both =>
      rw [Bool.and_eq_true, Bool.not_eq_true', List.contains_eq_mem, decide_eq_false_iff_not]
        at both
      -- Both conditions were made by clauses, so they name each operator once.
      obtain ⟨before, after, split, _⟩ := OrderedMap.entries_insert_of_find? found
      have listed : (key, current) ∈ doc.entries := by
        rw [split]
        exact List.mem_append_right _ List.mem_cons_self
      obtain ⟨first, made, rfl⟩ := ready both.1 _ listed both.2
      obtain ⟨second, made', rfl⟩ := condition both.1
      have joined := rel_joinConditions made.distinct made'.distinct currents values
      exact rel_map (fun _ _ agree => aligned.insert key agree) joined
    · exact .none

/-- Parts that agree are taken in alike, and close the same keys. -/
theorem rel_add? {branch branch' : Branch} {part part' : Part}
    (ready : Joinable branch.closed branch.document.entries)
    (closed : branch.closed = branch'.closed) (aligned : branch.document.Aligned branch'.document)
    (agree : part.Agree part') :
    Option.Rel (fun b b' : Branch => b.closed = b'.closed ∧ b.document.Aligned b'.document)
      (branch.add? part) (branch'.add? part') := by
  have entries : List.Forall₂
      (fun e f => (part.isMergeable = true → ∃ d : Document, d.IsCondition ∧ e.2 = .document d) ∧
        Document.EntryAgree e f)
      part.document.entries part'.document.entries := by
    rw [List.forall₂_and_left]
    refine ⟨fun e he mergeable => ?_, agree.document⟩
    exact agree.sound mergeable e he List.not_mem_nil
  have taken := rel_foldlM (P := fun d : Document =>
      part.isMergeable = true → Joinable branch.closed d.entries)
    (fun _ _ _ _ entry ready h mergeable =>
      (addEntry_condition (ready mergeable) (entry.1 mergeable) h).1)
    (fun _ _ _ _ ready aligned entry => rel_addEntry ready entry.1 aligned entry.2)
    entries (fun _ => ready) aligned
  unfold add?
  rw [← closed, ← agree.isMergeable, ← agree.document.keys]
  generalize part.document.entries.foldlM (addEntry branch.closed part.isMergeable)
    branch.document = x at taken ⊢
  generalize part'.document.entries.foldlM (addEntry branch.closed part.isMergeable)
    branch'.document = y at taken ⊢
  cases taken with
  | some taken => exact .some ⟨rfl, taken⟩
  | none => exact .none

theorem aligned_documentOf {parts parts' : List Part} (h : List.Forall₂ Part.Agree parts parts') :
    (documentOf parts).Aligned (documentOf parts') := by
  have taken := rel_foldlM
    (P := fun b : Branch => Joinable b.closed b.document.entries)
    (R := fun b b' : Branch => b.closed = b'.closed ∧ b.document.Aligned b'.document)
    (S := Part.Agree) (fun _ _ _ _ agree ready taken => (add?_eq_some agree.sound ready taken).1)
    (fun _ _ _ _ ready same agree => rel_add? ready same.1 same.2 agree)
    h (s := empty) (t := empty) (fun _ he => absurd he List.not_mem_nil) ⟨rfl, .empty⟩
  unfold documentOf
  generalize parts.foldlM add? empty = x at taken ⊢
  generalize parts'.foldlM add? empty = y at taken ⊢
  cases taken with
  | some taken => exact taken.2
  | none =>
    -- Parts are in each other's way in both lists, and are listed as they are.
    refine .single "$and" (Bson.same_documents ?_)
    rw [List.forall₂_map_left_iff, List.forall₂_map_right_iff]
    exact h.imp fun _ _ agree => agree.document.same agree.distinct

end Branch

/-! ## Filters -/

theorem aligned_joinAlternatives {docs docs' : List Document}
    (h : List.Forall₂ (fun d d' => d.Distinct ∧ d.Aligned d') docs docs') :
    (joinAlternatives docs).Aligned (joinAlternatives docs') := by
  have documents := Bson.same_documents (h.imp fun _ _ both => both.2.same both.1)
  cases h with
  | nil => exact .empty
  | cons first rest =>
    cases rest with
    | nil => exact first.2
    | cons second rest => exact .single "$or" documents

theorem aligned_joinParts {parts parts' : List Part} (h : List.Forall₂ Part.Agree parts parts') :
    (joinParts parts).Aligned (joinParts parts') := by
  apply aligned_joinAlternatives
  have runs : List.Forall₂ (List.Forall₂ Part.Agree)
      (cutBefore (fun part => part.connector == .or) parts)
      (cutBefore (fun part => part.connector == .or) parts') :=
    forall₂_cutBefore (fun _ _ agree => by rw [agree.connector]) h
  rw [List.forall₂_map_left_iff, List.forall₂_map_right_iff]
  exact runs.imp fun run _ agree =>
    ⟨Branch.distinct_documentOf run, Branch.aligned_documentOf agree⟩

namespace Predicate

mutual

theorem isEmptyGroup_congr {p q : Predicate} (h : p.same q = true) :
    p.isEmptyGroup = q.isEmptyGroup := by
  cases p <;> cases q
  case clause.clause => rfl
  case group.group members _ members' _ =>
    rw [same, Bool.and_eq_true] at h
    exact allEmptyGroups_congr h.1
  all_goals cases h

theorem allEmptyGroups_congr {ps qs : List Predicate} (h : sameMembers ps qs = true) :
    allEmptyGroups ps = allEmptyGroups qs := by
  cases ps <;> cases qs
  case nil.nil => rfl
  case cons.cons p ps q qs =>
    rw [sameMembers, Bool.and_eq_true] at h
    rw [allEmptyGroups, allEmptyGroups, isEmptyGroup_congr h.1, allEmptyGroups_congr h.2]
  all_goals cases h

end

theorem connector_congr {p q : Predicate} (h : p.same q = true) : p.connector = q.connector := by
  cases p <;> cases q
  case clause.clause =>
    rw [same, Clause.same, Bool.and_eq_true, beq_iff_eq] at h
    exact h.2
  case group.group =>
    rw [same, Bool.and_eq_true, beq_iff_eq] at h
    exact h.2
  all_goals cases h

theorem isMergeable_congr {p q : Predicate} (h : p.same q = true) :
    p.isMergeable = q.isMergeable := by
  cases p <;> cases q
  case clause.clause c d =>
    simp only [same, Clause.same, Bool.and_eq_true, beq_iff_eq] at h
    rw [isMergeable, isMergeable, Clause.isMergeable, Clause.isMergeable, h.1.1.2]
  case group.group => rfl
  all_goals cases h

mutual

theorem aligned_document {p q : Predicate} (h : p.same q = true) :
    p.document.Aligned q.document := by
  cases p <;> cases q
  case clause.clause => exact Clause.aligned_document h
  case group.group =>
    rw [same, Bool.and_eq_true] at h
    exact aligned_joinParts (agree_parts h.1)
  all_goals cases h

theorem agree_parts {ps qs : List Predicate} (h : sameMembers ps qs = true) :
    List.Forall₂ Part.Agree (parts ps) (parts qs) := by
  cases ps <;> cases qs
  case nil.nil => exact .nil
  case cons.cons p ps q qs =>
    rw [sameMembers, Bool.and_eq_true] at h
    rw [parts, parts, isEmptyGroup_congr h.1]
    split
    · exact agree_parts h.2
    · exact .cons ⟨connector_congr h.1, isMergeable_congr h.1, aligned_document h.1,
        p.distinct_document, p.isSound_part⟩ (agree_parts h.2)
  all_goals cases h

end

end Predicate

/-- Predicates that agree have filters with the same keys in the same order, which agree under
    them. -/
theorem aligned_filterOf {ps qs : List Predicate} (h : Predicate.sameMembers ps qs = true) :
    (filterOf ps).Aligned (filterOf qs) :=
  aligned_joinParts (Predicate.agree_parts h)

end DocQuery
