import DocQuery.LikePattern

/- The expressions of LIKE patterns. `expression_eq_empty_iff` says which patterns become the empty
   expression, which is found in every text. -/

namespace DocQuery.LikePattern

theorem wildcards_eq_nil_iff {l : List Char} : wildcards l = [] ↔ l = [] := by
  constructor
  · intro h
    unfold wildcards at h
    split at h <;> first | rfl | cases h
  · rintro rfl
    rfl

/-- Only `%` stands for any run. -/
theorem wildcards_eq_anyRun_cons {l : List Char} {ws : List Wildcard} :
    wildcards l = .anyRun :: ws ↔ ∃ rest, l = '%' :: rest ∧ wildcards rest = ws := by
  constructor
  · intro h
    unfold wildcards at h
    split at h
    · cases h
    · cases h
    · next rest => exact ⟨rest, rfl, (List.cons.inj h).2⟩
    · cases h
    · cases h
  · rintro ⟨rest, rfl, rfl⟩
    rfl

theorem expression_ne_nil (w : Wildcard) : Wildcard.expression w ≠ [] := by
  cases w with
  | literal c =>
    show escaped c ≠ []
    unfold escaped
    split <;> exact List.cons_ne_nil _ _
  | anyRun => exact List.cons_ne_nil _ _
  | anyOne => exact List.cons_ne_nil _ _

/-- Without anchors and parts in between there are at most a `%` in front and one behind. -/
theorem expressionOf_eq_nil_iff {ws : List Wildcard} :
    expressionOf ws = [] ↔ ws = [.anyRun] ∨ ws = [.anyRun, .anyRun] := by
  constructor
  · intro h
    unfold expressionOf at h
    simp only [List.append_eq_nil_iff] at h
    obtain ⟨⟨front, middle⟩, back⟩ := h
    have start : openStart ws = true := by
      cases o : openStart ws with
      | true => rfl
      | false => simp [o] at front
    have stop : openEnd ws = true := by
      cases o : openEnd ws with
      | true => rfl
      | false => simp [o] at back
    have none : core ws = [] := by
      cases parts : core ws with
      | nil => rfl
      | cons w rest =>
        rw [parts, List.flatMap_cons] at middle
        exact absurd (List.append_eq_nil_iff.mp middle).1 (expression_ne_nil w)
    unfold core at none
    simp only [start, stop, if_true] at none
    -- Nothing is left between the ends, so there is one `%` for both of them or one for each.
    match ws, start, stop, none with
    | [.anyRun], _, _, _ => exact .inl rfl
    | [.anyRun, w], _, stop, _ =>
      right
      simpa [openEnd] using stop
  · rintro (rfl | rfl) <;> rfl

/-- The expression of a pattern is empty only for the patterns that ask for nothing. -/
theorem expression_eq_empty_iff (pattern : String) :
    expression pattern = "" ↔ pattern = "%" ∨ pattern = "%%" := by
  unfold expression
  rw [String.ofList_eq_empty_iff, expressionOf_eq_nil_iff, ← String.toList_inj,
    ← String.toList_inj]
  have one : "%".toList = ['%'] := rfl
  have two : "%%".toList = ['%', '%'] := rfl
  simp [wildcards_eq_anyRun_cons, wildcards_eq_nil_iff, one, two]

end DocQuery.LikePattern
