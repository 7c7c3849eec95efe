import Mathlib.Data.List.DropRight
import DocQuery.Proofs.Builder.Groups

/- What a run leaves in a builder, told from its steps. A list that steps extend and start afresh is
   what the last fresh start made it and what the steps after that one added
   (`Builder.list_after`). A value that steps give and take away is the one that was given last
   since it was last taken away (`Builder.value_after`). Both are inductions from the end of the
   run, because the last step is the one that counts. -/

namespace DocQuery

variable {α : Type}

namespace Builder

theorem after_append (b : Builder) (steps more : List Step) :
    b.after (steps ++ more) = (b.after steps).after more := by
  induction steps generalizing b with
  | nil => rfl
  | cons step rest ih => exact ih (step.run b).builder

theorem after_concat (b : Builder) (steps : List Step) (step : Step) :
    b.after (steps ++ [step]) = (step.run (b.after steps)).builder :=
  b.after_append steps [step]

end Builder

/-! ## Lists -/

/-- What steps make of a list: what the last one that starts it afresh makes it, or what it was at
    the start, and behind that what the steps after that one add. -/
def accumulated (afresh? : Step → Option (List α)) (added : Step → List α) (start : List α)
    (steps : List Step) : List α :=
  (steps.filterMap afresh?).getLast?.getD start ++
    (steps.rtakeWhile fun step => (afresh? step).isNone).flatMap added

theorem accumulated_concat (afresh? : Step → Option (List α)) (added : Step → List α)
    (start : List α) (steps : List Step) (step : Step) :
    accumulated afresh? added start (steps ++ [step]) =
      (afresh? step).getD (accumulated afresh? added start steps ++ added step) := by
  unfold accumulated
  cases fresh : afresh? step with
  | some list =>
    rw [List.rtakeWhile_concat_neg _ _ _ (by simp [fresh]), List.filterMap_append]
    simp [fresh]
  | none =>
    rw [List.rtakeWhile_concat_pos _ _ _ (by simp [fresh]), List.filterMap_append]
    simp [fresh]

/-- What is made of a list on which every step acts in this way. -/
theorem Builder.made_after {β : Type} (read : Builder → β) (make : List α → β)
    {afresh? : Step → Option (List α)} {added : Step → List α}
    (law : ∀ b step list, read b = make list →
      read (Step.run b step).builder = make ((afresh? step).getD (list ++ added step)))
    {b : Builder} {start : List α} (first : read b = make start) (steps : List Step) :
    read (b.after steps) = make (accumulated afresh? added start steps) := by
  induction steps using List.reverseRecOn with
  | nil => simpa [after, accumulated] using first
  | append_singleton steps step ih => rw [after_concat, law _ step _ ih, accumulated_concat]

/-- A list on which every step acts in this way. -/
theorem Builder.list_after (read : Builder → List α) {afresh? : Step → Option (List α)}
    {added : Step → List α}
    (law : ∀ b step, read (Step.run b step).builder = (afresh? step).getD (read b ++ added step))
    (b : Builder) (steps : List Step) :
    read (b.after steps) = accumulated afresh? added (read b) steps := by
  refine made_after read id ?_ rfl steps
  intro b step list here
  rw [law, here]
  rfl

/-! ## Values -/

/-- The value that was given last since it was last taken away. -/
def givenLast (given? : Step → Option α) (takes : Step → Bool) (steps : List Step) : Option α :=
  ((steps.rtakeWhile fun step => !takes step).filterMap given?).getLast?

theorem givenLast_concat (given? : Step → Option α) (takes : Step → Bool) (steps : List Step)
    (step : Step) :
    givenLast given? takes (steps ++ [step]) =
      if takes step then none else (given? step).or (givenLast given? takes steps) := by
  unfold givenLast
  cases taken : takes step with
  | true =>
    rw [List.rtakeWhile_concat_neg _ _ _ (by simp [taken])]
    rfl
  | false =>
    rw [List.rtakeWhile_concat_pos _ _ _ (by simp [taken]), List.filterMap_append,
      List.getLast?_append]
    cases given : given? step <;> simp [given]

/-- A value on which every step acts in this way, and which nothing has given yet. -/
theorem Builder.value_after (read : Builder → Option α) {given? : Step → Option α}
    {takes : Step → Bool}
    (law : ∀ b step,
      read (Step.run b step).builder = if takes step then none else (given? step).or (read b))
    {b : Builder} (fresh : read b = none) (steps : List Step) :
    read (b.after steps) = givenLast given? takes steps := by
  induction steps using List.reverseRecOn with
  | nil => exact fresh
  | append_singleton steps step ih => rw [after_concat, law, ih, givenLast_concat]

end DocQuery
