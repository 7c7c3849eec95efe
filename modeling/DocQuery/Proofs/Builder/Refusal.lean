import DocQuery.Proofs.Builder.Groups

/- Refused steps leave no trace in a builder. `builder_of_refused` says so of one step: a call
   that can be refused checks before it changes anything, and a group works on a builder of its
   own, which is dropped with whatever its steps did before one of them was refused. Over a run it
   follows that the refused steps might as well not have been there, at the top and inside of
   groups. -/

namespace DocQuery

/-! ## One step -/

theorem Call.builder_of_refused {b : Builder} {c : Call}
    (h : (c.run b).answer.isRefused = true) : (c.run b).builder = b := by
  revert h
  cases c with
  | whereOp connector column operator operand =>
    rw [run_whereOp]
    split
    · exact fun _ => rfl
    · split
      · exact fun _ => rfl
      · exact Bool.noConfusion
  | orderByWith column direction =>
    rw [run_orderByWith]
    split
    · exact fun _ => rfl
    · exact Bool.noConfusion
  | reorderBy column direction =>
    rw [run_reorderBy]
    split
    · exact fun _ => rfl
    · exact Bool.noConfusion
  | relational method => exact fun _ => rfl
  | _ => exact Bool.noConfusion

/-- A refused step leaves the builder as it was. -/
theorem Step.builder_of_refused {b : Builder} {step : Step}
    (h : (step.run b).answer.isRefused = true) : (step.run b).builder = b := by
  cases step with
  | call c => exact Call.builder_of_refused h
  | group connector refusals steps =>
    rw [Step.run] at h ⊢
    split
    · rfl
    · next accepted =>
      rw [accepted] at h
      cases h

/-! ## Runs without their refused steps -/

/-- What a step leaves behind and what it answers, but not what it reports. -/
def Outcome.result (o : Outcome) : Builder × Answer := (o.builder, o.answer)

namespace Builder

/-- The steps of a run that are accepted where they stand. -/
def accepted (b : Builder) : List Step → List Step
  | [] => []
  | step :: rest =>
    if (step.run b).answer.isRefused then (step.run b).builder.accepted rest
    else step :: (step.run b).builder.accepted rest

/-- Without the refused steps every other step has the same outcome. -/
theorem outcomes_accepted (b : Builder) (steps : List Step) :
    b.outcomes (b.accepted steps) =
      (b.outcomes steps).filter fun outcome => !outcome.answer.isRefused := by
  induction steps generalizing b with
  | nil => rfl
  | cons step rest ih =>
    rw [accepted, outcomes]
    cases refused : (step.run b).answer.isRefused with
    | true =>
      have same := Step.builder_of_refused refused
      simp [refused, same, ih]
    | false => simp [refused, outcomes, ih]

theorem after_accepted (b : Builder) (steps : List Step) :
    b.after (b.accepted steps) = b.after steps := by
  induction steps generalizing b with
  | nil => rfl
  | cons step rest ih =>
    rw [accepted, after]
    cases refused : (step.run b).answer.isRefused with
    | true =>
      have same := Step.builder_of_refused refused
      simp [same, ih]
    | false => simp [after, ih]

end Builder

/-! ## Groups without their refused steps -/

namespace Step

mutual

/-- The step without what is refused inside of it. -/
def pruned (b : Builder) : Step → Step
  | .call c => .call c
  | .group connector refusals steps =>
    .group connector refusals (prunedAll (.new b.collection) steps)

/-- The steps of a run without those that are refused, at any depth. -/
def prunedAll (b : Builder) : List Step → List Step
  | [] => []
  | step :: rest =>
    if (step.run b).answer.isRefused then prunedAll (step.run b).builder rest
    else step.pruned b :: prunedAll (step.run b).builder rest

end

mutual

theorem result_pruned (step : Step) {b : Builder} (h : (step.run b).answer.isRefused = false) :
    ((step.pruned b).run b).result = (step.run b).result := by
  cases step with
  | call c => rfl
  | group connector refusals steps =>
    cases through : (runGroup refusals (.new b.collection) steps).error? with
    | some e =>
      rw [run_group_of_error connector through] at h
      cases h
    | none =>
      obtain ⟨builder, _⟩ := runGroup_eq_after through
      obtain ⟨final, results⟩ := results_prunedAll steps (.new b.collection)
      -- What is left of the group is accepted, so it goes through whatever it does at refusals.
      have accepted : ∀ o ∈
          (Builder.new b.collection).outcomes (prunedAll (.new b.collection) steps),
          o.answer.isRefused = false := by
        intro o ho
        have listed : o.result ∈ _ := List.mem_map_of_mem ho
        rw [results] at listed
        obtain ⟨o', ho', same⟩ := List.mem_map.mp listed
        have answers : o'.answer = o.answer := congrArg Prod.snd same
        simpa [answers] using (List.mem_filter.mp ho').2
      obtain ⟨builder', through'⟩ := runGroup_of_accepted accepted
      rw [pruned, run_group_of_none connector (through' : (runGroup refusals _ _).error? = none),
        run_group_of_none connector through, builder', final, builder]
      rfl

theorem results_prunedAll (steps : List Step) (b : Builder) :
    b.after (prunedAll b steps) = b.after steps ∧
      (b.outcomes (prunedAll b steps)).map Outcome.result =
        ((b.outcomes steps).filter fun o => !o.answer.isRefused).map Outcome.result := by
  cases steps with
  | nil => exact ⟨rfl, rfl⟩
  | cons step rest =>
    obtain ⟨final, results⟩ := results_prunedAll rest (step.run b).builder
    rw [prunedAll, Builder.after, Builder.outcomes]
    cases refused : (step.run b).answer.isRefused with
    | true =>
      rw [Step.builder_of_refused refused] at final results ⊢
      simp [refused, final, results]
    | false =>
      have first := result_pruned step refused
      have builder : ((step.pruned b).run b).builder = (step.run b).builder :=
        congrArg Prod.fst first
      simp [refused, Builder.after, Builder.outcomes, builder, final, results, first]

end

end Step

/-- A refused step leaves the builder as it was, so a run gives the same builder and all else has
    the same outcome without the refused steps. Refused steps inside of groups can go as well, up
    to what is reported. -/
theorem refused_steps_leave_no_trace (b : Builder) (steps : List Step) :
    (∀ step e, (Step.run b step).answer = .refused e → (Step.run b step).builder = b) ∧
    b.after (b.accepted steps) = b.after steps ∧
    b.outcomes (b.accepted steps) =
      (b.outcomes steps).filter (fun outcome => !outcome.answer.isRefused) ∧
    b.after (Step.prunedAll b steps) = b.after steps ∧
    (b.outcomes (Step.prunedAll b steps)).map Outcome.result =
      ((b.outcomes steps).filter fun outcome => !outcome.answer.isRefused).map Outcome.result := by
  refine ⟨?_, b.after_accepted steps, b.outcomes_accepted steps, Step.results_prunedAll steps b⟩
  intro step e refused
  exact Step.builder_of_refused (Answer.isRefused_iff.mpr ⟨e, refused⟩)

/-- A group stopped by its last step drops what its first steps did. -/
theorem stopped_group_leaves_no_trace :
    (Step.run (.new "docs") (.group .or .stop
      [.call (.whereEq .and "a" (.int 1)), .group .and .ignore [.call (.relational .having)],
        .call (.orderByWith "a" (.keyword "sideways"))])).answer = .refused .unknownDirection ∧
    (Step.run (.new "docs") (.group .or .stop
      [.call (.whereEq .and "a" (.int 1)), .group .and .ignore [.call (.relational .having)],
        .call (.orderByWith "a" (.keyword "sideways"))])).builder = .new "docs" :=
  ⟨rfl, (refused_steps_leave_no_trace (.new "docs") []).1 _ _ rfl⟩

end DocQuery
