import DocQuery.Builder.Run

/- Runs of steps and groups of steps. A group runs its steps on a builder of its own as any run
   does, until one is refused and the group stops there. `runGroup_eq_after` says which builder a
   group that went through has; `Step.run_preserves` carries a property of builders through all
   steps, those inside of groups included. -/

namespace DocQuery

/-- The step was not accepted. -/
def Answer.isRefused : Answer → Bool
  | .refused _ => true
  | _ => false

theorem Answer.isRefused_iff {a : Answer} : a.isRefused = true ↔ ∃ e, a = .refused e := by
  cases a <;> simp [isRefused]

/-- An answer lets a group go on, or it is the refusal at which the group stops. -/
theorem goesOn_or_stops (refusals : Refusals) (a : Answer) :
    (a.isRefused = true → refusals = .ignore) ∨ (refusals = .stop ∧ ∃ e, a = .refused e) := by
  cases refusals with
  | ignore => exact .inl fun _ => rfl
  | stop =>
    cases h : a.isRefused with
    | true => exact .inr ⟨rfl, Answer.isRefused_iff.mp h⟩
    | false => exact .inl fun refused => Bool.noConfusion refused

namespace Step

/-- A step that does not stop its group is followed by the others. -/
theorem runGroup_cons {refusals : Refusals} {b : Builder} {step : Step} (rest : List Step)
    (goesOn : (step.run b).answer.isRefused = true → refusals = .ignore) :
    runGroup refusals b (step :: rest) =
      ⟨(runGroup refusals (step.run b).builder rest).builder,
        (runGroup refusals (step.run b).builder rest).error?,
        (step.run b).events ++ (runGroup refusals (step.run b).builder rest).events⟩ := by
  rw [runGroup]
  intro e refused stops
  rw [refused] at goesOn
  cases (goesOn rfl).symm.trans stops

theorem runGroup_cons_stop {b : Builder} {step : Step} {e : QueryError} (rest : List Step)
    (refused : (step.run b).answer = .refused e) :
    runGroup .stop b (step :: rest) = ⟨(step.run b).builder, some e, (step.run b).events⟩ := by
  simp only [runGroup, refused]

/-- A group that goes through leaves the builder of the whole run, and if it stops at refusals none
    of its steps was refused. -/
theorem runGroup_eq_after {refusals : Refusals} {b : Builder} {steps : List Step}
    (h : (runGroup refusals b steps).error? = none) :
    (runGroup refusals b steps).builder = b.after steps ∧
      (refusals = .stop → ∀ outcome ∈ b.outcomes steps, outcome.answer.isRefused = false) := by
  induction steps generalizing b with
  | nil => exact ⟨rfl, fun _ outcome ho => absurd ho List.not_mem_nil⟩
  | cons step rest ih =>
    rcases goesOn_or_stops refusals (step.run b).answer with goesOn | ⟨rfl, e, refused⟩
    · rw [runGroup_cons rest goesOn] at h ⊢
      obtain ⟨builder, accepted⟩ := ih h
      refine ⟨builder, fun stops outcome ho => ?_⟩
      rcases List.mem_cons.mp ho with rfl | later
      · -- A refusal does not let a group go on that stops at refusals.
        rw [Bool.eq_false_iff]
        intro refused
        cases stops.symm.trans (goesOn refused)
      · exact accepted stops outcome later
    · rw [runGroup_cons_stop rest refused] at h
      cases h

/-- A group none of whose steps is refused goes through. -/
theorem runGroup_of_accepted {refusals : Refusals} {b : Builder} {steps : List Step}
    (h : ∀ outcome ∈ b.outcomes steps, outcome.answer.isRefused = false) :
    (runGroup refusals b steps).builder = b.after steps ∧
      (runGroup refusals b steps).error? = none := by
  induction steps generalizing b with
  | nil => exact ⟨rfl, rfl⟩
  | cons step rest ih =>
    have first := h (step.run b) List.mem_cons_self
    rw [runGroup_cons rest fun refused => by rw [first] at refused; cases refused]
    exact ih fun outcome ho => h outcome (List.mem_cons_of_mem _ ho)

/-- A group that is refused drops its builder. -/
theorem run_group_of_error {b : Builder} (connector : Connector) {refusals : Refusals}
    {steps : List Step} {e : QueryError}
    (h : (runGroup refusals (.new b.collection) steps).error? = some e) :
    (group connector refusals steps).run b =
      ⟨b, .refused e, (runGroup refusals (.new b.collection) steps).events⟩ := by
  rw [run, h]

/-- A group that goes through adds the predicates of its builder, and nothing else. -/
theorem run_group_of_none {b : Builder} (connector : Connector) {refusals : Refusals}
    {steps : List Step} (h : (runGroup refusals (.new b.collection) steps).error? = none) :
    (group connector refusals steps).run b =
      ⟨b.addGroup connector
          (runGroup refusals (.new b.collection) steps).builder.query.predicates,
        .done, (runGroup refusals (.new b.collection) steps).events⟩ := by
  rw [run, h]

/-! ## Properties of builders that runs keep -/

mutual

/-- The calls of a step, those inside of groups included. -/
def calls : Step → List Call
  | .call c => [c]
  | .group _ _ steps => callsOf steps

/-- The calls of all listed steps. -/
def callsOf : List Step → List Call
  | [] => []
  | step :: rest => step.calls ++ callsOf rest

end

/-- A property that new builders have, the listed calls keep and groups hand on. -/
structure IsKept (listed : List Call) (P : Builder → Prop) : Prop where
  start : ∀ collection, P (.new collection)
  call : ∀ b, ∀ c ∈ listed, P b → P (c.run b).builder
  group : ∀ b inner connector, P b → P inner → P (b.addGroup connector inner.query.predicates)

variable {listed : List Call} {P : Builder → Prop}

mutual

theorem run_preserves (kept : IsKept listed P) (step : Step) (among : step.calls ⊆ listed)
    {b : Builder} (h : P b) : P (step.run b).builder := by
  cases step with
  | call c => exact kept.call b c (among List.mem_cons_self) h
  | group connector refusals steps =>
    have inner := runGroup_preserves kept refusals steps among (kept.start b.collection)
    cases failed : (runGroup refusals (.new b.collection) steps).error? with
    | some e =>
      rw [run_group_of_error connector failed]
      exact h
    | none =>
      rw [run_group_of_none connector failed]
      exact kept.group b _ connector h inner

theorem runGroup_preserves (kept : IsKept listed P) (refusals : Refusals) (steps : List Step)
    (among : callsOf steps ⊆ listed) {b : Builder} (h : P b) :
    P (runGroup refusals b steps).builder := by
  cases steps with
  | nil => exact h
  | cons step rest =>
    obtain ⟨here, later⟩ := List.append_subset.mp among
    have first := run_preserves kept step here h
    rcases goesOn_or_stops refusals (step.run b).answer with goesOn | ⟨rfl, e, refused⟩
    · rw [runGroup_cons rest goesOn]
      exact runGroup_preserves kept refusals rest later first
    · rw [runGroup_cons_stop rest refused]
      exact first

end

/-- Steps keep it, so runs do. -/
theorem after_preserves (kept : IsKept listed P) (steps : List Step)
    (among : callsOf steps ⊆ listed) {b : Builder} (h : P b) : P (b.after steps) := by
  induction steps generalizing b with
  | nil => exact h
  | cons step rest ih =>
    obtain ⟨here, later⟩ := List.append_subset.mp among
    exact ih later (run_preserves kept step here h)

end Step

end DocQuery
