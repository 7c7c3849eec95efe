import Mathlib.Data.List.Basic
import DocQuery.Proofs.Builder.Groups

/- What a run reports. A step makes calls: itself, or the steps of a group one after the other on the
   builder of the group, up to the first refusal if the group stops there (`Step.executions`). Only a
   call reports anything, and it does so when it is made, so the events of a run are the reports of
   its calls in the order in which they were made, whether or not a group dropped what the calls
   did. Among them are as many warnings as relational methods were refused. Main statement:
   `runs_are_reported_call_by_call`. -/

namespace DocQuery

/-! ## The calls that are made -/

/-- A call that is made, and the builder that it is made to. -/
structure Execution where
  builder : Builder
  call : Call
  deriving Repr

namespace Execution

def answer (x : Execution) : Answer := (x.call.run x.builder).answer

/-- The events that a call is reported by: a command with what was counted and with its text, a
    function with its column, and a relational method with its name. -/
def report (x : Execution) : List Event :=
  match x.call, x.answer with
  | .toCommand, .command command =>
    [.compiled x.builder.collection command.name x.builder.query.predicates.length
        x.builder.query.orderList.length,
      .commandText command.text]
  | .toAggregate function column, .command _ =>
    [.aggregated x.builder.collection function column]
  | .relational method, .refused _ => [.refused method]
  | _, _ => []

/-- The relational method for which the call raised an error. -/
def unsupported? (x : Execution) : Option RelationalMethod :=
  match x.answer with
  | .refused (.relationalOnly method) => some method
  | _ => none

end Execution

namespace Step

mutual

/-- The calls that a step makes, in their order. -/
def executions (b : Builder) : Step → List Execution
  | .call c => [⟨b, c⟩]
  | .group _ refusals steps => executionsOf refusals (.new b.collection) steps

/-- The calls that steps make one after the other; where a refusal stops them, no step after the
    first refused one makes any. -/
def executionsOf (refusals : Refusals) (b : Builder) : List Step → List Execution
  | [] => []
  | step :: rest =>
    step.executions b ++
      if refusals = .stop ∧ (step.run b).answer.isRefused = true then []
      else executionsOf refusals (step.run b).builder rest

end

/-- The steps up to the first one that is refused, and this one. -/
def reached (b : Builder) (steps : List Step) : List Step :=
  steps.take ((b.outcomes steps).findIdx (fun outcome => outcome.answer.isRefused) + 1)

theorem executionsOf_cons {refusals : Refusals} {b : Builder} {step : Step} (rest : List Step)
    (goesOn : (step.run b).answer.isRefused = true → refusals = .ignore) :
    executionsOf refusals b (step :: rest) =
      step.executions b ++ executionsOf refusals (step.run b).builder rest := by
  rw [executionsOf, if_neg]
  rintro ⟨rfl, refused⟩
  cases goesOn refused

theorem executionsOf_cons_stop {b : Builder} {step : Step} {e : QueryError} (rest : List Step)
    (refused : (step.run b).answer = .refused e) :
    executionsOf .stop b (step :: rest) = step.executions b := by
  rw [executionsOf, if_pos ⟨rfl, Answer.isRefused_iff.mpr ⟨e, refused⟩⟩, List.append_nil]

/-- Where refusals stop the steps, the calls are those of the steps that are reached. -/
theorem executionsOf_stop (b : Builder) (steps : List Step) :
    executionsOf .stop b steps = executionsOf .ignore b (reached b steps) := by
  induction steps generalizing b with
  | nil => rfl
  | cons step rest ih =>
    have ignored : ∀ more, executionsOf .ignore b (step :: more) =
        step.executions b ++ executionsOf .ignore (step.run b).builder more :=
      fun more => executionsOf_cons more fun _ => rfl
    rw [reached, Builder.outcomes, List.findIdx_cons, List.take_succ_cons, ignored, executionsOf]
    congr 1
    cases refused : (step.run b).answer.isRefused with
    | true => simp [executionsOf]
    | false =>
      simp only [Bool.false_eq_true, and_false, if_false, cond_false]
      exact ih (step.run b).builder

end Step

/-! ## Calls and their reports -/

theorem Call.events_run (c : Call) (b : Builder) :
    (c.run b).events = (Execution.mk b c).report := by
  cases c with
  | whereOp connector column operator operand =>
    rw [run_whereOp]
    split
    · rfl
    · split <;> rfl
  | orderByWith column direction =>
    rw [run_orderByWith]
    split <;> rfl
  | reorderBy column direction =>
    rw [run_reorderBy]
    split <;> rfl
  | _ => rfl

/-- Which levels a report has depends on nothing but the call. -/
theorem Execution.levels_report (x : Execution) :
    x.report.map Event.level =
      match x.call with
      | .toCommand => [.debug, .trace]
      | .toAggregate .. => [.debug]
      | .relational _ => [.warn]
      | _ => [] := by
  obtain ⟨b, c⟩ := x
  cases c <;> rfl

/-! ## The reasons of refusals -/

theorem OperatorArg.resolve_eq_error {operator : OperatorArg} {e : QueryError}
    (h : operator.resolve = .error e) : ∃ spelling, e = .unknownOperator spelling := by
  cases operator with
  | operator op => cases h
  | spelling text =>
    change Operator.parse text = .error e at h
    unfold Operator.parse at h
    split at h
    · cases h
    · cases h
      exact ⟨_, rfl⟩

theorem Clause.checked_eq_error {c : Clause} {e : QueryError} (h : c.checked = .error e) :
    e = .unfitOperand c.operator c.column := by
  unfold checked at h
  split at h
  · cases h
  · exact (Except.error.inj h).symm

theorem DirectionArg.resolve_eq_error {direction : DirectionArg} {e : QueryError}
    (h : direction.resolve = .error e) : e = .unknownDirection := by
  cases direction with
  | native spec => cases h
  | keyword | number =>
    rw [resolve] at h
    split at h
    · cases h
    · split at h
      · cases h
      · exact (Except.error.inj h).symm

theorem OrderClause.make_eq_error {column : String} {direction : DirectionArg} {e : QueryError}
    (h : make column direction = .error e) : e = .unknownDirection := by
  unfold make at h
  split at h
  · cases h
  · next resolved =>
    rw [← Except.error.inj h]
    exact DirectionArg.resolve_eq_error resolved

/-- Only relational methods are refused for being relational. -/
theorem Call.eq_relational_of_refused {b : Builder} {c : Call} {m : RelationalMethod}
    (h : (c.run b).answer = .refused (.relationalOnly m)) : c = .relational m := by
  cases c with
  | relational method =>
    cases h
    rfl
  | whereOp connector column operator operand =>
    rw [run_whereOp] at h
    split at h
    · next e resolved =>
      obtain ⟨spelling, other⟩ := OperatorArg.resolve_eq_error resolved
      cases other.symm.trans (Answer.refused.inj h)
    · split at h
      · next e unfit =>
        cases (Clause.checked_eq_error unfit).symm.trans (Answer.refused.inj h)
      · cases h
  | orderByWith column direction =>
    rw [run_orderByWith] at h
    split at h
    · next e unknown =>
      cases (OrderClause.make_eq_error unknown).symm.trans (Answer.refused.inj h)
    · cases h
  | reorderBy column direction =>
    rw [run_reorderBy] at h
    split at h
    · next e unknown =>
      cases (OrderClause.make_eq_error unknown).symm.trans (Answer.refused.inj h)
    · cases h
  | _ => cases h

/-- A call is reported by a warning exactly if it raised an error for a relational method. -/
theorem Execution.warnings_report (x : Execution) :
    x.report.filter (fun e => e.level == .warn) = (x.unsupported?.map Event.refused).toList := by
  obtain ⟨b, c⟩ := x
  cases raised : (Execution.mk b c).unsupported? with
  | some method =>
    have refused : (c.run b).answer = .refused (.relationalOnly method) := by
      unfold unsupported? at raised
      split at raised
      · next answer =>
        cases raised
        exact answer
      · cases raised
    rw [Call.eq_relational_of_refused refused]
    rfl
  | none =>
    cases c with
    | relational method => cases raised
    | _ => rfl

/-! ## Steps and runs -/

namespace Step

mutual

theorem events_run (step : Step) (b : Builder) :
    (step.run b).events = (step.executions b).flatMap Execution.report := by
  cases step with
  | call c =>
    rw [run, executions, List.flatMap_singleton]
    exact c.events_run b
  | group connector refusals steps =>
    have inner := events_runGroup refusals steps (.new b.collection)
    rw [executions, ← inner]
    -- Whether or not the group is refused, what it reports is what its steps did.
    cases failed : (runGroup refusals (.new b.collection) steps).error? with
    | some e => rw [run_group_of_error connector failed]
    | none => rw [run_group_of_none connector failed]

theorem events_runGroup (refusals : Refusals) (steps : List Step) (b : Builder) :
    (runGroup refusals b steps).events =
      (executionsOf refusals b steps).flatMap Execution.report := by
  cases steps with
  | nil => rfl
  | cons step rest =>
    have first := events_run step b
    rcases goesOn_or_stops refusals (step.run b).answer with goesOn | ⟨rfl, e, refused⟩
    · have later := events_runGroup refusals rest (step.run b).builder
      rw [runGroup_cons rest goesOn, executionsOf_cons rest goesOn, List.flatMap_append, ← first,
        ← later]
    · rw [runGroup_cons_stop rest refused, executionsOf_cons_stop rest refused, ← first]

end

mutual

/-- An error with which a step answers was raised by one of its calls. -/
theorem exists_execution_of_refused (step : Step) {b : Builder} {e : QueryError}
    (h : (step.run b).answer = .refused e) : ∃ x ∈ step.executions b, x.answer = .refused e := by
  cases step with
  | call c => exact ⟨⟨b, c⟩, List.mem_cons_self, h⟩
  | group connector refusals steps =>
    cases failed : (runGroup refusals (.new b.collection) steps).error? with
    | some e' =>
      rw [run_group_of_error connector failed] at h
      cases h
      exact exists_execution_of_error refusals steps failed
    | none =>
      rw [run_group_of_none connector failed] at h
      cases h

theorem exists_execution_of_error (refusals : Refusals) (steps : List Step) {b : Builder}
    {e : QueryError} (h : (runGroup refusals b steps).error? = some e) :
    ∃ x ∈ executionsOf refusals b steps, x.answer = .refused e := by
  cases steps with
  | nil => cases h
  | cons step rest =>
    rcases goesOn_or_stops refusals (step.run b).answer with goesOn | ⟨rfl, e', refused⟩
    · rw [runGroup_cons rest goesOn] at h
      obtain ⟨x, made, raised⟩ := exists_execution_of_error refusals rest h
      rw [executionsOf_cons rest goesOn]
      exact ⟨x, List.mem_append_right _ made, raised⟩
    · rw [runGroup_cons_stop rest refused] at h
      cases h
      rw [executionsOf_cons_stop rest refused]
      exact exists_execution_of_refused step refused

end

end Step

theorem Builder.events_outcomes (b : Builder) (steps : List Step) :
    (b.outcomes steps).flatMap Outcome.events =
      (Step.executionsOf .ignore b steps).flatMap Execution.report := by
  induction steps generalizing b with
  | nil => rfl
  | cons step rest ih =>
    rw [outcomes, Step.executionsOf_cons rest fun _ => rfl, List.flatMap_cons, List.flatMap_append,
      step.events_run, ih]

/-- The warnings of a run are those for the relational methods that raised an error in it. -/
theorem Builder.warnings_outcomes (b : Builder) (steps : List Step) :
    ((b.outcomes steps).flatMap Outcome.events).filter (fun e => e.level == .warn) =
      ((Step.executionsOf .ignore b steps).filterMap Execution.unsupported?).map Event.refused := by
  rw [b.events_outcomes, List.filter_flatMap, List.map_filterMap]
  simp only [Execution.warnings_report]
  exact (List.filterMap_eq_flatMap_toList _ _).symm

/-- A run reports the calls that are made, in their order and at every depth of groups, and nothing
    else: a command by two events, a function and a refused relational method by one, any other call
    by none. The steps of a group are reported whether or not it is refused, up to the first refused
    one if the group stops there. So the warnings are those for the relational methods that raised
    an error somewhere, and as many; no step answers with an error that was not raised so. -/
theorem runs_are_reported_call_by_call (b : Builder) (steps : List Step) :
    let events := (b.outcomes steps).flatMap Outcome.events
    let made := Step.executionsOf .ignore b steps
    let warnings := events.filter fun e => e.level == .warn
    let unsupported := made.filterMap Execution.unsupported?
    events = made.flatMap Execution.report ∧
    (∀ x : Execution, x.report.map Event.level =
      match x.call with
      | .toCommand => [.debug, .trace]
      | .toAggregate .. => [.debug]
      | .relational _ => [.warn]
      | _ => []) ∧
    (∀ connector refusals, (Step.run b (.group connector refusals steps)).events =
      (Step.executionsOf .ignore (.new b.collection)
        (match refusals with
          | .stop => Step.reached (.new b.collection) steps
          | .ignore => steps)).flatMap Execution.report) ∧
    warnings = unsupported.map Event.refused ∧ warnings.length = unsupported.length ∧
    ∀ step e, (Step.run b step).answer = .refused e →
      ∃ x ∈ Step.executions b step, x.answer = .refused e := by
  intro events made warnings unsupported
  have reported : events = made.flatMap Execution.report := b.events_outcomes steps
  have warned : warnings = unsupported.map Event.refused := b.warnings_outcomes steps
  refine ⟨reported, Execution.levels_report, ?_, warned, by rw [warned, List.length_map],
    fun step e => step.exists_execution_of_refused⟩
  intro connector refusals
  have inner := (Step.group connector refusals steps).events_run b
  rw [inner, Step.executions]
  cases refusals with
  | stop => rw [Step.executionsOf_stop]
  | ignore => rfl

/-- A group is stopped by its first step, another one goes on after a refusal, and a command is
    compiled in the end: the second step of the first group is not reported. -/
theorem stopped_group_is_reported_to_its_end :
    ((Builder.new "docs").outcomes
      [.call (.whereNull "a"),
        .group .or .stop [.call (.relational .having), .call .toCommand],
        .group .and .ignore [.call (.setCollection "logs"), .call (.relational .union),
          .call (.orderBy "a"), .call (.toAggregate .sum "n")],
        .call (.latest "a"), .call .toCommand]).flatMap Outcome.events =
      [.refused .having, .refused .union, .aggregated "logs" .sum "n",
        .compiled "docs" "find" 2 1,
        .commandText (Command.find "docs" (.single "a" .null)
          (.single "sort" (.document (.single "a" (.int32 (-1)))))).text] ∧
    (Step.run (.new "docs") (.group .or .stop
      [.call (.relational .having), .call .toCommand])).answer =
        .refused (.relationalOnly .having) ∧
    ∃ x ∈ Step.executions (.new "docs") (.group .or .stop
      [.call (.relational .having), .call .toCommand]),
      x.answer = .refused (.relationalOnly .having) := by
  obtain ⟨reported, _, _, _, _, raised⟩ := runs_are_reported_call_by_call (.new "docs")
    [.call (.whereNull "a"),
      .group .or .stop [.call (.relational .having), .call .toCommand],
      .group .and .ignore [.call (.setCollection "logs"), .call (.relational .union),
        .call (.orderBy "a"), .call (.toAggregate .sum "n")],
      .call (.latest "a"), .call .toCommand]
  exact ⟨reported.trans rfl, rfl, raised _ _ rfl⟩

end DocQuery
