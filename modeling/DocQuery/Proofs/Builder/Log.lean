import DocQuery.Proofs.Builder.Reports

/- What a reader of the log sees of a run. A line of the log is the level of an event, its message
   and its named texts. A compiled command takes two lines, one with what was counted and one with
   its name over its arguments; a function takes one with its column, and a refused relational call
   one with the name of the method. The lines of a run are those of its calls
   (`run_logs_lines_of_its_calls`). Numbers, functions and relational methods have different names,
   so a line tells its event (`Event.line_injective`). Main statement:
   `log_tells_what_was_refused`. -/

namespace DocQuery

/-- A line of the log. -/
structure LogLine where
  level : Level
  message : String
  fields : List (String × String)
  deriving DecidableEq, Repr

namespace Event

/-- The line of an event. -/
def line (e : Event) : LogLine := ⟨e.level, e.message, e.fields⟩

theorem line_injective {e e' : Event} (same : e.line = e'.line) : e = e' := by
  have messages : e.message = e'.message := congrArg LogLine.message same
  have fields : e.fields = e'.fields := congrArg LogLine.fields same
  cases e with
  | compiled collection command predicates orders => cases e' with
    | compiled collection' command' predicates' orders' =>
      simp only [Event.fields, List.cons.injEq, Prod.mk.injEq, true_and, and_true] at fields
      obtain ⟨rfl, rfl, counted, ordered⟩ := fields
      rw [Decimal.naturalText_injective counted, Decimal.naturalText_injective ordered]
    | _ => simp [message] at messages
  | commandText text => cases e' with
    | commandText text' =>
      simp only [Event.fields, List.cons.injEq, Prod.mk.injEq, true_and, and_true] at fields
      rw [fields]
    | _ => simp [message] at messages
  | aggregated collection function column => cases e' with
    | aggregated collection' function' column' =>
      simp only [Event.fields, List.cons.injEq, Prod.mk.injEq, true_and, and_true] at fields
      obtain ⟨rfl, named, rfl⟩ := fields
      rw [AggregateFunction.name_injective named]
    | _ => simp [message] at messages
  | refused method => cases e' with
    | refused method' =>
      simp only [Event.fields, List.cons.injEq, Prod.mk.injEq, true_and, and_true] at fields
      rw [RelationalMethod.name_injective fields]
    | _ => simp [message] at messages

end Event

/-- The lines that a call is logged by. -/
def Execution.lines (x : Execution) : List LogLine :=
  match x.call, x.answer with
  | .toCommand, .command command =>
    [⟨.debug, "compiled query",
        [("collection", x.builder.collection), ("command", command.name),
          ("wheres", Decimal.naturalText x.builder.query.predicates.length),
          ("orders", Decimal.naturalText x.builder.query.orderList.length)]⟩,
      ⟨.trace, "compiled mql",
        [("mql", "\x7b \"" ++ command.name ++ "\": [" ++
          ", ".intercalate (command.arguments.map Bson.text) ++ "] \x7d")]⟩]
  | .toAggregate function column, .command _ =>
    [⟨.debug, "compiled aggregate function",
      [("collection", x.builder.collection), ("function", function.name), ("column", column)]⟩]
  | .relational method, .refused _ =>
    [⟨.warn, "relational method has no document-store translation", [("method", method.name)]⟩]
  | _, _ => []

/-- What a call reports is shown by its lines. -/
theorem Execution.lines_report (x : Execution) : x.report.map Event.line = x.lines := by
  obtain ⟨b, c⟩ := x
  cases c with
  | toCommand =>
    have text := b.toCommand.text_eq
    simp only [report, lines, answer, Call.run, List.map_cons, List.map_nil, Event.line, text]
    rfl
  | _ => rfl

/-- The log of a run has the lines of the calls that were made, in their order and at every depth of
    groups. -/
theorem run_logs_lines_of_its_calls (b : Builder) (steps : List Step) :
    ((b.outcomes steps).flatMap Outcome.events).map Event.line =
      (Step.executionsOf .ignore b steps).flatMap Execution.lines := by
  rw [b.events_outcomes, List.map_flatMap]
  simp only [Execution.lines_report]

example :
    ((Builder.new "docs").outcomes
      [.group .and .stop [.call (.relational .union), .call .toCommand],
        .call (.toAggregate .max "n"), .call .toCommand]).flatMap (fun o => o.events.map Event.line) =
      [⟨.warn, "relational method has no document-store translation", [("method", "union")]⟩,
        ⟨.debug, "compiled aggregate function",
          [("collection", "docs"), ("function", "Max"), ("column", "n")]⟩,
        ⟨.debug, "compiled query",
          [("collection", "docs"), ("command", "find"), ("wheres", "0"), ("orders", "0")]⟩,
        ⟨.trace, "compiled mql", [("mql", "\x7b \"find\": [\x7b\x7d, \x7b\x7d] \x7d")]⟩] := by
  decide +kernel

/-- Runs with the same log reported the same events, and relational methods raised the same errors in
    the same order. -/
theorem log_tells_what_was_refused {b b' : Builder} {steps steps' : List Step}
    (same : (Step.executionsOf .ignore b steps).flatMap Execution.lines =
      (Step.executionsOf .ignore b' steps').flatMap Execution.lines) :
    (b.outcomes steps).flatMap Outcome.events = (b'.outcomes steps').flatMap Outcome.events ∧
    (Step.executionsOf .ignore b steps).filterMap Execution.unsupported? =
      (Step.executionsOf .ignore b' steps').filterMap Execution.unsupported? := by
  rw [← run_logs_lines_of_its_calls, ← run_logs_lines_of_its_calls] at same
  have events := List.map_injective_iff.mpr (fun _ _ => Event.line_injective) same
  have refused : Function.Injective Event.refused := fun _ _ => Event.refused.inj
  refine ⟨events, List.map_injective_iff.mpr refused ?_⟩
  rw [← b.warnings_outcomes, ← b'.warnings_outcomes, events]

end DocQuery
