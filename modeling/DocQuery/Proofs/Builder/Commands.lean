import DocQuery.Proofs.Builder.History
import DocQuery.Proofs.Builder.Independence
import DocQuery.Proofs.Query.Options

/- The command that a run of steps becomes. A query holds a handful of values of which the one given
   last counts (`Register`), and the columns of its groups, which add up. Settings that a builder
   starts from are nothing but steps at the start of the run. Which command it is, for which
   collection and with which options follows from that: `command_after_run`. -/

namespace DocQuery

/-! ## Values of which the last one counts -/

/-- A value of a query that calls give and take away. -/
inductive Register where
  | limit
  | offset
  | hint
  | timeLimit
  | comment
  | diskUse
  | distinct
  deriving DecidableEq, Repr

namespace Register

def Value : Register → Type
  | .limit | .offset | .timeLimit => UInt64
  | .hint => Bson
  | .comment | .distinct => String
  | .diskUse => Bool

/-- The part of a query with which the value is taken away. -/
def slot : Register → Slot
  | .limit => .limit
  | .offset => .offset
  | .hint | .timeLimit | .comment | .diskUse => .options
  | .distinct => .distinct

end Register

/-- What a builder holds. -/
def Builder.register (b : Builder) : (r : Register) → Option r.Value
  | .limit => b.query.limit
  | .offset => b.query.offset
  | .hint => b.query.options.hint
  | .timeLimit => b.query.options.timeLimitMs
  | .comment => b.query.options.comment
  | .diskUse => b.query.options.diskUse
  | .distinct => b.query.distinct

namespace Call

/-- The value that a call gives; to ask for a page is to give both ends of the window. -/
def given? : Call → (r : Register) → Option r.Value
  | .limit n, .limit | .take n, .limit | .forPage _ n, .limit => some n
  | .offset n, .offset | .skip n, .offset => some n
  | .forPage page perPage, .offset =>
    some (UInt64.ofNat (min ((max page.toNat 1 - 1) * perPage.toNat) 18446744073709551615))
  | .hint index, .hint => some index
  | .timeLimit millis, .timeLimit => some millis
  | .comment text, .comment => some text
  | .allowDiskUse allow, .diskUse => some allow
  | .distinct column, .distinct => some column
  | _, _ => none

/-- The call takes the value away. -/
def takes : Call → Register → Bool
  | .clear slot, r => slot == r.slot
  | _, _ => false

/-- A call takes a value away, gives another one or leaves it as it is. -/
theorem register_run (c : Call) (b : Builder) (r : Register) :
    (c.run b).builder.register r =
      if c.takes r then none else (c.given? r).or (b.register r) := by
  cases c with
  | whereOp connector column operator operand =>
    rw [run_whereOp]
    split
    · cases r <;> rfl
    · split <;> cases r <;> rfl
  | orderByWith column direction =>
    rw [run_orderByWith]
    split <;> cases r <;> rfl
  | reorderBy column direction =>
    rw [run_reorderBy]
    split <;> cases r <;> rfl
  | forPage page perPage =>
    have before : page.toNat - 1 = max page.toNat 1 - 1 := by omega
    cases r with
    | offset => exact congrArg some (by rw [Builder.pageStart, before])
    | _ => rfl
  | clear slot => cases slot <;> cases r <;> rfl
  | _ => cases r <;> rfl

end Call

namespace Step

/-- The value that a step gives; what the steps of a group give stays inside of it. -/
def given? (r : Register) : Step → Option r.Value
  | .call c => c.given? r
  | .group .. => none

def takes (r : Register) : Step → Bool
  | .call c => c.takes r
  | .group .. => false

theorem register_run (step : Step) (b : Builder) (r : Register) :
    (step.run b).builder.register r =
      if step.takes r then none else (step.given? r).or (b.register r) := by
  cases step with
  | call c => exact c.register_run b r
  | group connector refusals steps =>
    rw [run]
    split <;> cases r <;> rfl

end Step

/-- The value that the steps of a run gave last since they last took it away. -/
def Register.last (r : Register) (steps : List Step) : Option r.Value :=
  givenLast (Step.given? r) (Step.takes r) steps

theorem Builder.register_after (r : Register) {b : Builder} (fresh : b.register r = none)
    (steps : List Step) : (b.after steps).register r = r.last steps :=
  Builder.value_after (fun b => b.register r) (fun b step => step.register_run b r) fresh steps

/-! ## Groups -/

/-- What a step that drops all columns to group by leaves of them. -/
def Step.groupsAfresh? : Step → Option (List String)
  | .call (.clear .groups) => some []
  | _ => none

/-- The columns to group by that a step adds. -/
def Step.groupsAdded : Step → List String
  | .call (.groupBy columns) => columns
  | _ => []

theorem Step.groups_run (b : Builder) (step : Step) :
    (step.run b).builder.query.groups =
      step.groupsAfresh?.getD (b.query.groups ++ step.groupsAdded) := by
  have other : ∀ kept : Step, kept.kind? ≠ some .groups →
      (kept.run b).builder.query.groups = b.query.groups ++ [] :=
    fun kept apart => kept.list_run_of_ne b (k := .groups) id apart
  cases step with
  | group => exact other _ (by rintro ⟨⟩)
  | call c =>
    cases c with
    | groupBy columns => rfl
    | clear slot => cases slot with
      | groups => rfl
      | _ => exact other _ (by rintro ⟨⟩)
    | _ => exact other _ (by rintro ⟨⟩)

/-! ## Collections -/

/-- The collection that a step names. -/
def Step.collection? : Step → Option String
  | .call (.setCollection collection) => some collection
  | _ => none

theorem Step.collection_run (b : Builder) (step : Step) :
    (step.run b).builder.collection = step.collection?.getD b.collection := by
  have other : ∀ kept : Step, kept.kind? ≠ some .collection →
      (kept.run b).builder.collection = b.collection :=
    fun kept apart => kept.setting_run_of_ne b (k := .collection) apart
  cases step with
  | group => exact other _ (by rintro ⟨⟩)
  | call c =>
    cases c with
    | setCollection collection => rfl
    | clear slot => cases slot <;> exact other _ (by rintro ⟨⟩)
    | _ => exact other _ (by rintro ⟨⟩)

/-- The collection of a builder is the one that was named last. -/
theorem Builder.collection_after (b : Builder) (steps : List Step) :
    (b.after steps).collection = (steps.filterMap Step.collection?).getLast?.getD b.collection := by
  induction steps using List.reverseRecOn with
  | nil => rfl
  | append_singleton steps step ih =>
    rw [after_concat, step.collection_run, ih, List.filterMap_append, List.getLast?_append]
    cases named : step.collection? <;> simp [named]

/-! ## Settings -/

/-- The steps that settings stand for. -/
def Settings.steps (s : Settings) : List Step :=
  .call (.setCollection s.collection) ::
    (s.timeLimitMs.map fun millis => .call (.timeLimit millis)).toList ++
    (s.comment.map fun text => .call (.comment text)).toList

theorem Builder.after_settings (s : Settings) (collection : String) :
    (new collection).after s.steps = ofSettings s := by
  obtain ⟨name, timeLimitMs, comment⟩ := s
  cases timeLimitMs <;> cases comment <;> rfl

/-- The command of a run is told by its steps, those that the settings stand for in front. It asks
    for distinct values if a target was given last, for groups if columns to group by have added
    up, and is a search otherwise. The collection is the one named last, the filter that of the
    predicates, which other steps have no part in. Each kind of command lists its options in its
    own order and leaves out those that are not set; each has the value that was given last since
    it was last taken away, and a number is written as the integer it is, up to the largest. -/
theorem command_after_run (s : Settings) (steps : List Step) :
    let b := (Builder.ofSettings s).after steps
    let run := s.steps ++ steps
    let filter := filterOf b.query.predicates
    let groups := accumulated Step.groupsAfresh? Step.groupsAdded [] run
    b.toCommand =
      (match Register.distinct.last run with
      | some field =>
        .distinct b.collection field filter (.ofPresent
          [("maxTimeMS", (Register.timeLimit.last run).map .ofCount),
            ("comment", (Register.comment.last run).map .string)])
      | none =>
        if groups.isEmpty then
          .find b.collection filter (.ofPresent
            [("limit", (Register.limit.last run).map .ofCount),
              ("skip", (Register.offset.last run).map .ofCount),
              ("projection", (projectionOf? b.query.columns b.query.projection).map .document),
              ("sort", (sortOf? b.query.orders).map .document),
              ("hint", Register.hint.last run),
              ("maxTimeMS", (Register.timeLimit.last run).map .ofCount),
              ("comment", (Register.comment.last run).map .string)])
        else
          .aggregate b.collection (pipelineOf filter (groupStage groups)) (.ofPresent
            [("allowDiskUse", (Register.diskUse.last run).map .bool),
              ("hint", Register.hint.last run),
              ("maxTimeMS", (Register.timeLimit.last run).map .ofCount),
              ("comment", (Register.comment.last run).map .string)])) ∧
    (∀ n : UInt64,
      (Bson.ofCount n).int? = some ((min n.toNat 9223372036854775807 : Nat) : Int)) ∧
    (run.filterMap Step.collection?).getLast? = some b.collection ∧
    (∀ collection, b.query.predicates =
      ((Builder.new collection).after
        (run.filter fun step => step.kind? == some .predicates)).query.predicates) := by
  intro b run filter groups
  have whole : ∀ collection, (Builder.new collection).after run = b := by
    intro collection
    rw [Builder.after_append, Builder.after_settings]
  have register : ∀ r, b.register r = Register.last r run := by
    intro r
    rw [← whole ""]
    exact Builder.register_after r (by cases r <;> rfl) run
  have grouped : b.query.groups = groups := by
    rw [← whole ""]
    exact Builder.list_after (fun b => b.query.groups) Step.groups_run (.new "") run
  refine ⟨?_, Bson.int?_ofCount, ?_, ?_⟩
  · rw [Builder.toCommand, Query.compile, Query.findOptions_eq, Query.aggregateOptions_eq,
      Query.distinctOptions_eq, Query.searchOptions, grouped]
    rw [← register .limit, ← register .offset, ← register .hint, ← register .timeLimit,
      ← register .comment, ← register .diskUse, ← register .distinct]
    rfl
  · have named : (s.steps ++ steps).filterMap Step.collection? ≠ [] := List.cons_ne_nil _ _
    rw [← whole "", Builder.collection_after, List.getLast?_eq_some_getLast named]
    rfl
  · intro collection
    rw [← whole collection]
    exact Builder.setting_after (k := .predicates) run rfl

/-- A page gives both ends of the window: its start is cut down to the largest count, and so is what
    the store is told of it; the limit given after it is the one that counts. -/
example :
    ((Builder.new "docs").after [.call (.offset 7), .call (.forPage 3 20)]).toCommand =
      .find "docs" .empty ⟨[("limit", .int32 20), ("skip", .int32 40)]⟩ ∧
    ((Builder.new "docs").after [.call (.forPage 18446744073709551615 18446744073709551615),
        .call (.take 15)]).toCommand =
      .find "docs" .empty ⟨[("limit", .int32 15), ("skip", .int64 9223372036854775807)]⟩ :=
  ⟨rfl, rfl⟩

end DocQuery
