import DocQuery.Builder.Basic
import DocQuery.Event

/- Calls to a builder as data, and what a run of them does. A step is a call or a group of steps
   in parentheses; a group works on a builder of its own, and of what it did there only the
   predicates are kept. Every step gives the builder after it, an answer, and the events it
   caused. -/

namespace DocQuery

/-- A call to a builder. -/
inductive Call where
  | whereEq (connector : Connector) (column : String) (value : Value)
  | whereOp (connector : Connector) (column : String) (operator : OperatorArg) (operand : Value)
  | whereIn (connector : Connector) (column : String) (values : List Value)
  | whereNotIn (connector : Connector) (column : String) (values : List Value)
  | whereNull (column : String)
  | whereNotNull (column : String)
  | whereBetween (column : String) (low high : Value)
  | whereNotBetween (column : String) (low high : Value)
  | orderBy (column : String)
  | orderByDesc (column : String)
  | orderByWith (column : String) (direction : DirectionArg)
  | latest (column : String)
  | oldest (column : String)
  | reorder
  | reorderBy (column : String) (direction : DirectionArg)
  | setOrders (orders : Option (List OrderClause))
  | limit (n : UInt64)
  | take (n : UInt64)
  | offset (n : UInt64)
  | skip (n : UInt64)
  | forPage (page perPage : UInt64)
  | select (columns : List String)
  | addSelect (columns : List String)
  | project (projection : Document)
  | groupBy (columns : List String)
  | distinct (column : String)
  | hint (index : Bson)
  | timeLimit (millis : UInt64)
  | comment (text : String)
  | allowDiskUse (allow : Bool)
  | setCollection (collection : String)
  | clear (slot : Slot)
  | toCommand
  | toAggregate (function : AggregateFunction) (column : String)
  | relational (method : RelationalMethod)
  deriving Repr

/-- What a step answers. -/
inductive Answer where
  /-- the builder was extended -/
  | done
  | command (command : Command)
  | refused (error : QueryError)
  deriving Repr

/-- What a step does. -/
structure Outcome where
  builder : Builder
  answer : Answer
  events : List Event
  deriving Repr

namespace Outcome

/-- The outcome of a call that extends the builder. -/
def extended (b : Builder) : Outcome := ⟨b, .done, []⟩

/-- The outcome of an attempt on a builder. -/
def ofAttempt (b : Builder) (attempt : Attempt) : Outcome :=
  match attempt.run b with
  | .ok _ after => extended after
  | .error e after => ⟨after, .refused e, []⟩

/-- An attempt that begins with a check. -/
theorem ofAttempt_check {α : Type} (b : Builder) (check : Except QueryError α)
    (next : α → Attempt) :
    ofAttempt b (ofExcept check >>= next) =
      match check with
      | .error e => ⟨b, .refused e, []⟩
      | .ok a => ofAttempt b (next a) := by
  cases check <;> rfl

end Outcome

namespace Call

/-- A call with an operator that may have to be looked up first. -/
def whereResolved (connector : Connector) (column : String) (operator : OperatorArg)
    (operand : Value) : Attempt := do
  let op ← ofExcept operator.resolve
  Builder.whereOp connector column op operand

/-- What a call does to a builder. -/
def run (b : Builder) : Call → Outcome
  | .whereEq connector column value => .extended (b.whereEq connector column value)
  | .whereOp connector column operator operand =>
    .ofAttempt b (whereResolved connector column operator operand)
  | .whereIn connector column values => .extended (b.whereIn connector column values)
  | .whereNotIn connector column values => .extended (b.whereNotIn connector column values)
  | .whereNull column => .extended (b.whereNull column)
  | .whereNotNull column => .extended (b.whereNotNull column)
  | .whereBetween column low high => .extended (b.whereBetween column low high)
  | .whereNotBetween column low high => .extended (b.whereNotBetween column low high)
  | .orderBy column => .extended (b.orderBy column)
  | .orderByDesc column => .extended (b.orderByDesc column)
  | .orderByWith column direction => .ofAttempt b (Builder.orderByWith column direction)
  | .latest column => .extended (b.latest column)
  | .oldest column => .extended (b.oldest column)
  | .reorder => .extended b.reorder
  | .reorderBy column direction => .ofAttempt b (Builder.reorderBy column direction)
  | .setOrders orders => .extended (b.setOrders orders)
  | .limit n => .extended (b.limit n)
  | .take n => .extended (b.take n)
  | .offset n => .extended (b.offset n)
  | .skip n => .extended (b.skip n)
  | .forPage page perPage => .extended (b.forPage page perPage)
  | .select columns => .extended (b.select columns)
  | .addSelect columns => .extended (b.addSelect columns)
  | .project projection => .extended (b.project projection)
  | .groupBy columns => .extended (b.groupBy columns)
  | .distinct column => .extended (b.distinct column)
  | .hint index => .extended (b.hint index)
  | .timeLimit millis => .extended (b.timeLimit millis)
  | .comment text => .extended (b.comment text)
  | .allowDiskUse allow => .extended (b.allowDiskUse allow)
  | .setCollection collection => .extended (b.setCollection collection)
  | .clear slot => .extended (b.clear slot)
  | .toCommand => ⟨b, .command b.toCommand, b.query.compileEvents b.collection⟩
  | .toAggregate function column =>
    ⟨b, .command (b.toAggregate function column), [.aggregated b.collection function column]⟩
  | .relational method => ⟨b, .refused (.relationalOnly method), [.refused method]⟩

/-! ## Calls that check before they change anything -/

theorem run_whereOp (b : Builder) (connector : Connector) (column : String)
    (operator : OperatorArg) (operand : Value) :
    (whereOp connector column operator operand).run b =
      match operator.resolve with
      | .error e => ⟨b, .refused e, []⟩
      | .ok op =>
        match Clause.checked ⟨column, op, operand, connector⟩ with
        | .error e => ⟨b, .refused e, []⟩
        | .ok clause => .extended (b.addPredicate (.clause clause)) := by
  rw [run, whereResolved, Outcome.ofAttempt_check]
  cases operator.resolve with
  | error e => rfl
  | ok op =>
    dsimp only
    rw [Builder.whereOp, Outcome.ofAttempt_check]
    cases Clause.checked ⟨column, op, operand, connector⟩ <;> rfl

theorem run_orderByWith (b : Builder) (column : String) (direction : DirectionArg) :
    (orderByWith column direction).run b =
      match OrderClause.make column direction with
      | .error e => ⟨b, .refused e, []⟩
      | .ok order => .extended (b.addOrder order) := by
  rw [run, Builder.orderByWith, Outcome.ofAttempt_check]
  cases OrderClause.make column direction <;> rfl

theorem run_reorderBy (b : Builder) (column : String) (direction : DirectionArg) :
    (reorderBy column direction).run b =
      match OrderClause.make column direction with
      | .error e => ⟨b, .refused e, []⟩
      | .ok order => .extended (b.setOrders (some [order])) := by
  rw [run, Builder.reorderBy, Outcome.ofAttempt_check]
  cases OrderClause.make column direction <;> rfl

end Call

/-- What a group does when one of its steps is refused. -/
inductive Refusals where
  /-- the group stops there and is refused itself -/
  | stop
  /-- the group goes on with the next step -/
  | ignore
  deriving DecidableEq, Repr

/-- A step of a run. -/
inductive Step where
  | call (call : Call)
  /-- steps in parentheses -/
  | group (connector : Connector) (refusals : Refusals) (steps : List Step)
  deriving Repr

/-- What the steps of a group did to their builder, up to the first refusal that stopped them. -/
structure GroupOutcome where
  builder : Builder
  error? : Option QueryError
  events : List Event
  deriving Repr

namespace Step

mutual

/-- What a step does to a builder. -/
def run (b : Builder) : Step → Outcome
  | .call c => c.run b
  | .group connector refusals steps =>
    let inner := runGroup refusals (.new b.collection) steps
    match inner.error? with
    | some e => ⟨b, .refused e, inner.events⟩
    | none => ⟨b.addGroup connector inner.builder.query.predicates, .done, inner.events⟩

/-- What the steps of a group do to the builder of the group. -/
def runGroup (refusals : Refusals) (b : Builder) : List Step → GroupOutcome
  | [] => ⟨b, none, []⟩
  | step :: rest =>
    let first := step.run b
    match first.answer, refusals with
    | .refused e, .stop => ⟨first.builder, some e, first.events⟩
    | _, _ =>
      let later := runGroup refusals first.builder rest
      ⟨later.builder, later.error?, first.events ++ later.events⟩

end

end Step

namespace Builder

/-- The outcomes of steps, each of them on the builder that the one before left. -/
def outcomes (b : Builder) : List Step → List Outcome
  | [] => []
  | step :: rest =>
    let first := step.run b
    first :: first.builder.outcomes rest

/-- The builder after steps, whether or not some of them were refused. -/
def after (b : Builder) : List Step → Builder
  | [] => b
  | step :: rest => (step.run b).builder.after rest

end Builder

end DocQuery
