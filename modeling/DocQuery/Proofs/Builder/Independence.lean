import DocQuery.Proofs.Builder.Groups

/- Calls of different kinds do not get in each other's way. Each kind of call sets up one part of a
   builder. `Call.acts` says that a call updates the part of its kind by a function that looks at
   nothing else, and a group of steps does the same to the predicates, since what its steps leave
   behind there depends on no other part (`Step.runGroup_congr`). What a run leaves in one part is
   therefore the work of the steps of that kind (`Builder.setting_after`), and steps of different
   kinds can change places: `reordered_runs_agree`. -/

namespace DocQuery

/-! ## Kinds of calls -/

/-- What a call sets up. -/
inductive Kind where
  | predicates
  | orders
  | window
  | columns
  | projection
  | groups
  | distinct
  | options
  | collection
  deriving DecidableEq, Repr

/-- What the calls of a kind work on. -/
def Kind.Setting : Kind → Type
  | .predicates => List Predicate
  | .orders => Option (List OrderClause)
  | .window => Option UInt64 × Option UInt64
  | .columns => Option (List String)
  | .projection => Option Document
  | .groups => List String
  | .distinct => Option String
  | .options => QueryOptions
  | .collection => String

def Slot.kind : Slot → Kind
  | .predicates | .lastPredicate => .predicates
  | .orders => .orders
  | .limit | .offset => .window
  | .columns => .columns
  | .projection => .projection
  | .groups => .groups
  | .distinct => .distinct
  | .options => .options

/-- The kind of a call; relational methods and compilations set up nothing. -/
def Call.kind? : Call → Option Kind
  | .whereEq .. | .whereOp .. | .whereIn .. | .whereNotIn .. | .whereNull _ | .whereNotNull _
  | .whereBetween .. | .whereNotBetween .. => some .predicates
  | .orderBy _ | .orderByDesc _ | .orderByWith .. | .latest _ | .oldest _ | .reorder
  | .reorderBy .. | .setOrders _ => some .orders
  | .limit _ | .take _ | .offset _ | .skip _ | .forPage .. => some .window
  | .select _ | .addSelect _ => some .columns
  | .project _ => some .projection
  | .groupBy _ => some .groups
  | .distinct _ => some .distinct
  | .hint _ | .timeLimit _ | .comment _ | .allowDiskUse _ => some .options
  | .setCollection _ => some .collection
  | .clear slot => some slot.kind
  | .toCommand | .toAggregate .. | .relational _ => none

/-- The kind of a step; a group of steps adds a predicate, whatever its steps are. -/
def Step.kind? : Step → Option Kind
  | .call c => c.kind?
  | .group .. => some .predicates

namespace Builder

/-! ## The parts of a builder -/

/-- The part of a builder that the calls of a kind work on. -/
def setting (b : Builder) : (k : Kind) → k.Setting
  | .predicates => b.query.predicates
  | .orders => b.query.orders
  | .window => (b.query.limit, b.query.offset)
  | .columns => b.query.columns
  | .projection => b.query.projection
  | .groups => b.query.groups
  | .distinct => b.query.distinct
  | .options => b.query.options
  | .collection => b.collection

/-- Changes one part of a builder. -/
def update (b : Builder) : (k : Kind) → (k.Setting → k.Setting) → Builder
  | .predicates, f => { b with query := { b.query with predicates := f b.query.predicates } }
  | .orders, f => { b with query := { b.query with orders := f b.query.orders } }
  | .window, f =>
    let window := f (b.query.limit, b.query.offset)
    { b with query := { b.query with limit := window.1, offset := window.2 } }
  | .columns, f => { b with query := { b.query with columns := f b.query.columns } }
  | .projection, f => { b with query := { b.query with projection := f b.query.projection } }
  | .groups, f => { b with query := { b.query with groups := f b.query.groups } }
  | .distinct, f => { b with query := { b.query with distinct := f b.query.distinct } }
  | .options, f => { b with query := { b.query with options := f b.query.options } }
  | .collection, f => { b with collection := f b.collection }

/-- A builder is made of its parts. -/
theorem ext_setting {a b : Builder} (h : ∀ k, a.setting k = b.setting k) : a = b := by
  obtain ⟨collection, ⟨predicates, orders, columns, projection, limit, offset, groups, distinct,
    options⟩⟩ := a
  obtain ⟨limits, offsets⟩ : limit = b.query.limit ∧ offset = b.query.offset :=
    Prod.mk.inj (h .window)
  have collections : collection = b.collection := h .collection
  have queries : predicates = b.query.predicates ∧ orders = b.query.orders ∧
      columns = b.query.columns ∧ projection = b.query.projection ∧ groups = b.query.groups ∧
      distinct = b.query.distinct ∧ options = b.query.options :=
    ⟨h .predicates, h .orders, h .columns, h .projection, h .groups, h .distinct, h .options⟩
  obtain ⟨rfl, rfl, rfl, rfl, rfl, rfl, rfl⟩ := queries
  rw [collections, limits, offsets]

theorem setting_update_self (b : Builder) (k : Kind) (f : k.Setting → k.Setting) :
    (b.update k f).setting k = f (b.setting k) := by
  cases k <;> rfl

theorem setting_update_of_ne (b : Builder) {k l : Kind} (f : k.Setting → k.Setting) (h : l ≠ k) :
    (b.update k f).setting l = b.setting l := by
  cases k <;> cases l <;> first | rfl | exact absurd rfl h

end Builder

/-! ## Calls -/

/-- The reason for which a step was refused, if it was. -/
def Answer.error? : Answer → Option QueryError
  | .refused e => some e
  | _ => none

theorem Answer.error?_eq_some_iff {a : Answer} {e : QueryError} :
    a.error? = some e ↔ a = .refused e := by
  cases a <;> simp [error?]

theorem Answer.isSome_error? (a : Answer) : a.error?.isSome = a.isRefused := by
  cases a <;> rfl

/-- What a call does, to whichever builder: it leaves all as it was, and if it is refused the reason
    is the same for all, or it is accepted and updates the part of its kind by a function that is
    the same for all. -/
inductive Call.Acts (c : Call) : Prop where
  | leaves (error? : Option QueryError)
      (h : ∀ b, (c.run b).builder = b ∧ (c.run b).answer.error? = error?) : Acts c
  | updates (k : Kind) (f : k.Setting → k.Setting) (kind : c.kind? = some k)
      (h : ∀ b, c.run b = .extended (b.update k f)) : Acts c

namespace Call

theorem Acts.of_refused {c : Call} {e : QueryError} (h : ∀ b, c.run b = ⟨b, .refused e, []⟩) :
    c.Acts := by
  refine .leaves (some e) fun b => ?_
  rw [h b]
  exact ⟨rfl, rfl⟩

theorem Acts.of_addPredicate {c : Call} (p : Predicate) (kind : c.kind? = some .predicates)
    (h : ∀ b, c.run b = .extended (b.addPredicate p)) : c.Acts :=
  .updates .predicates (fun ps : List Predicate => ps ++ [p]) kind h

theorem Acts.of_setOrders {c : Call}
    (f : Option (List OrderClause) → Option (List OrderClause)) (kind : c.kind? = some .orders)
    (h : ∀ b, c.run b = .extended (b.setOrders (f b.query.orders))) : c.Acts :=
  .updates .orders f kind h

theorem Acts.of_setOptions {c : Call} (f : QueryOptions → QueryOptions)
    (kind : c.kind? = some .options)
    (h : ∀ b, c.run b = .extended (b.setOptions (f b.query.options))) : c.Acts :=
  .updates .options f kind h

/-- An order behind the others. -/
theorem Acts.of_addOrder {c : Call} (order : OrderClause) (kind : c.kind? = some .orders)
    (h : ∀ b, c.run b = .extended (b.addOrder order)) : c.Acts :=
  .of_setOrders (fun orders => some (orders.getD [] ++ [order])) kind h

theorem acts_whereOp (connector : Connector) (column : String) (operator : OperatorArg)
    (operand : Value) : (whereOp connector column operator operand).Acts := by
  cases resolved : operator.resolve with
  | error e =>
    apply Acts.of_refused
    intro b
    rw [run_whereOp, resolved]
  | ok op =>
    cases checked : Clause.checked ⟨column, op, operand, connector⟩ with
    | error e =>
      apply Acts.of_refused (e := e)
      intro b
      rw [run_whereOp, resolved]
      simp only [checked]
    | ok clause =>
      apply Acts.of_addPredicate (.clause clause) rfl
      intro b
      rw [run_whereOp, resolved]
      simp only [checked]

theorem acts_orderByWith (column : String) (direction : DirectionArg) :
    (orderByWith column direction).Acts := by
  cases made : OrderClause.make column direction with
  | error e =>
    apply Acts.of_refused
    intro b
    rw [run_orderByWith, made]
  | ok order =>
    apply Acts.of_addOrder order rfl
    intro b
    rw [run_orderByWith, made]

theorem acts_reorderBy (column : String) (direction : DirectionArg) :
    (reorderBy column direction).Acts := by
  cases made : OrderClause.make column direction with
  | error e =>
    apply Acts.of_refused
    intro b
    rw [run_reorderBy, made]
  | ok order =>
    apply Acts.of_setOrders (fun _ => some [order]) rfl
    intro b
    rw [run_reorderBy, made]

theorem acts_clear (slot : Slot) : (clear slot).Acts := by
  cases slot with
  | predicates => exact .updates .predicates (fun _ => ([] : List Predicate)) rfl fun _ => rfl
  | lastPredicate =>
    exact .updates .predicates (fun ps : List Predicate => ps.dropLast) rfl fun _ => rfl
  | orders => exact .of_setOrders (fun _ => none) rfl fun _ => rfl
  | columns => exact .updates .columns (fun _ => (none : Option (List String))) rfl fun _ => rfl
  | projection => exact .updates .projection (fun _ => (none : Option Document)) rfl fun _ => rfl
  | limit => exact .updates .window (fun window => (none, window.2)) rfl fun _ => rfl
  | offset => exact .updates .window (fun window => (window.1, none)) rfl fun _ => rfl
  | groups => exact .updates .groups (fun _ => ([] : List String)) rfl fun _ => rfl
  | distinct => exact .updates .distinct (fun _ => (none : Option String)) rfl fun _ => rfl
  | options => exact .of_setOptions (fun _ => .empty) rfl fun _ => rfl

theorem acts (c : Call) : c.Acts := by
  cases c with
  | whereEq | whereIn | whereNotIn | whereNull | whereNotNull | whereBetween | whereNotBetween =>
    exact .of_addPredicate _ rfl fun _ => rfl
  | whereOp connector column operator operand =>
    exact acts_whereOp connector column operator operand
  | orderBy | orderByDesc | latest | oldest => exact .of_addOrder _ rfl fun _ => rfl
  | orderByWith column direction => exact acts_orderByWith column direction
  | reorder => exact .of_setOrders (fun _ => none) rfl fun _ => rfl
  | reorderBy column direction => exact acts_reorderBy column direction
  | setOrders orders => exact .of_setOrders (fun _ => orders) rfl fun _ => rfl
  | limit n | take n => exact .updates .window (fun window => (some n, window.2)) rfl fun _ => rfl
  | offset n | skip n => exact .updates .window (fun window => (window.1, some n)) rfl fun _ => rfl
  | forPage page perPage =>
    exact .updates .window (fun _ => (some perPage, some (Builder.pageStart page perPage))) rfl
      fun _ => rfl
  | select columns => exact .updates .columns (fun _ => some columns) rfl fun _ => rfl
  | addSelect columns =>
    exact .updates .columns (fun old : Option (List String) => some (old.getD [] ++ columns)) rfl
      fun _ => rfl
  | project projection =>
    exact .updates .projection
      (fun old : Option Document => some ((old.getD .empty).insertAll projection.entries)) rfl
      fun _ => rfl
  | groupBy columns =>
    exact .updates .groups (fun old : List String => old ++ columns) rfl fun _ => rfl
  | distinct column => exact .updates .distinct (fun _ => some column) rfl fun _ => rfl
  | hint index => exact .of_setOptions (fun o => { o with hint := some index }) rfl fun _ => rfl
  | timeLimit millis =>
    exact .of_setOptions (fun o => { o with timeLimitMs := some millis }) rfl fun _ => rfl
  | comment text =>
    exact .of_setOptions (fun o => { o with comment := some text }) rfl fun _ => rfl
  | allowDiskUse allow =>
    exact .of_setOptions (fun o => { o with diskUse := some allow }) rfl fun _ => rfl
  | setCollection collection =>
    exact .updates .collection (fun _ => collection) rfl fun _ => rfl
  | clear slot => exact acts_clear slot
  | toCommand | toAggregate => exact .leaves none fun _ => ⟨rfl, rfl⟩
  | relational method =>
    exact .leaves (some (.relationalOnly method)) fun _ => ⟨rfl, rfl⟩

theorem error?_run (c : Call) (a b : Builder) :
    (c.run a).answer.error? = (c.run b).answer.error? := by
  cases c.acts with
  | leaves error? h => rw [(h a).2, (h b).2]
  | updates k f kind h => rw [h a, h b]; rfl

/-- A call leaves the parts of the other kinds as they are. -/
theorem setting_run_of_ne (c : Call) (b : Builder) {k : Kind} (other : c.kind? ≠ some k) :
    (c.run b).builder.setting k = b.setting k := by
  cases c.acts with
  | leaves error? h => rw [(h b).1]
  | updates l f kind h =>
    have apart : k ≠ l := by
      rintro rfl
      exact other kind
    rw [h b]
    exact b.setting_update_of_ne f apart

/-- What a call makes of a part depends on this part alone. -/
theorem setting_run_congr (c : Call) {a b : Builder} {k : Kind}
    (same : a.setting k = b.setting k) :
    (c.run a).builder.setting k = (c.run b).builder.setting k := by
  cases c.acts with
  | leaves error? h => rw [(h a).1, (h b).1, same]
  | updates l f kind h =>
    rw [h a, h b]
    change (a.update l f).setting k = (b.update l f).setting k
    by_cases here : k = l
    · subst here
      rw [Builder.setting_update_self, Builder.setting_update_self, same]
    · rw [Builder.setting_update_of_ne _ f here, Builder.setting_update_of_ne _ f here, same]

end Call

/-! ## Steps and groups -/

theorem Builder.setting_addGroup_of_ne (b : Builder) (connector : Connector)
    (members : List Predicate) {k : Kind} (h : k ≠ .predicates) :
    (b.addGroup connector members).setting k = b.setting k := by
  cases k <;> first | rfl | exact absurd rfl h

namespace Step

/-- A step leaves the parts of the other kinds as they are. -/
theorem setting_run_of_ne (step : Step) (b : Builder) {k : Kind} (other : step.kind? ≠ some k) :
    (step.run b).builder.setting k = b.setting k := by
  cases step with
  | call c => exact c.setting_run_of_ne b other
  | group connector refusals steps =>
    rw [run]
    split
    · rfl
    · have apart : k ≠ .predicates := by
        rintro rfl
        exact other rfl
      exact b.setting_addGroup_of_ne connector _ apart

/-- A step of another kind adds nothing to a list that is read from a setting. -/
theorem list_run_of_ne {α : Type} (step : Step) (b : Builder) {k : Kind}
    (list : k.Setting → List α) (other : step.kind? ≠ some k) :
    list ((step.run b).builder.setting k) = list (b.setting k) ++ [] := by
  rw [List.append_nil, step.setting_run_of_ne b other]

mutual

/-- Whether a step is refused, and what it makes of a part, depends on nothing but that part. -/
theorem run_congr (step : Step) (a b : Builder) :
    (step.run a).answer.error? = (step.run b).answer.error? ∧
      ∀ k, a.setting k = b.setting k →
        (step.run a).builder.setting k = (step.run b).builder.setting k := by
  cases step with
  | call c => exact ⟨c.error?_run a b, fun k same => c.setting_run_congr same⟩
  | group connector refusals steps =>
    -- The two inner builders differ in nothing but their collections.
    have inner := runGroup_congr refusals steps
      (show (Builder.new a.collection).setting .predicates =
        (Builder.new b.collection).setting .predicates from rfl)
    cases through : (runGroup refusals (.new a.collection) steps).error? with
    | some e =>
      have through' := inner.1.symm.trans through
      rw [run_group_of_error connector through, run_group_of_error connector through']
      exact ⟨rfl, fun k same => same⟩
    | none =>
      have through' := inner.1.symm.trans through
      rw [run_group_of_none connector through, run_group_of_none connector through', inner.2]
      refine ⟨rfl, fun k same => ?_⟩
      by_cases here : k = .predicates
      · subst here
        exact congrArg (· ++ [_]) same
      · rw [Builder.setting_addGroup_of_ne _ _ _ here, Builder.setting_addGroup_of_ne _ _ _ here,
          same]

theorem runGroup_congr (refusals : Refusals) (steps : List Step) {a b : Builder}
    (same : a.setting .predicates = b.setting .predicates) :
    (runGroup refusals a steps).error? = (runGroup refusals b steps).error? ∧
      (runGroup refusals a steps).builder.query.predicates =
        (runGroup refusals b steps).builder.query.predicates := by
  cases steps with
  | nil => exact ⟨rfl, same⟩
  | cons step rest =>
    obtain ⟨errors, settings⟩ := run_congr step a b
    have next := settings .predicates same
    rcases goesOn_or_stops refusals (step.run a).answer with goesOn | ⟨rfl, e, refused⟩
    · have goesOn' : (step.run b).answer.isRefused = true → refusals = .ignore := by
        rw [← Answer.isSome_error?, ← errors, Answer.isSome_error?]
        exact goesOn
      rw [runGroup_cons rest goesOn, runGroup_cons rest goesOn']
      exact runGroup_congr refusals rest next
    · have refused' : (step.run b).answer = .refused e := by
        rw [← Answer.error?_eq_some_iff] at refused ⊢
        rw [← errors, refused]
      rw [runGroup_cons_stop rest refused, runGroup_cons_stop rest refused']
      exact ⟨rfl, next⟩

end

end Step

/-! ## Runs -/

namespace Builder

/-- What a run leaves in a part is the work of the steps of that kind. -/
theorem setting_after (steps : List Step) {k : Kind} {a b : Builder}
    (same : a.setting k = b.setting k) :
    (a.after steps).setting k =
      (b.after (steps.filter fun step => step.kind? == some k)).setting k := by
  induction steps generalizing a b with
  | nil => exact same
  | cons step rest ih =>
    rw [after, List.filter_cons]
    by_cases kind : step.kind? = some k
    · have next := (step.run_congr a b).2 k same
      rw [if_pos (by simp [kind]), after]
      exact ih next
    · have next := (step.setting_run_of_ne a kind).trans same
      rw [if_neg (by simp [kind])]
      exact ih next

/-- The steps of a run, each with the reason for which it was refused, if it was. -/
def answered (b : Builder) : List Step → List (Step × Option QueryError)
  | [] => []
  | step :: rest => (step, (step.run b).answer.error?) :: (step.run b).builder.answered rest

/-- The builder does not matter to whether steps are refused. -/
theorem answered_eq_map (b b' : Builder) (steps : List Step) :
    b.answered steps = steps.map fun step => (step, (step.run b').answer.error?) := by
  induction steps generalizing b with
  | nil => rfl
  | cons step rest ih =>
    rw [answered, List.map_cons, ih, (step.run_congr b b').1]

end Builder

/-- The second list has the elements of the first in another order, and those of each kind in the
    same order. Elements without a kind may stand anywhere. -/
structure Reordered {α : Type} (kind? : α → Option Kind) (s t : List α) : Prop where
  perm : s.Perm t
  order : ∀ k, (s.filter fun a => kind? a == some k) = t.filter fun a => kind? a == some k

theorem Reordered.map {α β : Type} (kind? : β → Option Kind) (f : α → β) {s t : List α}
    (h : Reordered (fun a => kind? (f a)) s t) : Reordered kind? (s.map f) (t.map f) where
  perm := h.perm.map f
  order k := by
    rw [List.filter_map, List.filter_map]
    exact congrArg (List.map f) (h.order k)

/-- Two runs that differ in the order of steps of different kinds only: every step is refused in
    both for the same reason or in neither, and the builders after them are the same, so they become
    the same commands. -/
theorem reordered_runs_agree (b : Builder) {s t : List Step} (h : Reordered Step.kind? s t) :
    Reordered (fun step => step.1.kind?) (b.answered s) (b.answered t) ∧
    b.after s = b.after t ∧
    (b.after s).toCommand = (b.after t).toCommand ∧
    ∀ function column,
      (b.after s).toAggregate function column = (b.after t).toAggregate function column := by
  have builders : b.after s = b.after t := by
    apply Builder.ext_setting
    intro k
    -- A part is the work of the steps of its kind, and these stand in one order in both runs.
    calc (b.after s).setting k
        = (b.after (s.filter fun step => step.kind? == some k)).setting k :=
          Builder.setting_after s rfl
      _ = (b.after (t.filter fun step => step.kind? == some k)).setting k := by rw [h.order k]
      _ = (b.after t).setting k := (Builder.setting_after t rfl).symm
  refine ⟨?_, builders, by rw [builders], fun function column => by rw [builders]⟩
  rw [b.answered_eq_map b, b.answered_eq_map b]
  exact Reordered.map (fun step : Step × Option QueryError => step.1.kind?) _ h

/-- A group goes in front of calls that name a collection, are refused and set a limit. What its
    steps order and compile is dropped with the builder they run on. -/
theorem group_moves_in_front :
    Reordered Step.kind?
        ([.call (.setCollection "logs"), .call (.relational .having), .call (.limit 5)] ++
          [.group .or .ignore [.call (.whereNull "a"), .call (.orderBy "a"), .call .toCommand],
            .call (.whereEq .and "b" .null)])
        ([.group .or .ignore [.call (.whereNull "a"), .call (.orderBy "a"), .call .toCommand],
            .call (.whereEq .and "b" .null)] ++
          [.call (.setCollection "logs"), .call (.relational .having), .call (.limit 5)]) ∧
      Builder.after (.new "docs")
          ([.call (.setCollection "logs"), .call (.relational .having), .call (.limit 5)] ++
            [.group .or .ignore [.call (.whereNull "a"), .call (.orderBy "a"), .call .toCommand],
              .call (.whereEq .and "b" .null)]) =
        Builder.after (.new "docs")
          ([.group .or .ignore [.call (.whereNull "a"), .call (.orderBy "a"), .call .toCommand],
              .call (.whereEq .and "b" .null)] ++
            [.call (.setCollection "logs"), .call (.relational .having), .call (.limit 5)]) :=
  have reordered := ⟨List.perm_append_comm, fun k => by cases k <;> rfl⟩
  ⟨reordered, (reordered_runs_agree (.new "docs") reordered).2.1⟩

end DocQuery
