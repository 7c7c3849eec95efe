import DocQuery.Proofs.Builder.Independence
import DocQuery.Proofs.Filter.Agreement

/- Builders that agree become commands that agree (`same_builders_same_commands`): the offset of a
   moment, the sign of a zero and the order of keys in a native document decide nothing. Queries
   that agree put the same options and stages in the same order, so their commands are compared by
   alignment. Only a projection is written over other entries, and needs agreement under every
   key. It has to name each key once, which it does after every run
   (`Builder.distinct_projection_after`). -/

namespace DocQuery

/-- Queries that agree, part by part. -/
structure Query.Agree (q r : Query) : Prop where
  predicates : Predicate.sameMembers q.predicates r.predicates = true
  orders : Option.Rel (fun os ps => sameList OrderClause.same os ps) q.orders r.orders
  columns : q.columns = r.columns
  projection : Option.Rel (fun d d' => Document.same d d') q.projection r.projection
  limit : q.limit = r.limit
  offset : q.offset = r.offset
  groups : q.groups = r.groups
  distinct : q.distinct = r.distinct
  hint : Option.Rel (fun v w => Bson.same v w) q.options.hint r.options.hint
  timeLimitMs : q.options.timeLimitMs = r.options.timeLimitMs
  comment : q.options.comment = r.options.comment
  diskUse : q.options.diskUse = r.options.diskUse

theorem Query.agree_of_same {q r : Query} (h : q.same r = true) : q.Agree r := by
  simp only [Query.same, QueryOptions.same, Bool.and_eq_true, beq_iff_eq, sameOption_iff] at h
  obtain ⟨⟨⟨⟨⟨⟨⟨⟨predicates, orders⟩, columns⟩, projection⟩, limit⟩, offset⟩, groups⟩, distinct⟩,
    ⟨⟨hint, timeLimitMs⟩, comment⟩, diskUse⟩ := h
  exact ⟨predicates, orders, columns, projection, limit, offset, groups, distinct, hint,
    timeLimitMs, comment, diskUse⟩

/-- Entries made from names, whose values agree with themselves. -/
theorem Document.entryAgree_map_self {f : String → Bson}
    (self : ∀ name, (f name).same (f name) = true) (names : List String) :
    List.Forall₂ Document.EntryAgree (names.map fun name => (name, f name))
      (names.map fun name => (name, f name)) := by
  rw [List.forall₂_same]
  intro e he
  obtain ⟨name, _, rfl⟩ := List.mem_map.mp he
  exact ⟨rfl, self name⟩

/-! ## Orders and projections -/

theorem OrderClause.entryAgree {o p : OrderClause} (h : o.same p = true) :
    Document.EntryAgree (o.column, o.direction.toBson) (p.column, p.direction.toBson) := by
  obtain ⟨column, direction⟩ := o
  obtain ⟨column', direction'⟩ := p
  rw [OrderClause.same, Bool.and_eq_true, beq_iff_eq] at h
  obtain ⟨rfl, directions⟩ := h
  refine ⟨rfl, ?_⟩
  cases direction <;> cases direction'
  case ascending.ascending => rfl
  case descending.descending => rfl
  case metadata.metadata => exact directions
  all_goals cases directions

theorem rel_sortOf? {x y : Option (List OrderClause)}
    (h : Option.Rel (fun os ps => sameList OrderClause.same os ps) x y) :
    Option.Rel (fun d d' => Document.same d d') (sortOf? x) (sortOf? y) := by
  cases h with
  | none => exact .none
  | some orders =>
    rw [sameList_iff] at orders
    have entries := orders.imp fun _ _ agree => OrderClause.entryAgree agree
    cases orders with
    | nil => exact .none
    | cons first rest =>
      refine .some ((Document.Aligned.ofList ?_).same (OrderedMap.distinct_ofList _))
      rw [List.forall₂_map_left_iff, List.forall₂_map_right_iff]
      exact entries

/-- The entries of a projection are written over those of the columns. If it named a key twice, the
    last value would be shown and the first one compared. -/
theorem rel_projectionOf? (columns : Option (List String)) {x y : Option Document}
    (keys : ∀ d, x = some d → d.Distinct)
    (h : Option.Rel (fun d d' => Document.same d d') x y) :
    Option.Rel (fun d d' => Document.same d d') (projectionOf? columns x)
      (projectionOf? columns y) := by
  have shown (z : Option Document) : projectionOf columns z =
      (OrderedMap.ofList (selected (columns.getD []))).insertAll (z.getD .empty).entries :=
    List.foldl_append
  have further : Document.same (x.getD .empty) (y.getD .empty) = true := by
    cases h with
    | some h => exact h
    | none => rfl
  have once : (x.getD .empty).Distinct := by
    cases h with
    | some _ => exact keys _ rfl
    | none => exact OrderedMap.distinct_empty
  have columnsOnce : (OrderedMap.ofList (selected (columns.getD []))).Distinct :=
    OrderedMap.distinct_ofList _
  have columnsAgree : Document.same (.ofList (selected (columns.getD [])))
      (.ofList (selected (columns.getD []))) = true :=
    (Document.Aligned.ofList (Document.entryAgree_map_self (fun _ => rfl) _)).same columnsOnce
  have agree := Document.same_insertAll columnsOnce columnsOnce once columnsAgree further
  rw [← shown, ← shown] at agree
  unfold projectionOf?
  dsimp only
  rw [Document.isEmpty_congr agree]
  split
  · exact .none
  · exact .some agree

/-! ## Options -/

/-- Optional values of a kind in which each agrees with itself. -/
theorem rel_map_self {α : Type} {f : α → Bson} (self : ∀ a, (f a).same (f a) = true)
    (x : Option α) : Option.Rel (fun v w => Bson.same v w) (x.map f) (x.map f) := by
  cases x with
  | none => exact .none
  | some a => exact .some (self a)

theorem rel_count (x : Option UInt64) :
    Option.Rel (fun v w => Bson.same v w) (x.map .ofCount) (x.map .ofCount) :=
  rel_map_self (fun _ => Bson.same_ofInt _) x

namespace Query

theorem distinct_addCommonOptions (q : Query) {d : Document} (h : d.Distinct) :
    (q.addCommonOptions d).Distinct :=
  (h.insert? _ _).insert? _ _

theorem distinct_findOptions (q : Query) : q.findOptions.Distinct :=
  q.distinct_addCommonOptions
    (((((OrderedMap.distinct_empty.insert? _ _).insert? _ _).insert? _ _).insert? _ _).insert? _ _)

theorem distinct_aggregateOptions (q : Query) : q.aggregateOptions.Distinct :=
  q.distinct_addCommonOptions ((OrderedMap.distinct_empty.insert? _ _).insert? _ _)

namespace Agree

variable {q r : Query}

theorem aligned_addCommonOptions (h : q.Agree r) {d d' : Document} (aligned : d.Aligned d') :
    (q.addCommonOptions d).Aligned (r.addCommonOptions d') := by
  rw [addCommonOptions, addCommonOptions, h.timeLimitMs, h.comment]
  exact (aligned.insert? _ (rel_count _)).insert? _
    (rel_map_self (fun text => beq_self_eq_true text) _)

theorem same_findOptions (h : q.Agree r) (keys : ∀ d, q.projection = some d → d.Distinct) :
    q.findOptions.same r.findOptions = true := by
  refine Document.Aligned.same ?_ q.distinct_findOptions
  rw [findOptions, findOptions, h.limit, h.offset, h.columns]
  apply h.aligned_addCommonOptions
  -- The options are written one behind the other, and each is there in both or in neither.
  have window := (Document.Aligned.empty.insert? "limit" (rel_count r.limit)).insert? "skip"
    (rel_count r.offset)
  have shown := window.insert? "projection" (rel_map (f := .document) (g := .document)
    (fun _ _ agree => agree) (rel_projectionOf? r.columns keys h.projection))
  have ordered := shown.insert? "sort" (rel_map (f := .document) (g := .document)
    (fun _ _ agree => agree) (rel_sortOf? h.orders))
  exact ordered.insert? "hint" h.hint

theorem same_aggregateOptions (h : q.Agree r) :
    q.aggregateOptions.same r.aggregateOptions = true := by
  refine Document.Aligned.same ?_ q.distinct_aggregateOptions
  rw [aggregateOptions, aggregateOptions, h.diskUse]
  apply h.aligned_addCommonOptions
  exact (Document.Aligned.empty.insert? "allowDiskUse"
    (rel_map_self (fun allow => beq_self_eq_true allow) _)).insert? "hint" h.hint

theorem same_distinctOptions (h : q.Agree r) : q.distinctOptions.same r.distinctOptions = true :=
  (h.aligned_addCommonOptions .empty).same
    (q.distinct_addCommonOptions OrderedMap.distinct_empty)

theorem aligned_filter (h : q.Agree r) :
    (filterOf q.predicates).Aligned (filterOf r.predicates) :=
  aligned_filterOf h.predicates

theorem same_filter (h : q.Agree r) : (filterOf q.predicates).same (filterOf r.predicates) = true :=
  h.aligned_filter.same (distinct_joinParts _)

end Agree

end Query

/-! ## Stages -/

theorem same_columnReference (column : String) :
    (columnReference column).same (columnReference column) = true :=
  beq_self_eq_true ("$" ++ column)

theorem aligned_groupStage (groups : List String) :
    (groupStage groups).Aligned (groupStage groups) := by
  have key : Document.same (groupKey groups) (groupKey groups) = true :=
    (Document.Aligned.ofList (Document.entryAgree_map_self same_columnReference groups)).same
      (OrderedMap.distinct_ofList _)
  have last (column : String) : (Bson.document (.single "$last" (columnReference column))).same
      (.document (.single "$last" (columnReference column))) = true :=
    Document.same_field "$last" (same_columnReference column)
  exact (Document.Aligned.condition "_id" key).insertAll
    (Document.entryAgree_map_self last groups)

theorem same_groupStage (groups : List String) :
    (groupStage groups).same (groupStage groups) = true :=
  (aligned_groupStage groups).same ((OrderedMap.distinct_single _ _).insertAll _)

theorem AggregateFunction.same_accumulator (function : AggregateFunction) (column : String) :
    (function.accumulator column).same (function.accumulator column) = true := by
  cases function with
  | count => rfl
  | _ => exact Document.same_field _ (same_columnReference column)

theorem same_aggregateStage (groups : List String) (function : AggregateFunction)
    (column : String) :
    (aggregateStage groups function column).same (aggregateStage groups function column) =
      true := by
  have result : (Bson.document (function.accumulator column)).same
      (.document (function.accumulator column)) = true := function.same_accumulator column
  unfold aggregateStage
  dsimp only
  split
  · exact ((Document.Aligned.single "_id" rfl).insert "aggregate" result).same
      ((OrderedMap.distinct_single _ _).insert _ _)
  · exact ((aligned_groupStage groups).insert "aggregate" result).same
      (((OrderedMap.distinct_single _ _).insertAll _).insert _ _)

theorem same_pipelineOf {filter filter' stage stage' : Document}
    (filters : filter.same filter' = true) (stages : stage.same stage' = true) :
    sameList Document.same (pipelineOf filter stage) (pipelineOf filter' stage') = true := by
  have grouping : List.Forall₂ (fun d d' => Document.same d d')
      [.single "$group" (.document stage)] [.single "$group" (.document stage')] :=
    .cons (Document.same_condition "$group" stages) .nil
  rw [sameList_iff]
  unfold pipelineOf
  dsimp only
  rw [Document.isEmpty_congr filters]
  split
  · exact grouping
  · exact .cons (Document.same_condition "$match" filters) grouping

/-! ## Commands -/

namespace Query.Agree

variable {q r : Query}

theorem same_compile (h : q.Agree r) (keys : ∀ d, q.projection = some d → d.Distinct)
    (collection : String) : (q.compile collection).same (r.compile collection) = true := by
  unfold compile
  rw [h.distinct, h.groups]
  split
  · simp [Command.same, h.same_filter, h.same_distinctOptions]
  · split
    · simp [Command.same, h.same_filter, h.same_findOptions keys]
    · simp [Command.same, same_pipelineOf h.same_filter (same_groupStage r.groups),
        h.same_aggregateOptions]

theorem same_compileAggregate (h : q.Agree r) (collection : String) (function : AggregateFunction)
    (column : String) :
    (q.compileAggregate collection function column).same
      (r.compileAggregate collection function column) = true := by
  have stages := same_pipelineOf h.same_filter (same_aggregateStage r.groups function column)
  unfold compileAggregate
  rw [h.groups]
  simp [Command.same, stages, h.same_aggregateOptions]

end Query.Agree

theorem Builder.agree_of_same {a b : Builder} (h : a.same b = true) :
    a.collection = b.collection ∧ a.query.Agree b.query := by
  rw [Builder.same, Bool.and_eq_true, beq_iff_eq] at h
  exact ⟨h.1, Query.agree_of_same h.2⟩

theorem Query.Agree.same_commands {a b : Builder} (collections : a.collection = b.collection)
    (queries : a.query.Agree b.query) (keys : ∀ d, a.query.projection = some d → d.Distinct) :
    a.toCommand.same b.toCommand = true ∧
    ∀ function column,
      (a.toAggregate function column).same (b.toAggregate function column) = true := by
  unfold Builder.toCommand Builder.toAggregate
  rw [collections]
  exact ⟨queries.same_compile keys b.collection, queries.same_compileAggregate b.collection⟩

/-- Builders that agree become commands that agree. A projection is a stored document and names
    each key once; nothing is asked of the other documents, at whatever depth they stand. -/
theorem same_builders_same_commands {a b : Builder}
    (keys : ∀ d, a.query.projection = some d → d.Distinct) (h : a.same b = true) :
    a.toCommand.same b.toCommand = true ∧
    ∀ function column,
      (a.toAggregate function column).same (b.toAggregate function column) = true := by
  obtain ⟨collections, queries⟩ := Builder.agree_of_same h
  exact queries.same_commands collections keys

/-- One moment in two offsets, the two zeros, and the keys of native documents in either order. -/
theorem spelling_does_not_reach_commands :
    ∃ a b : Builder,
      a.query.predicates =
        [.clause ⟨"a", .isIn, .array [
          .date ⟨0, 0, 0, by decide, by decide, by decide, by decide⟩,
          .native (.document ⟨[("x", .double ⟨0⟩), ("y", .null)]⟩)], .and⟩] ∧
      b.query.predicates =
        [.clause ⟨"a", .isIn, .array [
          .date ⟨0, 0, 3600, by decide, by decide, by decide, by decide⟩,
          .native (.document ⟨[("y", .null), ("x", .double ⟨0x8000000000000000⟩)]⟩)], .and⟩] ∧
      a.query.projection = some ⟨[("b", .int32 1), ("c", .int32 0)]⟩ ∧
      b.query.projection = some ⟨[("c", .int32 0), ("b", .int32 1)]⟩ ∧
      a.same b = true ∧ a.toCommand.same b.toCommand = true := by
  refine ⟨⟨"docs", { Query.all with predicates := _, projection := _ }⟩,
    ⟨"docs", { Query.all with predicates := _, projection := _ }⟩, rfl, rfl, rfl, rfl, rfl, ?_⟩
  refine (same_builders_same_commands ?_ rfl).1
  rintro d ⟨rfl⟩
  decide

/-! ## Runs -/

/-- A projection names each key once, whatever documents it was made from. -/
theorem Step.isKept_distinct_projection (listed : List Call) :
    IsKept listed fun b => ∀ d, b.query.projection = some d → d.Distinct where
  start _ _ := nofun
  call b c _ kept := by
    by_cases kind : c.kind? = some .projection
    · cases c with
      | project fields =>
        rintro d ⟨rfl⟩
        apply OrderedMap.Distinct.insertAll
        cases given : b.query.projection with
        | none => exact OrderedMap.distinct_empty
        | some current => exact kept current given
      | clear slot => cases slot with
        | projection => nofun
        | _ => cases kind
      | _ => cases kind
    · have same : (c.run b).builder.query.projection = b.query.projection :=
        c.setting_run_of_ne b (k := .projection) kind
      rw [same]
      exact kept
  group _ _ _ kept _ := kept

theorem Builder.distinct_projection_after (s : Settings) (steps : List Step) :
    ∀ d, ((ofSettings s).after steps).query.projection = some d → d.Distinct :=
  Step.after_preserves (Step.isKept_distinct_projection (Step.callsOf steps)) steps
    (List.Subset.refl _) fun _ => nofun

/-- Two runs that leave builders that agree become commands that agree. -/
theorem runs_that_agree_become_same_commands {s s' : Settings} {steps steps' : List Step}
    (h : ((Builder.ofSettings s).after steps).same ((Builder.ofSettings s').after steps') = true) :
    ((Builder.ofSettings s).after steps).toCommand.same
      ((Builder.ofSettings s').after steps').toCommand = true ∧
    ∀ function column,
      (((Builder.ofSettings s).after steps).toAggregate function column).same
        (((Builder.ofSettings s').after steps').toAggregate function column) = true := by
  obtain ⟨collections, queries⟩ := Builder.agree_of_same h
  exact queries.same_commands collections (Builder.distinct_projection_after s steps)

end DocQuery
