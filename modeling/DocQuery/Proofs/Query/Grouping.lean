import DocQuery.Proofs.OrderedMap
import DocQuery.Query.Compile

/- The stage by which a command forms groups. Its key, the last values of the columns and the result
   of a function share one document, and the names of the columns are names in it, so what is
   written later can take the place of what was written before. Main statement:
   `grouping_keeps_every_key_iff`, nothing takes the place of anything else exactly when no column
   is called `_id` or, where a function is computed, `aggregate`. -/

namespace DocQuery

/-- The stage by which a command forms groups, if it is a pipeline that ends in one. -/
def Command.grouping? : Command → Option Bson
  | .aggregate _ pipeline _ => pipeline.getLast?.bind fun stage => stage.find? "$group"
  | _ => none

/-- The accumulator that keeps the last value of a column. -/
def lastValue (column : String) : Bson := .document (.single "$last" (columnReference column))

/-- What a stage that forms groups by columns has to hold: every column once in the key, in the
    order of first mention, and behind the key the last value of every column. -/
def groupingEntries (columns : List String) : List (String × Bson) :=
  ("_id", .document ⟨columns.eraseDups.map fun column => (column, columnReference column)⟩) ::
    columns.eraseDups.map fun column => (column, lastValue column)

example : groupingEntries ["b", "a", "b"] =
    [("_id", .document ⟨[("b", .string "$b"), ("a", .string "$a")]⟩),
      ("b", .document ⟨[("$last", .string "$b")]⟩),
      ("a", .document ⟨[("$last", .string "$a")]⟩)] :=
  rfl

theorem keys_groupingEntries (columns : List String) :
    (groupingEntries columns).map Prod.fst = "_id" :: columns.eraseDups := by
  simp [groupingEntries, Function.comp_def]

/-! ## The stages -/

theorem distinct_groupStage (groups : List String) : (groupStage groups).Distinct :=
  (OrderedMap.distinct_single _ _).insertAll _

theorem entries_groupStage {groups : List String} (free : "_id" ∉ groups) :
    (groupStage groups).entries = groupingEntries groups := by
  have fresh : ∀ column ∈ groups,
      column ∉ (OrderedMap.single "_id" (Bson.document (groupKey groups))).keys := by
    intro column listed known
    rw [List.mem_singleton.mp known] at listed
    exact free listed
  have key : groupKey groups =
      ⟨groups.eraseDups.map fun column => (column, columnReference column)⟩ :=
    OrderedMap.ofList_map columnReference groups
  calc (groupStage groups).entries
      = ("_id", .document (groupKey groups)) ::
          groups.eraseDups.map fun column => (column, lastValue column) :=
        OrderedMap.entries_insertAll_map (OrderedMap.distinct_single _ _) lastValue fresh
    _ = groupingEntries groups := by rw [key, groupingEntries]

/-- Only a column that is called like the key takes the place of the key. -/
theorem entries_groupStage_iff (groups : List String) :
    (groupStage groups).entries = groupingEntries groups ↔ "_id" ∉ groups := by
  refine ⟨fun written listed => ?_, entries_groupStage⟩
  -- The stage names each key once, so `_id` cannot be both the key and a column.
  have distinct := distinct_groupStage groups
  rw [OrderedMap.Distinct, OrderedMap.keys, written, keys_groupingEntries] at distinct
  exact (List.nodup_cons.mp distinct).1 (List.mem_eraseDups.mpr listed)

theorem aggregateStage_of_ne_nil {groups : List String} (nonempty : groups ≠ [])
    (function : AggregateFunction) (column : String) :
    aggregateStage groups function column =
      (groupStage groups).insert "aggregate" (.document (function.accumulator column)) := by
  have some : groups.isEmpty = false := by simpa using nonempty
  rw [aggregateStage, some]
  rfl

/-- Only columns that are called like the key or like the result take the place of something or
    lose it. -/
theorem entries_aggregateStage_iff {groups : List String} (nonempty : groups ≠ [])
    (function : AggregateFunction) (column : String) :
    (aggregateStage groups function column).entries =
        groupingEntries groups ++ [("aggregate", .document (function.accumulator column))] ↔
      "_id" ∉ groups ∧ "aggregate" ∉ groups := by
  rw [aggregateStage_of_ne_nil nonempty]
  constructor
  · intro written
    have distinct := (distinct_groupStage groups).insert "aggregate"
      (.document (function.accumulator column))
    rw [OrderedMap.Distinct, OrderedMap.keys, written, List.map_append, keys_groupingEntries]
      at distinct
    obtain ⟨front, _, apart⟩ := List.nodup_append.mp distinct
    constructor
    · intro listed
      exact (List.nodup_cons.mp front).1 (List.mem_eraseDups.mpr listed)
    · -- The result of the function stands behind the columns, under a name that none of them has.
      intro listed
      have inFront : "aggregate" ∈ "_id" :: groups.eraseDups :=
        List.mem_cons_of_mem _ (List.mem_eraseDups.mpr listed)
      exact apart _ inFront _ (List.mem_singleton.mpr rfl) rfl
  · rintro ⟨free, free'⟩
    have new : "aggregate" ∉ (groupStage groups).keys := by
      rw [OrderedMap.keys, entries_groupStage free, keys_groupingEntries]
      simpa using free'
    rw [OrderedMap.insert_of_not_mem _ new, entries_groupStage free]

/-! ## The commands -/

theorem grouping?_pipelineOf (collection : String) (filter stage options : Document) :
    (Command.aggregate collection (pipelineOf filter stage) options).grouping? =
      some (.document stage) := by
  unfold pipelineOf
  split <;> rfl

/-- Whatever the columns are called, a query over groups becomes a command that forms groups. Its
    stage holds the key with every column, the last value of every column and the result of the
    function, and nothing else, exactly when no column is called `_id` or, beside a function,
    `aggregate`. -/
theorem grouping_keeps_every_key_iff (collection : String) (q : Query) (nonempty : q.groups ≠ []) :
    (q.distinct = none → ∃ stage : Document,
      (q.compile collection).grouping? = some (.document stage) ∧
      (stage.entries = groupingEntries q.groups ↔ "_id" ∉ q.groups)) ∧
    ∀ function column, ∃ stage : Document,
      (q.compileAggregate collection function column).grouping? = some (.document stage) ∧
      (stage.entries =
          groupingEntries q.groups ++ [("aggregate", .document (function.accumulator column))] ↔
        "_id" ∉ q.groups ∧ "aggregate" ∉ q.groups) := by
  constructor
  · intro distinct
    have groups : q.groups.isEmpty = false := by simpa using nonempty
    refine ⟨groupStage q.groups, ?_, entries_groupStage_iff q.groups⟩
    rw [Query.compile, distinct]
    simp only [groups, Bool.false_eq_true, if_false]
    exact grouping?_pipelineOf collection _ _ _
  · intro function column
    exact ⟨aggregateStage q.groups function column, grouping?_pipelineOf collection _ _ _,
      entries_aggregateStage_iff nonempty function column⟩

/-- A column that is mentioned twice. -/
theorem repeated_column_is_kept :
    ({ Query.all with groups := ["b", "a", "b"] } : Query).groups ≠ [] ∧
    ∃ stage : Document,
      (({ Query.all with groups := ["b", "a", "b"] } : Query).compileAggregate "docs" .sum
        "c").grouping? = some (.document stage) ∧
      stage.entries = groupingEntries ["b", "a", "b"] ++
        [("aggregate", .document (.single "$sum" (.string "$c")))] := by
  refine ⟨List.cons_ne_nil _ _, ?_⟩
  obtain ⟨stage, formed, complete⟩ := (grouping_keeps_every_key_iff "docs"
    { Query.all with groups := ["b", "a", "b"] } (List.cons_ne_nil _ _)).2 .sum "c"
  exact ⟨stage, formed, complete.mpr (by decide)⟩

/-- With a column called `_id` the key is gone, and with it what the other columns say; a column
    called `aggregate` loses its last value. -/
theorem column_names_take_places :
    (({ Query.all with groups := ["_id", "foo"] } : Query).compile "docs").grouping? =
      some (.document ⟨[("_id", lastValue "_id"), ("foo", lastValue "foo")]⟩) ∧
    (({ Query.all with groups := ["aggregate"] } : Query).compileAggregate "docs" .count
        "c").grouping? =
      some (.document ⟨[("_id", .document ⟨[("aggregate", .string "$aggregate")]⟩),
        ("aggregate", .document (.single "$sum" (.int32 1)))]⟩) :=
  ⟨rfl, rfl⟩

end DocQuery
