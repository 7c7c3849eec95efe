import DocQuery.Proofs.Filter.Emptiness
import DocQuery.Query.Compile

/- The filter stage of a pipeline. A pipeline leaves the filter out where the filter is empty, so it
   matters that a filter is empty only where a search would select everything as well. Main
   statement: `predicates_always_restrict`. -/

namespace DocQuery

theorem OrderedMap.isEmpty_iff {α : Type} (m : OrderedMap α) : m.isEmpty = true ↔ m = .empty := by
  obtain ⟨entries⟩ := m
  cases entries with
  | nil => exact iff_of_true rfl rfl
  | cons entry rest =>
    exact iff_of_false Bool.false_ne_true fun h => List.cons_ne_nil _ _ (congrArg entries h)

namespace Predicate

/-- The runs of parts that a list of predicates is cut into. -/
def runs (ps : List Predicate) : List (List Part) :=
  cutBefore (fun part => part.connector == .or) (parts ps)

theorem forall_isEmptyGroup_iff (ps : List Predicate) :
    (∀ p ∈ ps, p.isEmptyGroup = true) ↔ clausesOf ps = [] := by
  rw [← List.all_eq_true, ← allEmptyGroups_eq_all, allEmptyGroups_eq, List.isEmpty_iff]

/-- Several runs become alternatives. -/
theorem filterOf_of_runs {ps : List Predicate} (several : 2 ≤ (runs ps).length) :
    filterOf ps = Document.anyOf ((runs ps).map Branch.documentOf) := by
  have unfolded : filterOf ps = joinAlternatives ((runs ps).map Branch.documentOf) := rfl
  rw [unfolded]
  match runs ps, several with
  | _ :: _ :: _, _ => rfl

end Predicate

/-- The stages of a pipeline: the filter if there is a clause, and the stage that forms groups. -/
theorem pipelineOf_filterOf (ps : List Predicate) (stage : Document) :
    pipelineOf (filterOf ps) stage =
      (if (Predicate.clausesOf ps).isEmpty then []
        else [.single "$match" (.document (filterOf ps))]) ++
      [.single "$group" (.document stage)] := by
  have same : (filterOf ps).isEmpty = (Predicate.clausesOf ps).isEmpty := by
    rw [Bool.eq_iff_iff, OrderedMap.isEmpty_iff, filterOf_eq_empty_iff,
      Predicate.forall_isEmptyGroup_iff, List.isEmpty_iff]
  rw [pipelineOf, same]
  split <;> rfl

/-- The filter of a command, which for a pipeline is that of its first stage. -/
def Command.filter : Command → Document
  | .find _ filter _ => filter
  | .distinct _ _ filter _ => filter
  | .aggregate _ pipeline _ =>
    match pipeline.head?.bind fun stage => stage.find? "$match" with
    | some (.document filter) => filter
    | _ => .empty

theorem filter_pipelineOf (collection : String) (filter stage options : Document) :
    (Command.aggregate collection (pipelineOf filter stage) options).filter = filter := by
  unfold pipelineOf
  split
  · next none => exact (filter.isEmpty_iff.mp none).symm
  · rfl

/-- Whichever command a query becomes, its filter is that of the predicates. -/
theorem filter_compile (collection : String) (q : Query) :
    (q.compile collection).filter = filterOf q.predicates := by
  unfold Query.compile
  split
  · rfl
  · split
    · rfl
    · exact filter_pipelineOf collection _ _ _

theorem filter_compileAggregate (collection : String) (q : Query) (function : AggregateFunction)
    (column : String) :
    (q.compileAggregate collection function column).filter = filterOf q.predicates :=
  filter_pipelineOf collection _ _ _

/-- A list of predicates becomes the empty filter only if there is no clause in it at any depth, and
    nothing empty is listed on the way: neither as alternatives, nor where parts are in each
    other's way, nor under any junction of the filter that was not handed in by a caller. So a
    pipeline over groups is the group stage alone if there is no clause, and otherwise the group
    stage behind the filter that a search would use. -/
theorem predicates_always_restrict (ps : List Predicate) (collection : String) (q : Query) :
    ((filterOf ps = .empty ↔ ∀ p ∈ ps, p.isEmptyGroup = true) ∧
      (filterOf ps = .empty ↔ Predicate.clausesOf ps = []) ∧
      ∀ p : Predicate, (p.document = .empty ↔ p.isEmptyGroup = true) ∧
        (p.document = .empty ↔ p.clauses = [])) ∧
    ((2 ≤ (Predicate.runs ps).length →
        filterOf ps = Document.anyOf ((Predicate.runs ps).map Branch.documentOf) ∧
        Bson.AreAlternatives (((Predicate.runs ps).map Branch.documentOf).map .document)) ∧
      (∀ run ∈ Predicate.runs ps, run.foldlM Branch.add? .empty = none →
        Branch.documentOf run = Document.allOf (run.map Part.document) ∧
        Bson.AreAlternatives ((run.map Part.document).map .document)) ∧
      ∀ found, (filterOf ps).HasJunction found →
        Bson.AreAlternatives found ∨
          ∃ c ∈ Predicate.clausesOf ps, c.IsVerbatim ∧ c.document.HasJunction found) ∧
    ∃ filter options,
      ({ q with groups := [], distinct := none } : Query).compile collection =
        .find collection filter options ∧
      (q.distinct = none → q.groups ≠ [] →
        q.compile collection = .aggregate collection
          ((if (Predicate.clausesOf q.predicates).isEmpty then []
              else [.single "$match" (.document filter)]) ++
            [.single "$group" (.document (groupStage q.groups))])
          q.aggregateOptions) ∧
      ∀ function column,
        q.compileAggregate collection function column = .aggregate collection
          ((if (Predicate.clausesOf q.predicates).isEmpty then []
              else [.single "$match" (.document filter)]) ++
            [.single "$group" (.document (aggregateStage q.groups function column))])
          q.aggregateOptions := by
  have whole : ∀ part ∈ Predicate.parts ps, part.IsWhole :=
    fun part hp => Predicate.isWhole_of_mem_parts ps hp
  refine ⟨⟨filterOf_eq_empty_iff ps, ?_, ?_⟩, ⟨?_, ?_, fun _ => hasJunction_filterOf⟩, ?_⟩
  · rw [filterOf_eq_empty_iff, Predicate.forall_isEmptyGroup_iff]
  · intro p
    refine ⟨p.document_eq_empty_iff, ?_⟩
    rw [p.document_eq_empty_iff, Predicate.isEmptyGroup_eq, List.isEmpty_iff]
  · intro several
    refine ⟨Predicate.filterOf_of_runs several, ?_⟩
    exact Bson.areAlternatives_map (by simpa using several)
      fun d hd => runDocument_ne_empty whole hd
  · intro run hr failed
    refine ⟨by rw [Branch.documentOf, failed], ?_⟩
    exact Branch.areAlternatives_of_listed
      (fun part hp => whole part (mem_of_mem_cutBefore hr hp)) failed
  · refine ⟨filterOf q.predicates, _, rfl, ?_, ?_⟩
    · intro distinct groups
      have some : q.groups.isEmpty = false := by simpa using groups
      rw [← pipelineOf_filterOf, Query.compile, distinct]
      simp only [some, Bool.false_eq_true, if_false]
    · intro function column
      rw [← pipelineOf_filterOf, Query.compileAggregate]

/-- Two conditions that cannot share a column, behind a group that holds an empty group only. -/
theorem clashing_conditions_restrict_groups :
    (∃ run ∈ Predicate.runs [.group [.group [] .or] .and, .clause ⟨"a", .eq, .int 1, .or⟩,
        .clause ⟨"a", .eq, .int 2, .and⟩],
      run.foldlM Branch.add? .empty = none ∧
      Bson.AreAlternatives ((run.map Part.document).map .document)) ∧
    ({ Query.all with
        predicates := [.group [.group [] .or] .and, .clause ⟨"a", .eq, .int 1, .or⟩,
          .clause ⟨"a", .eq, .int 2, .and⟩]
        groups := ["g"] } : Query).compile "docs" =
      .aggregate "docs"
        [.single "$match" (.document (Document.allOf
            [Document.field "a" (.int32 1), Document.field "a" (.int32 2)])),
          .single "$group" (.document (groupStage ["g"]))] .empty := by
  obtain ⟨_, ⟨_, runs, _⟩, filter, options, search, grouped, _⟩ :=
    predicates_always_restrict [.group [.group [] .or] .and, .clause ⟨"a", .eq, .int 1, .or⟩,
      .clause ⟨"a", .eq, .int 2, .and⟩] "docs" { Query.all with
        predicates := [.group [.group [] .or] .and, .clause ⟨"a", .eq, .int 1, .or⟩,
          .clause ⟨"a", .eq, .int 2, .and⟩]
        groups := ["g"] }
  refine ⟨⟨_, .head _, rfl, (runs _ (.head _) rfl).2⟩, ?_⟩
  cases search
  exact grouped rfl (List.cons_ne_nil _ _)

end DocQuery
