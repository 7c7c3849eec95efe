import DocQuery.Proofs.Builder.Independence
import DocQuery.Proofs.Query.Pipeline

/- What a group of steps has to do with the builder it is added to. Its steps run on a builder of
   their own, and what they leave behind there is what they leave behind on any other builder
   without predicates (`Step.runGroup_eq_fresh`); of that the predicates are kept, as one group
   behind the others. A lone group restricts a query as its members do, so on a builder without
   predicates the steps may as well run outside of parentheses. Main statement:
   `groups_are_isolated`. -/

namespace DocQuery

/-- A group that goes through on one new builder goes through on all of them, and its predicates are
    those that its steps leave in a builder without predicates. -/
theorem Step.runGroup_eq_fresh {refusals : Refusals} {collection : String} {steps : List Step}
    (through : (runGroup refusals (.new collection) steps).error? = none) {b : Builder}
    (fresh : b.query.predicates = []) :
    (runGroup refusals (.new collection) steps).builder.query.predicates =
        (b.after steps).query.predicates ∧
      (refusals = .stop → ∀ outcome ∈ b.outcomes steps, outcome.answer.isRefused = false) := by
  have same : (Builder.new collection).setting .predicates = b.setting .predicates := fresh.symm
  obtain ⟨errors, predicates⟩ := runGroup_congr refusals steps same
  obtain ⟨builder, accepted⟩ := runGroup_eq_after (errors.symm.trans through)
  rw [predicates, builder]
  exact ⟨rfl, accepted⟩

/-- A group that is accepted adds itself to the predicates of its builder and changes nothing else.
    Its members are the predicates that the steps leave in a new builder, whatever the settings of
    that builder are. If there were no predicates before, every command has the filter that it
    would have after the steps without parentheses around them. -/
theorem groups_are_isolated (b : Builder) (connector : Connector) (refusals : Refusals)
    (steps : List Step)
    (accepted : (Step.run b (.group connector refusals steps)).answer.isRefused = false) :
    (∀ s : Settings,
      (Step.run b (.group connector refusals steps)).builder =
        { b with query := { b.query with
            predicates := b.query.predicates ++
              [.group ((Builder.ofSettings s).after steps).query.predicates connector] } } ∧
      (refusals = .stop →
        ∀ outcome ∈ (Builder.ofSettings s).outcomes steps, outcome.answer.isRefused = false)) ∧
    (b.query.predicates = [] →
      (Step.run b (.group connector refusals steps)).builder.toCommand.filter =
        (b.after steps).toCommand.filter ∧
      ∀ function column,
        ((Step.run b (.group connector refusals steps)).builder.toAggregate function
            column).filter =
          ((b.after steps).toAggregate function column).filter) := by
  cases failed : (Step.runGroup refusals (.new b.collection) steps).error? with
  | some e =>
    rw [Step.run_group_of_error connector failed] at accepted
    cases accepted
  | none =>
    rw [Step.run_group_of_none connector failed]
    constructor
    · intro s
      obtain ⟨members, unrefused⟩ :=
        Step.runGroup_eq_fresh failed (b := Builder.ofSettings s) rfl
      rw [members]
      exact ⟨rfl, unrefused⟩
    · intro none
      obtain ⟨members, _⟩ := Step.runGroup_eq_fresh failed none
      -- The group stands alone, and its document is the filter of its members.
      have alone : filterOf (b.addGroup connector (b.after steps).query.predicates).query.predicates
          = filterOf (b.after steps).query.predicates := by
        rw [Builder.addGroup, Builder.addPredicate, none, List.nil_append, filterOf_singleton,
          document_group]
      rw [members]
      refine ⟨?_, fun function column => ?_⟩
      · rw [Builder.toCommand, Builder.toCommand, filter_compile, filter_compile, alone]
      · rw [Builder.toAggregate, Builder.toAggregate, filter_compileAggregate,
          filter_compileAggregate, alone]

/-- Of a group that names a collection, orders, sets a distinct target and compiles, in a query with
    a limit, the clauses are kept, and they restrict the query as they would outside of it. -/
theorem group_keeps_nothing_but_predicates :
    (Step.run ((Builder.new "docs").limit 5) (.group .or .stop
      [.call (.whereEq .or "a" .null), .call (.orderBy "a"), .call (.setCollection "logs"),
        .group .and .ignore [.call (.relational .having), .call (.whereNotNull "b")],
        .call (.distinct "c"), .call .toCommand])).answer.isRefused = false ∧
    (Step.run ((Builder.new "docs").limit 5) (.group .or .stop
      [.call (.whereEq .or "a" .null), .call (.orderBy "a"), .call (.setCollection "logs"),
        .group .and .ignore [.call (.relational .having), .call (.whereNotNull "b")],
        .call (.distinct "c"), .call .toCommand])).builder =
      ⟨"docs", { Query.all with
        limit := some 5
        predicates :=
          [.group [.clause ⟨"a", .eq, .null, .or⟩,
            .group [.clause ⟨"b", .ne, .null, .and⟩] .and] .or] }⟩ ∧
    ((Builder.new "docs").limit 5).query.predicates = [] ∧
    (Step.run ((Builder.new "docs").limit 5) (.group .or .stop
      [.call (.whereEq .or "a" .null), .call (.orderBy "a"), .call (.setCollection "logs"),
        .group .and .ignore [.call (.relational .having), .call (.whereNotNull "b")],
        .call (.distinct "c"), .call .toCommand])).builder.toCommand.filter =
      (((Builder.new "docs").limit 5).after
        [.call (.whereEq .or "a" .null), .call (.orderBy "a"), .call (.setCollection "logs"),
          .group .and .ignore [.call (.relational .having), .call (.whereNotNull "b")],
          .call (.distinct "c"), .call .toCommand]).toCommand.filter := by
  have isolated := groups_are_isolated ((Builder.new "docs").limit 5) .or .stop
    [.call (.whereEq .or "a" .null), .call (.orderBy "a"), .call (.setCollection "logs"),
      .group .and .ignore [.call (.relational .having), .call (.whereNotNull "b")],
      .call (.distinct "c"), .call .toCommand] rfl
  exact ⟨rfl, (isolated.1 (.forCollection "other")).1, rfl, (isolated.2 rfl).1⟩

end DocQuery
