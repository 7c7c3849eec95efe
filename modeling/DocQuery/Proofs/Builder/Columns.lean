import DocQuery.Proofs.Builder.History
import DocQuery.Proofs.Builder.Independence
import DocQuery.Proofs.Query.Options
import DocQuery.Proofs.Query.Projection

/- The columns that a run leaves selected, the projection that it leaves, and what a search shows for
   the two. The columns are a list that steps start afresh and extend. The projection is a document,
   but it is always the one that is written from such a list of entries (`Step.projection_run`), so
   a key has the place of its first mention and the value of its last. Main statement:
   `projection_after_run`. -/

namespace DocQuery

namespace Step

/-- What a step that starts the columns afresh makes them. -/
def columnsAfresh? : Step → Option (List String)
  | .call (.select columns) => some columns
  | .call (.clear .columns) => some []
  | _ => none

/-- The columns that a step adds; the steps inside of a group add none. -/
def columnsAdded : Step → List String
  | .call (.addSelect columns) => columns
  | _ => []

theorem columns_run (b : Builder) (step : Step) :
    (step.run b).builder.query.columns.getD [] =
      step.columnsAfresh?.getD (b.query.columns.getD [] ++ step.columnsAdded) := by
  have other : ∀ kept : Step, kept.kind? ≠ some .columns →
      (kept.run b).builder.query.columns.getD [] = b.query.columns.getD [] ++ [] :=
    fun kept apart => kept.list_run_of_ne b (k := .columns) (fun columns => columns.getD []) apart
  cases step with
  | group => exact other _ (by rintro ⟨⟩)
  | call c =>
    cases c with
    | select | addSelect => rfl
    | clear slot => cases slot with
      | columns => rfl
      | _ => exact other _ (by rintro ⟨⟩)
    | _ => exact other _ (by rintro ⟨⟩)

/-- What a step that drops the projection leaves of its entries. -/
def fieldsAfresh? : Step → Option (List (String × Bson))
  | .call (.clear .projection) => some []
  | _ => none

/-- The entries that a step writes into the projection. -/
def fieldsAdded : Step → List (String × Bson)
  | .call (.project projection) => projection.entries
  | _ => []

theorem projection_run (b : Builder) (step : Step) (fields : List (String × Bson))
    (written : b.query.projection.getD .empty = .ofList fields) :
    (step.run b).builder.query.projection.getD .empty =
      .ofList (step.fieldsAfresh?.getD (fields ++ step.fieldsAdded)) := by
  have other : ∀ kept : Step, kept.kind? ≠ some .projection →
      (kept.run b).builder.query.projection.getD .empty = .ofList (fields ++ []) := by
    intro kept apart
    have same : (kept.run b).builder.query.projection = b.query.projection :=
      kept.setting_run_of_ne b (k := .projection) apart
    rw [List.append_nil, same, written]
  cases step with
  | group => exact other _ (by rintro ⟨⟩)
  | call c =>
    cases c with
    | project projection =>
      show (b.query.projection.getD .empty).insertAll projection.entries = _
      rw [written]
      exact List.foldl_append.symm
    | clear slot => cases slot with
      | projection => rfl
      | _ => exact other _ (by rintro ⟨⟩)
    | _ => exact other _ (by rintro ⟨⟩)

end Step

/-- What a search shows after a run on a new builder, if none of the columns that count is `*`: first
    the columns since they were selected afresh or dropped, then the other keys that the projections
    given since they were dropped mention, both in the order of first mention. The value of a key is
    the one that those projections gave last, and `1` if they give none. The option is there exactly
    if there is such a key. -/
theorem projection_after_run (s : Settings) (steps : List Step) :
    let columns := accumulated Step.columnsAfresh? Step.columnsAdded [] steps
    let fields := accumulated Step.fieldsAfresh? Step.fieldsAdded [] steps
    let keys := columns.eraseDups ++
      ((fields.map Prod.fst).filter fun key => !columns.contains key).eraseDups
    "*" ∉ columns → ∀ collection filter options,
      ((Builder.ofSettings s).after steps).toCommand = .find collection filter options →
      options.find? "projection" =
        if keys = [] then none
        else some (.document
          ⟨keys.map fun key => (key, (fields.reverse.lookup key).getD (.int32 1))⟩) := by
  intro columns fields keys plain collection filter options search
  have selected : ((Builder.ofSettings s).after steps).query.columns.getD [] = columns :=
    Builder.list_after (fun b => b.query.columns.getD []) Step.columns_run _ steps
  have written : ((Builder.ofSettings s).after steps).query.projection.getD .empty =
      .ofList fields :=
    Builder.made_after (fun b => b.query.projection.getD .empty) .ofList Step.projection_run rfl
      steps
  have listed (q : Query) : q.findOptions.find? "projection" =
      (projectionOf? q.columns q.projection).map .document := q.find?_findOptions "projection"
  have unstarred : (columns.filter fun column => column != "*") = columns := by
    apply List.filter_eq_self.mpr
    intro column listed
    simpa using fun star : column = "*" => plain (star ▸ listed)
  have order : (columns ++ fields.map Prod.fst).eraseDups = keys := by
    rw [List.eraseDups_append]
    rfl
  rw [Query.options_of_compile_eq_find search, listed, projectionOf?,
    projectionOf_eq written, selected, unstarred, order, OrderedMap.isEmpty, List.isEmpty_map]
  by_cases none : keys = []
  · rw [if_pos none, none]
    rfl
  · rw [if_neg none, if_neg (by simpa using none)]
    rfl

/-- Columns from before the last selection do not count, and neither do those that a group selects
    or projections from before they were dropped. A selected column that is projected too keeps its
    place among the columns. -/
theorem projected_column_keeps_its_place :
    ∃ options, ((Builder.new "docs").after
      [.call (.select ["*"]), .call (.project ⟨[("z", .int32 0)]⟩), .call (.clear .projection),
        .call (.project ⟨[("c", .int32 0), ("b", .bool true)]⟩), .call (.select ["a", "b"]),
        .group .and .ignore [.call (.select ["*"])], .call (.addSelect ["d", "a"]),
        .call (.project ⟨[("b", .null)]⟩)]).toCommand = .find "docs" .empty options ∧
      options.find? "projection" = some (.document
        ⟨[("a", .int32 1), ("b", .null), ("d", .int32 1), ("c", .int32 0)]⟩) := by
  have shown := projection_after_run (.forCollection "docs")
    [.call (.select ["*"]), .call (.project ⟨[("z", .int32 0)]⟩), .call (.clear .projection),
      .call (.project ⟨[("c", .int32 0), ("b", .bool true)]⟩), .call (.select ["a", "b"]),
      .group .and .ignore [.call (.select ["*"])], .call (.addSelect ["d", "a"]),
      .call (.project ⟨[("b", .null)]⟩)]
    (by decide) "docs" .empty _ rfl
  exact ⟨_, rfl, shown⟩

end DocQuery
