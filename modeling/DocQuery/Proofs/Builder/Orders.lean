import DocQuery.Proofs.Builder.History
import DocQuery.Proofs.Builder.Independence
import DocQuery.Proofs.Builder.Refusal
import DocQuery.Proofs.Query.Options

/- The orders that a run leaves in a builder, and what a search makes of them. Some steps start the
   orders afresh and some add one, and a step whose direction is not known does neither
   (`Step.orders_run`). So the orders after a run are those of its last fresh start with what was
   added since, and they are the columns that a search is sorted by. Main statement:
   `orders_after_run`. -/

namespace DocQuery

namespace Step

/-- What a step that starts the orders afresh makes them. -/
def ordersAfresh? : Step → Option (List OrderClause)
  | .call .reorder | .call (.clear .orders) => some []
  | .call (.reorderBy column direction) =>
    (OrderClause.make column direction).toOption.map fun order => [order]
  | .call (.setOrders orders) => some (orders.getD [])
  | _ => none

/-- The order that a step adds; the steps inside of a group add none. -/
def ordersAdded : Step → List OrderClause
  | .call (.orderBy column) | .call (.oldest column) => [.ascending column]
  | .call (.orderByDesc column) | .call (.latest column) => [.descending column]
  | .call (.orderByWith column direction) => (OrderClause.make column direction).toOption.toList
  | _ => []

/-- A step starts the orders afresh, adds to them or leaves them as they are. -/
theorem orders_run (b : Builder) (step : Step) :
    (step.run b).builder.query.orderList =
      step.ordersAfresh?.getD (b.query.orderList ++ step.ordersAdded) := by
  have other : ∀ kept : Step, kept.kind? ≠ some .orders →
      (kept.run b).builder.query.orderList = b.query.orderList ++ [] :=
    fun kept apart => kept.list_run_of_ne b (k := .orders) (fun orders => orders.getD []) apart
  cases step with
  | group => exact other _ (by rintro ⟨⟩)
  | call c =>
    cases c with
    | orderBy | orderByDesc | latest | oldest | reorder | setOrders => rfl
    | orderByWith column direction =>
      rw [run, Call.run_orderByWith]
      cases made : OrderClause.make column direction with
      | error e => simp [ordersAfresh?, ordersAdded, made, Except.toOption]
      | ok order =>
        simp only [ordersAfresh?, ordersAdded, made, Except.toOption]
        rfl
    | reorderBy column direction =>
      rw [run, Call.run_reorderBy]
      cases made : OrderClause.make column direction with
      | error e => simp [ordersAfresh?, ordersAdded, made, Except.toOption]
      | ok order =>
        simp only [ordersAfresh?, made, Except.toOption]
        rfl
    | clear slot => cases slot with
      | orders => rfl
      | _ => exact other _ (by rintro ⟨⟩)
    | _ => exact other _ (by rintro ⟨⟩)

end Step

/-- The orders after a run are those with which the last accepted step that starts them afresh left
    them, or those at the start, and behind them what the accepted steps since then added. A search
    has a sort option exactly if there are any, and its keys are their columns in the order of
    first mention; absent orders and empty ones become the same commands. -/
theorem orders_after_run (b : Builder) (steps : List Step) :
    let orders :=
      accumulated Step.ordersAfresh? Step.ordersAdded b.query.orderList (b.accepted steps)
    (b.after steps).query.orderList = orders ∧
    ((b.after steps).query.hasOrders = true ↔ orders ≠ []) ∧
    (∀ collection filter options, (b.after steps).toCommand = .find collection filter options →
      (options.contains "sort" = true ↔ orders ≠ []) ∧
      (orders ≠ [] → ∃ sort : Document, options.find? "sort" = some (.document sort) ∧
        sort.keys = (orders.map OrderClause.column).eraseDups)) ∧
    ∀ other : Builder,
      (other.setOrders none).toCommand = (other.setOrders (some [])).toCommand ∧
      ∀ function column, (other.setOrders none).toAggregate function column =
        (other.setOrders (some [])).toAggregate function column := by
  intro orders
  have final : (b.after steps).query.orderList = orders := by
    rw [← b.after_accepted steps]
    exact Builder.list_after (fun b => b.query.orderList) Step.orders_run b (b.accepted steps)
  refine ⟨final, ?_, ?_, fun other => ⟨rfl, fun _ _ => rfl⟩⟩
  · rw [Query.hasOrders, final]
    simp
  · intro collection filter options search
    have listed : (b.after steps).query.findOptions.find? "sort" =
        (sortOf? (b.after steps).query.orders).map .document := Query.find?_findOptions _ "sort"
    have sorted : options.find? "sort" =
        if orders = [] then none else some (.document (sortOf orders)) := by
      rw [Query.options_of_compile_eq_find search, listed, sortOf?_eq, ← Query.orderList, final]
      split <;> rfl
    constructor
    · have present := options.find?_eq_none_iff "sort"
      rw [options.contains_iff_mem, ← not_not (a := "sort" ∈ options.keys), ← present, sorted]
      simp
    · intro some
      rw [sorted, if_neg some]
      exact ⟨sortOf orders, rfl, keys_sortOf orders⟩

/-- A refused direction resets nothing, and orders inside of a group are no orders of the query: the
    search is sorted by the columns of the list that was set, and by the one added behind it. -/
theorem refused_direction_resets_nothing :
    ((Builder.new "docs").after
      [.call (.orderBy "z"), .call (.setOrders (some [.ascending "b", .descending "a"])),
        .call (.reorderBy "q" (.keyword "sideways")), .call (.latest "b"),
        .group .or .ignore [.call .reorder, .call (.orderBy "g")],
        .call (.orderByWith "c" (.number (-1)))]).query.orderList =
      [.ascending "b", .descending "a", .descending "b", .descending "c"] ∧
    ∃ options sort, ((Builder.new "docs").after
      [.call (.orderBy "z"), .call (.setOrders (some [.ascending "b", .descending "a"])),
        .call (.reorderBy "q" (.keyword "sideways")), .call (.latest "b"),
        .group .or .ignore [.call .reorder, .call (.orderBy "g")],
        .call (.orderByWith "c" (.number (-1)))]).toCommand = .find "docs" .empty options ∧
      options.find? "sort" = some (.document sort) ∧ sort.keys = ["b", "a", "c"] := by
  have orders := orders_after_run (.new "docs")
    [.call (.orderBy "z"), .call (.setOrders (some [.ascending "b", .descending "a"])),
      .call (.reorderBy "q" (.keyword "sideways")), .call (.latest "b"),
      .group .or .ignore [.call .reorder, .call (.orderBy "g")],
      .call (.orderByWith "c" (.number (-1)))]
  obtain ⟨sort, sorted, keys⟩ := (orders.2.2.1 "docs" .empty _ rfl).2 nofun
  exact ⟨orders.1, _, sort, rfl, sorted, keys⟩

end DocQuery
