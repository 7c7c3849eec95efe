import DocQuery.Proofs.OrderedMap
import DocQuery.Query.Compile

/- What a search shows. Its projection document is written from a list: an entry for each selected
   column, and behind these the entries of the caller's own projection. The column `*` has no entry,
   so it is as good as not named, and any other column beside it narrows the result to what is
   listed. Main statement: `star_shows_every_column_iff`. -/

namespace DocQuery

theorem map_fst_selected (columns : List String) :
    (selected columns).map Prod.fst = columns.filter fun column => column != "*" := by
  rw [selected, List.map_map]
  exact List.map_id _

/-- An absent projection document is an empty one. -/
theorem getD_projectionOf? (columns : Option (List String)) (projection : Option Document) :
    (projectionOf? columns projection).getD .empty = projectionOf columns projection := by
  rw [projectionOf?]
  split
  · next nothing => exact congrArg OrderedMap.mk (List.isEmpty_iff.mp nothing).symm
  · rfl

theorem projectionOf?_eq_iff {columns columns' : Option (List String)}
    {projection projection' : Option Document} :
    projectionOf? columns projection = projectionOf? columns' projection' ↔
      projectionOf columns projection = projectionOf columns' projection' := by
  constructor
  · intro same
    rw [← getD_projectionOf?, same, getD_projectionOf?]
  · intro same
    rw [projectionOf?, projectionOf?, same]

theorem find?_projectionOf? (columns : Option (List String)) (projection : Option Document)
    (key : String) :
    ((projectionOf? columns projection).bind fun shown => shown.find? key) =
      (projectionOf columns projection).find? key := by
  rw [← getD_projectionOf?]
  cases projectionOf? columns projection <;> rfl

/-! ## What the document says -/

/-- The entry of a selected column says no more than that it is shown. -/
theorem getD_lookup_selected (columns : List String) (key : String) :
    ((selected columns).reverse.lookup key).getD (.int32 1) = .int32 1 := by
  rw [selected, ← List.map_reverse, OrderedMap.lookup_map]
  split <;> rfl

/-- The document has the selected columns, and then what the caller's own projection mentions
    besides, each once; what that says about a key last is said of the key. -/
theorem projectionOf_eq {columns : Option (List String)} {projection : Option Document}
    {fields : List (String × Bson)} (written : projection.getD .empty = .ofList fields) :
    projectionOf columns projection =
      ⟨(((columns.getD []).filter fun column => column != "*") ++ fields.map Prod.fst).eraseDups.map
        fun key => (key, (fields.reverse.lookup key).getD (.int32 1))⟩ := by
  rw [projectionOf, written, OrderedMap.ofList_append_entries_ofList,
    OrderedMap.ofList_eq _ (.int32 1), List.map_append, map_fst_selected]
  congr 1
  apply List.map_congr_left
  intro key _
  rw [List.reverse_append, List.lookup_append]
  cases fields.reverse.lookup key with
  | some value => rfl
  | none => exact congrArg (Prod.mk key) (getD_lookup_selected _ key)

/-! ## The column for all columns -/

/-- The columns beside `*` are selected as if it were not there. So the projection is the one without
    any columns exactly if these columns, in this order, are what the caller's own projection begins
    with, and it says the same about every field exactly if the caller's projection mentions all of
    these columns. -/
theorem star_shows_every_column_iff (columns : List String) (projection : Option Document) :
    let others := columns.filter fun column => column != "*"
    let mentioned := (projection.getD .empty).keys
    projectionOf? (some columns) projection = projectionOf? (some others) projection ∧
    (projectionOf? (some columns) projection = projectionOf? none projection ↔
      others.eraseDups <+: mentioned.eraseDups) ∧
    ((∀ key, ((projectionOf? (some columns) projection).bind fun shown => shown.find? key) =
        (projectionOf? none projection).bind fun shown => shown.find? key) ↔
      others ⊆ mentioned) := by
  intro others mentioned
  have same : selected columns = selected others := by
    rw [selected, selected, List.filter_filter]
    simp only [Bool.and_self]
  have keys : (selected columns).map Prod.fst = others := map_fst_selected columns
  refine ⟨?_, ?_, ?_⟩
  · rw [projectionOf?_eq_iff, projectionOf, projectionOf, Option.getD_some, Option.getD_some, same]
  · rw [projectionOf?_eq_iff, ← keys]
    exact OrderedMap.ofList_append_eq_iff _ _
  · simp only [find?_projectionOf?]
    rw [← keys]
    exact OrderedMap.find?_ofList_append_iff _ _

/-- A column beside `*` narrows the result to itself, where `*` by itself and no columns at all show
    every column. -/
theorem star_beside_a_column_narrows :
    projectionOf? (some ["*", "a"]) none = some ⟨[("a", .int32 1)]⟩ ∧
    projectionOf? (some ["*", "a"]) none ≠ projectionOf? none none ∧
    projectionOf? (some ["*"]) none = projectionOf? none none :=
  ⟨rfl, nofun, rfl⟩

end DocQuery
