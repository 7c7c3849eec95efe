import DocQuery.Proofs.OrderedMap
import DocQuery.Query.Compile

/- The options of commands. Each kind of command takes its options in a fixed order and leaves out
   those that are not set, so its options are the map of the values that are there
   (`findOptions_eq` and its siblings), and nothing that is not listed has a say in them. Numbers
   are written as integers of the store, up to the largest that there is (`Bson.int?_ofCount`). -/

namespace DocQuery

/-! ## Numbers -/

/-- The integer that a stored value encodes. -/
def Bson.int? : Bson → Option Int
  | .int32 n => some n.toInt
  | .int64 n => some n.toInt
  | _ => none

/-- The narrower encoding keeps the integer. -/
theorem Bson.int?_ofInt (n : Int64) : (ofInt n).int? = some n.toInt := by
  unfold ofInt
  split
  · next fits =>
    have kept : n.toInt32.toInt = n.toInt := by
      rw [Int64.toInt_toInt32]
      exact Int.bmod_eq_of_le (by omega) (by omega)
    exact congrArg some kept
  · rfl

theorem Bson.int?_ofCount (n : UInt64) :
    (ofCount n).int? = some ((min n.toNat 9223372036854775807 : Nat) : Int) := by
  have kept : (Int64.ofNat (min n.toNat 9223372036854775807)).toInt =
      (min n.toNat 9223372036854775807 : Nat) :=
    Int64.toInt_ofNat_of_lt (by omega)
  rw [ofCount, int?_ofInt, kept]

/-! ## The options of each kind of command -/

namespace Query

/-- The options of a search in their order, with those values that are set. -/
def searchOptions (q : Query) : List (String × Option Bson) :=
  [("limit", q.limit.map .ofCount), ("skip", q.offset.map .ofCount),
    ("projection", (projectionOf? q.columns q.projection).map .document),
    ("sort", (sortOf? q.orders).map .document), ("hint", q.options.hint),
    ("maxTimeMS", q.options.timeLimitMs.map .ofCount),
    ("comment", q.options.comment.map .string)]

theorem nodup_searchOptions (q : Query) : (q.searchOptions.map Prod.fst).Nodup := by
  simp [searchOptions]

theorem findOptions_eq (q : Query) : q.findOptions = .ofPresent q.searchOptions := by
  rw [← OrderedMap.foldl_insert?_eq_ofPresent q.nodup_searchOptions]
  rfl

/-- Under each key a search has the value that is listed for it, if that is set. -/
theorem find?_findOptions (q : Query) (key : String) :
    q.findOptions.find? key = (q.searchOptions.lookup key).join := by
  rw [findOptions_eq, OrderedMap.find?_ofPresent q.nodup_searchOptions]

theorem aggregateOptions_eq (q : Query) :
    q.aggregateOptions = .ofPresent
      [("allowDiskUse", q.options.diskUse.map .bool), ("hint", q.options.hint),
        ("maxTimeMS", q.options.timeLimitMs.map .ofCount),
        ("comment", q.options.comment.map .string)] := by
  rw [← OrderedMap.foldl_insert?_eq_ofPresent (by simp)]
  rfl

theorem distinctOptions_eq (q : Query) :
    q.distinctOptions = .ofPresent
      [("maxTimeMS", q.options.timeLimitMs.map .ofCount),
        ("comment", q.options.comment.map .string)] := by
  rw [← OrderedMap.foldl_insert?_eq_ofPresent (by simp)]
  rfl

/-! ## The options of a search -/

theorem options_of_compile_eq_find {q : Query} {name collection : String}
    {filter options : Document} (h : q.compile name = .find collection filter options) :
    options = q.findOptions := by
  unfold compile at h
  split at h
  · cases h
  · split at h
    · cases h
      rfl
    · cases h

end Query

/-! ## Orders -/

/-- Absent orders and empty ones are no orders. -/
theorem sortOf?_eq (orders : Option (List OrderClause)) :
    sortOf? orders =
      if orders.getD [] = [] then none else some (sortOf (orders.getD [])) := by
  match orders with
  | none => rfl
  | some [] => rfl
  | some (_ :: _) => rfl

/-- The keys of a sort document are the columns in the order of first mention. -/
theorem keys_sortOf (orders : List OrderClause) :
    (sortOf orders).keys = (orders.map OrderClause.column).eraseDups := by
  rw [sortOf, OrderedMap.keys_ofList, List.map_map]
  rfl

end DocQuery
