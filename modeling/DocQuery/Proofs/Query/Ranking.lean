import DocQuery.Proofs.Query.Options

/- How the results of a search are ranked. A list of sort keys ranks two documents by the first key
   that tells them apart, so a key that compares by the same thing as an earlier one has no say
   (`Ranking.rank_decisive`), and nothing else is without a say: lists of keys that differ in more
   than that are told apart by some ranking (`Ranking.eq_of_rank_eq`). A sort document has each
   column once, in its first place and with its last direction (`compiledKeys_eq`), which is not
   always how the orders rank. Main statement: `sort_ranks_as_orders_iff`. -/

namespace DocQuery

/-- What stored documents can be compared by. -/
inductive Criterion where
  | column (name : String)
  | metadata (spec : Document)

/-- A criterion, and whether the greatest comes first. -/
structure SortKey where
  criterion : Criterion
  isDescending : Bool

/-- How stored documents compare by each column and by each metadata document. -/
structure Ranking where
  compare : Criterion → Document → Document → Ordering
  total : ∀ criterion, Std.TransCmp (compare criterion)

namespace Ranking

/-- How two documents compare by one key. -/
def compareBy (r : Ranking) (key : SortKey) (x y : Document) : Ordering :=
  if key.isDescending then r.compare key.criterion y x else r.compare key.criterion x y

/-- The rank of two documents: the first key that tells them apart decides. -/
def rank (r : Ranking) (x y : Document) : List SortKey → Ordering
  | [] => .eq
  | key :: rest => (r.compareBy key x y).then (r.rank x y rest)

end Ranking

/-- The key of an order. Metadata ranks in a direction of its own. -/
def OrderClause.sortKey (order : OrderClause) : SortKey :=
  match order.direction with
  | .ascending => ⟨.column order.column, false⟩
  | .descending => ⟨.column order.column, true⟩
  | .metadata spec => ⟨.metadata spec, false⟩

/-- The key that an entry of a sort document stands for. -/
def sortKeyOf? : String × Bson → Option SortKey
  | (column, .int32 n) =>
    if n = 1 then some ⟨.column column, false⟩
    else if n = -1 then some ⟨.column column, true⟩
    else none
  | (_, .document spec) => some ⟨.metadata spec, false⟩
  | _ => none

/-- The keys of a sort document, from left to right. -/
def Document.sortKeys (d : Document) : List SortKey := d.entries.filterMap sortKeyOf?

/-- The keys of the sort document of orders, none if there is no such document. -/
def compiledKeys (orders : List OrderClause) : List SortKey :=
  ((sortOf? (some orders)).map Document.sortKeys).getD []

/-! ## Keys without a say -/

namespace Ranking

variable {r : Ranking} {x y : Document}

/-- Whether a key tells two documents apart does not depend on its direction. -/
theorem compareBy_eq_iff {key other : SortKey} (same : key.criterion = other.criterion) :
    r.compareBy key x y = .eq ↔ r.compareBy other x y = .eq := by
  have : Std.TransCmp (r.compare other.criterion) := r.total other.criterion
  have swapped : r.compare other.criterion y x = .eq ↔ r.compare other.criterion x y = .eq :=
    Std.OrientedCmp.eq_comm
  unfold compareBy
  rw [same]
  cases key.isDescending <;> cases other.isDescending <;> simp [swapped]

/-- Keys that do not tell two documents apart can be left out. -/
theorem rank_map_filter {α : Type} {f : α → SortKey} {l : List α} {p : α → Bool}
    (silent : ∀ a ∈ l, p a = false → r.compareBy (f a) x y = .eq) :
    r.rank x y ((l.filter p).map f) = r.rank x y (l.map f) := by
  induction l with
  | nil => rfl
  | cons a rest ih =>
    have later := ih fun b hb => silent b (List.mem_cons_of_mem _ hb)
    cases kept : p a with
    | true => rw [List.filter_cons_of_pos kept, List.map_cons, List.map_cons, rank, rank, later]
    | false =>
      rw [List.filter_cons_of_neg (by simp [kept]), List.map_cons, rank, later,
        silent a List.mem_cons_self kept]
      rfl

/-- Behind a key, those that compare by the same thing can be left out. -/
theorem rank_cons_map_filter (key : SortKey) {α : Type} {f : α → SortKey} {l : List α}
    {p : α → Bool} (same : ∀ a ∈ l, p a = false → (f a).criterion = key.criterion) :
    r.rank x y (key :: (l.filter p).map f) = r.rank x y (key :: l.map f) := by
  rw [rank, rank]
  cases first : r.compareBy key x y with
  | lt | gt => rfl
  | eq =>
    rw [rank_map_filter]
    exact fun a ha out => (compareBy_eq_iff (same a ha out)).mpr first

/-- A list with the first of equal elements only ranks as the list does. -/
theorem rank_map_eraseDups (f : String → SortKey) (l : List String) :
    r.rank x y (l.eraseDups.map f) = r.rank x y (l.map f) := by
  induction l using OrderedMap.eraseDups_induction with
  | nil => rfl
  | cons a rest ih =>
    rw [List.eraseDups_cons, List.map_cons, List.map_cons, rank, ih, ← rank]
    exact rank_cons_map_filter (f a) fun b _ again => by rw [show b = a by simpa using again]

end Ranking

open Classical in
/-- The keys that compare by something that no earlier key compares by. -/
noncomputable def decisive : List SortKey → List SortKey
  | [] => []
  | key :: rest => key :: (decisive rest).filter fun k => k.criterion ≠ key.criterion

theorem nodup_decisive (keys : List SortKey) :
    ((decisive keys).map SortKey.criterion).Nodup := by
  induction keys with
  | nil => exact List.nodup_nil
  | cons key rest ih =>
    rw [decisive, List.map_cons, List.nodup_cons]
    refine ⟨?_, ih.sublist (List.filter_sublist.map _)⟩
    intro again
    obtain ⟨k, hk, same⟩ := List.mem_map.mp again
    simpa [same] using (List.mem_filter.mp hk).2

open Classical in
/-- The decisive keys rank as all of them do. -/
theorem Ranking.rank_decisive (r : Ranking) (x y : Document) (keys : List SortKey) :
    r.rank x y (decisive keys) = r.rank x y keys := by
  induction keys with
  | nil => rfl
  | cons key rest ih =>
    have shorter := rank_cons_map_filter (r := r) (x := x) (y := y) key (f := id)
      (l := decisive rest) (p := fun k => decide (k.criterion ≠ key.criterion)) (by simp)
    rw [List.map_id, List.map_id] at shorter
    rw [decisive, shorter, rank, rank, ih]

/-! ## Keys with a say -/

namespace Ranking

/-- The ranking that has a verdict of its own for each criterion: how the empty document compares
    with those of one field or more. -/
def ofVerdicts (verdict : Criterion → Ordering) : Ranking where
  compare criterion := compareOn fun d : Document =>
    match verdict criterion with
    | .lt => min d.size 1
    | .eq => 0
    | .gt => 1 - d.size
  total _ := inferInstance

theorem compareBy_ofVerdicts (verdict : Criterion → Ordering) (key : SortKey) :
    (ofVerdicts verdict).compareBy key .empty (.single "" .null) =
      if key.isDescending then (verdict key.criterion).swap else verdict key.criterion := by
  simp only [compareBy, ofVerdicts, compareOn]
  cases verdict key.criterion <;> cases key.isDescending <;> rfl

/-- Keys rank alike where they compare alike. -/
theorem rank_congr {r s : Ranking} {x y : Document} {keys : List SortKey}
    (same : ∀ key ∈ keys, r.compareBy key x y = s.compareBy key x y) :
    r.rank x y keys = s.rank x y keys := by
  induction keys with
  | nil => rfl
  | cons key rest ih =>
    rw [rank, rank, same key List.mem_cons_self, ih fun k hk => same k (List.mem_cons_of_mem _ hk)]

/-- Two lists of keys give the same rank for all verdicts on two documents. -/
def Alike (keys others : List SortKey) : Prop :=
  ∀ verdict, (ofVerdicts verdict).rank .empty (.single "" .null) keys =
    (ofVerdicts verdict).rank .empty (.single "" .null) others

theorem Alike.symm {keys others : List SortKey} (h : Alike keys others) : Alike others keys :=
  fun verdict => (h verdict).symm

theorem not_alike_nil (key : SortKey) (rest : List SortKey) : ¬Alike [] (key :: rest) := by
  intro alike
  have decided := alike fun _ => .lt
  rw [rank, rank, compareBy_ofVerdicts] at decided
  cases down : key.isDescending <;> simp [down] at decided

/-- Lists that rank alike begin with the same key. -/
theorem Alike.head_eq {key other : SortKey} {keys others : List SortKey}
    (alike : Alike (key :: keys) (other :: others)) : key = other := by
  classical
  by_contra apart
  -- The first key says less, and the other one says greater.
  have decided := alike fun criterion =>
    if criterion = key.criterion then if key.isDescending then .gt else .lt
    else if other.isDescending then .lt else .gt
  rw [rank, rank, compareBy_ofVerdicts, compareBy_ofVerdicts, if_pos rfl] at decided
  obtain ⟨criterion, down⟩ := key
  obtain ⟨criterion', down'⟩ := other
  by_cases same : criterion' = criterion
  · subst same
    cases down <;> cases down' <;> simp at decided apart
  · cases down <;> cases down' <;> simp [same] at decided

/-- What comes behind a common first key ranks alike if it compares by other things. -/
theorem Alike.tail {key : SortKey} {keys others : List SortKey}
    (alike : Alike (key :: keys) (key :: others))
    (fresh : key.criterion ∉ keys.map SortKey.criterion)
    (fresh' : key.criterion ∉ others.map SortKey.criterion) : Alike keys others := by
  classical
  intro verdict
  -- The key is silenced, and the others do not notice.
  obtain ⟨silenced, here, elsewhere⟩ : ∃ silenced : Criterion → Ordering,
      silenced key.criterion = .eq ∧ ∀ c ≠ key.criterion, silenced c = verdict c :=
    ⟨Function.update verdict key.criterion .eq, Function.update_self ..,
      fun _ other => Function.update_of_ne other ..⟩
  have silent : (ofVerdicts silenced).compareBy key .empty (.single "" .null) = .eq := by
    rw [compareBy_ofVerdicts, here]
    cases key.isDescending <;> rfl
  have unnoticed : ∀ ks : List SortKey, key.criterion ∉ ks.map SortKey.criterion →
      (ofVerdicts silenced).rank .empty (.single "" .null) ks =
        (ofVerdicts verdict).rank .empty (.single "" .null) ks := by
    intro ks absent
    apply rank_congr
    intro k hk
    have other : k.criterion ≠ key.criterion :=
      fun same => absent (same ▸ List.mem_map_of_mem hk)
    rw [compareBy_ofVerdicts, compareBy_ofVerdicts, elsewhere _ other]
  have decided := alike silenced
  rw [rank, rank, silent] at decided
  rw [← unnoticed keys fresh, ← unnoticed others fresh']
  exact decided

/-- Lists of keys that compare by each thing once are the same if they rank alike. -/
theorem eq_of_alike {keys others : List SortKey} (once : (keys.map SortKey.criterion).Nodup)
    (once' : (others.map SortKey.criterion).Nodup) (alike : Alike keys others) :
    keys = others := by
  induction keys generalizing others with
  | nil =>
    cases others with
    | nil => rfl
    | cons other rest => exact absurd alike (not_alike_nil other rest)
  | cons key rest ih =>
    cases others with
    | nil => exact absurd alike.symm (not_alike_nil key rest)
    | cons other more =>
      obtain rfl := alike.head_eq
      rw [List.map_cons, List.nodup_cons] at once once'
      rw [ih once.2 once'.2 (alike.tail once.1 once'.1)]

end Ranking

/-! ## Sort documents -/

/-- The direction that orders give last for a column. -/
def lastDirection (orders : List OrderClause) (column : String) : Direction :=
  match orders.reverse.find? fun order => order.column == column with
  | some order => order.direction
  | none => .ascending

/-- Each column of the orders once, in its first place and with its last direction. -/
def settled (orders : List OrderClause) : List OrderClause :=
  (orders.map OrderClause.column).eraseDups.map fun column => ⟨column, lastDirection orders column⟩

theorem lookup_map_find? (orders : List OrderClause) (column : String) :
    (orders.map fun order => (order.column, order.direction.toBson)).lookup column =
      (orders.find? fun order => order.column == column).map fun order =>
        order.direction.toBson := by
  induction orders with
  | nil => rfl
  | cons order rest ih =>
    by_cases here : order.column = column
    · simp [here]
    · have skip : (column == order.column) = false := by simpa using fun e => here e.symm
      simp [List.lookup_cons, skip, here, ih]

/-- The last entry that orders write for a column of theirs has its last direction. -/
theorem lookup_reverse_eq {orders : List OrderClause} {column : String}
    (listed : column ∈ orders.map OrderClause.column) :
    (orders.map fun order => (order.column, order.direction.toBson)).reverse.lookup column =
      some (lastDirection orders column).toBson := by
  rw [← List.map_reverse, lookup_map_find?, lastDirection]
  cases found : orders.reverse.find? fun order => order.column == column with
  | some order => rfl
  | none =>
    obtain ⟨order, ho, rfl⟩ := List.mem_map.mp listed
    simpa using List.find?_eq_none.mp found order (List.mem_reverse.mpr ho)

theorem sortOf_eq (orders : List OrderClause) :
    sortOf orders = ⟨(settled orders).map fun order => (order.column, order.direction.toBson)⟩ := by
  have columns : (orders.map fun order => (order.column, order.direction.toBson)).map Prod.fst =
      orders.map OrderClause.column := by
    rw [List.map_map]
    rfl
  rw [sortOf, OrderedMap.ofList_eq _ .null, columns, settled, List.map_map]
  congr 1
  apply List.map_congr_left
  intro column listed
  rw [lookup_reverse_eq (List.mem_eraseDups.mp listed)]
  rfl

theorem sortKeyOf?_order (order : OrderClause) :
    sortKeyOf? (order.column, order.direction.toBson) = some order.sortKey := by
  obtain ⟨column, direction⟩ := order
  cases direction <;> rfl

/-- The keys of a sort document are those of the settled orders. -/
theorem compiledKeys_eq (orders : List OrderClause) :
    compiledKeys orders = (settled orders).map OrderClause.sortKey := by
  cases orders with
  | nil => rfl
  | cons first rest =>
    show (sortOf (first :: rest)).sortKeys = _
    rw [sortOf_eq, Document.sortKeys, List.filterMap_map]
    have each : sortKeyOf? ∘ (fun order : OrderClause => (order.column, order.direction.toBson)) =
        fun order => some order.sortKey := funext sortKeyOf?_order
    rw [each, List.filterMap_eq_map']

/-- A sort document ranks by the settled orders: each column once, in the place where it is
    mentioned first and with the direction that is given last. For every ranking that is the rank
    of the orders themselves exactly if both have the same decisive keys, which they have where no
    column is given two directions. -/
theorem sort_ranks_as_orders_iff (orders : List OrderClause) :
    compiledKeys orders = (settled orders).map OrderClause.sortKey ∧
    ((∀ (r : Ranking) (x y : Document), r.rank x y (compiledKeys orders) =
        r.rank x y (orders.map OrderClause.sortKey)) ↔
      decisive (compiledKeys orders) = decisive (orders.map OrderClause.sortKey)) ∧
    ((∀ a ∈ orders, ∀ b ∈ orders, a.column = b.column → a.direction = b.direction) →
      ∀ (r : Ranking) (x y : Document), r.rank x y (compiledKeys orders) =
        r.rank x y (orders.map OrderClause.sortKey)) := by
  refine ⟨compiledKeys_eq orders, ⟨?_, ?_⟩, ?_⟩
  · intro same
    apply Ranking.eq_of_alike (nodup_decisive _) (nodup_decisive _)
    intro verdict
    rw [Ranking.rank_decisive, Ranking.rank_decisive, same]
  · intro same r x y
    rw [← r.rank_decisive, same, r.rank_decisive]
  · intro once r x y
    -- Each order is the one that the settled orders have for its column.
    let last (column : String) : OrderClause := ⟨column, lastDirection orders column⟩
    have each : ∀ order ∈ orders, last order.column = order := by
      intro order ho
      have direction : lastDirection orders order.column = order.direction := by
        unfold lastDirection
        split
        · next other found =>
          have same : other.column = order.column := by simpa using List.find?_some found
          exact once other (by simpa using List.mem_of_find?_eq_some found) order ho same
        · next none => simpa using List.find?_eq_none.mp none order (List.mem_reverse.mpr ho)
      rw [show last order.column = ⟨order.column, _⟩ from rfl, direction]
    calc r.rank x y (compiledKeys orders)
      _ = r.rank x y ((orders.map OrderClause.column).eraseDups.map
            fun column => (last column).sortKey) := by
        rw [compiledKeys_eq, settled, List.map_map]
        rfl
      _ = r.rank x y ((orders.map OrderClause.column).map fun column => (last column).sortKey) :=
        Ranking.rank_map_eraseDups _ _
      _ = r.rank x y (orders.map OrderClause.sortKey) := by
        rw [List.map_map]
        congr 1
        exact List.map_congr_left fun order ho => congrArg OrderClause.sortKey (each order ho)

/-- A column that is ordered by again in the direction it had is no matter. -/
theorem repeated_direction_keeps_rank :
    compiledKeys [.descending "a", ⟨"score", .metadata .empty⟩, .descending "a"] =
      [⟨.column "a", true⟩, ⟨.metadata .empty, false⟩] ∧
    (Ranking.ofVerdicts fun _ => .lt).rank .empty (.single "" .null)
        (compiledKeys [.descending "a", ⟨"score", .metadata .empty⟩, .descending "a"]) =
      (Ranking.ofVerdicts fun _ => .lt).rank .empty (.single "" .null)
        [⟨.column "a", true⟩, ⟨.metadata .empty, false⟩, ⟨.column "a", true⟩] := by
  obtain ⟨compiled, _, ranked⟩ := sort_ranks_as_orders_iff
    [.descending "a", ⟨"score", .metadata .empty⟩, .descending "a"]
  exact ⟨compiled, ranked (by simp [OrderClause.descending]) _ _ _⟩

/-- A column that is ordered by again in the other direction takes that direction in its old place:
    the documents are ranked by the last word on the column, where the orders rank by the first. -/
theorem last_direction_overrides_first :
    sortOf [.ascending "a", .ascending "b", .descending "a"] =
      ⟨[("a", .int32 (-1)), ("b", .int32 1)]⟩ ∧
    (Ranking.ofVerdicts fun _ => .lt).rank .empty (.single "" .null)
      (compiledKeys [.ascending "a", .ascending "b", .descending "a"]) = .gt ∧
    (Ranking.ofVerdicts fun _ => .lt).rank .empty (.single "" .null)
      ([OrderClause.ascending "a", .ascending "b", .descending "a"].map OrderClause.sortKey) =
        .lt :=
  ⟨rfl, rfl, rfl⟩

end DocQuery
