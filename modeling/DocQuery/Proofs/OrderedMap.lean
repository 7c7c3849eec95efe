import Mathlib.Data.List.Nodup
import DocQuery.OrderedMap

/- What many writes make of a map, and when two maps are the same. After `insertAll` the keys are
   the old ones and then the new ones in the order of their first arrival (`keys_insertAll`), and
   under each key stands what was written last (`find?_insertAll`). Since a map that names each key
   once is determined by its keys and by what it has under them (`ext_find?`), the two laws say
   everything about the result. So a map from a list has each key in its first place and with its
   last value (`ofList_eq`), and it can be told when the beginning of the list leaves no trace
   (`ofList_append_eq_iff`). -/

namespace DocQuery.OrderedMap

variable {α : Type}

theorem distinct_empty : (empty : OrderedMap α).Distinct := List.nodup_nil

theorem distinct_single (key : String) (value : α) : (single key value).Distinct :=
  List.nodup_singleton key

theorem Distinct.insert? {m : OrderedMap α} (h : m.Distinct) (key : String) (value? : Option α) :
    (m.insert? key value?).Distinct := by
  cases value? with
  | none => exact h
  | some value => exact h.insert key value

/-! ## Many writes -/

theorem insertAll_cons (m : OrderedMap α) (entry : String × α) (rest : List (String × α)) :
    m.insertAll (entry :: rest) = (m.insert entry.1 entry.2).insertAll rest := rfl

/-- Keys that were there keep their places, and new ones follow in the order of their first
    arrival. -/
theorem keys_insertAll (m : OrderedMap α) (extra : List (String × α)) :
    (m.insertAll extra).keys =
      m.keys ++ ((extra.map Prod.fst).filter fun key => !m.contains key).eraseDups := by
  induction extra generalizing m with
  | nil => exact (List.append_nil _).symm
  | cons entry rest ih =>
    rw [insertAll_cons, ih, keys_insert, List.map_cons]
    by_cases known : entry.1 ∈ m.keys
    · -- The first write adds no key, so the same later ones are new.
      have same : ∀ key, (m.insert entry.1 entry.2).contains key = m.contains key := by
        intro key
        rw [Bool.eq_iff_iff, contains_iff_mem, contains_iff_mem, keys_insert, if_pos known]
      have here := (m.contains_iff_mem entry.1).mpr known
      rw [if_pos known, List.filter_cons_of_neg (by simp [here])]
      simp only [same]
    · -- The first write adds a key, which is new no longer: `eraseDups` takes it out of the rest.
      have more : ∀ key,
          (!(m.insert entry.1 entry.2).contains key) = (!(key == entry.1) && !m.contains key) := by
        intro key
        rw [← Bool.not_or, Bool.not_inj_iff, Bool.eq_iff_iff, contains_iff_mem, keys_insert,
          if_neg known, List.mem_append, List.mem_singleton, Bool.or_eq_true, contains_iff_mem,
          beq_iff_eq, or_comm]
      have absent : m.contains entry.1 = false := by
        rw [Bool.eq_false_iff, ne_eq, contains_iff_mem]
        exact known
      rw [if_neg known, List.filter_cons_of_pos (by simp [absent]), List.eraseDups_cons,
        List.filter_filter, List.append_assoc, List.singleton_append]
      simp only [more]

/-- Writing goes on with the keys of a list in the order of their first arrival. -/
theorem keys_insertAll_eraseDups {m : OrderedMap α} {keys : List String}
    (h : m.keys = keys.eraseDups) (extra : List (String × α)) :
    (m.insertAll extra).keys = (keys ++ extra.map Prod.fst).eraseDups := by
  have known : ∀ key, m.contains key = keys.contains key := by
    intro key
    rw [Bool.eq_iff_iff, contains_iff_mem, h, List.mem_eraseDups, List.contains_iff_mem]
  rw [keys_insertAll, List.eraseDups_append, h, List.removeAll]
  simp only [known, List.elem_eq_contains]

theorem mem_keys_of_find? {m : OrderedMap α} {key : String} {value : α}
    (found : m.find? key = some value) : key ∈ m.keys := by
  by_contra absent
  rw [(m.find?_eq_none_iff key).mpr absent] at found
  cases found

theorem exists_find?_of_mem_keys {m : OrderedMap α} {key : String} (listed : key ∈ m.keys) :
    ∃ value, m.find? key = some value :=
  Option.ne_none_iff_exists'.mp fun absent => (m.find?_eq_none_iff key).mp absent listed

theorem find?_insert (m : OrderedMap α) (key other : String) (value : α) :
    (m.insert key value).find? other = if other = key then some value else m.find? other := by
  split
  · next same => rw [same, find?_insert_self]
  · next apart => exact find?_insert_of_ne m apart value

/-- Under each key stands what was written there last. -/
theorem find?_insertAll (m : OrderedMap α) (extra : List (String × α)) (key : String) :
    (m.insertAll extra).find? key = (extra.reverse.lookup key).or (m.find? key) := by
  induction extra generalizing m with
  | nil => rfl
  | cons entry rest ih =>
    obtain ⟨written, value⟩ := entry
    rw [insertAll_cons, ih, List.reverse_cons, List.lookup_append, Option.or_assoc, find?_insert]
    congr 1
    by_cases same : key = written
    · simp [same]
    · have skip : (key == written) = false := by simpa using same
      simp [List.lookup_cons, skip, same]

/-- Writing a function of the keys. -/
theorem find?_insertAll_map (m : OrderedMap α) (f : String → α) (keys : List String)
    (key : String) :
    (m.insertAll (keys.map fun k => (k, f k))).find? key =
      if key ∈ keys then some (f key) else m.find? key := by
  induction keys generalizing m with
  | nil => rfl
  | cons first rest ih =>
    rw [List.map_cons, insertAll_cons, ih, find?_insert]
    by_cases later : key ∈ rest
    · simp [later]
    · by_cases same : key = first
      · simp [same]
      · simp [later, same]

/-! ## Each key once -/

/-- In a map that names each key once, a key has the value that it stands beside. -/
theorem find?_eq_some_iff {m : OrderedMap α} (distinct : m.Distinct) {key : String} {value : α} :
    m.find? key = some value ↔ (key, value) ∈ m.entries := by
  constructor
  · intro found
    obtain ⟨before, after, split, _⟩ := entries_insert_of_find? found
    rw [split]
    exact List.mem_append_right _ List.mem_cons_self
  · intro listed
    obtain ⟨before, after, split⟩ := List.append_of_mem listed
    refine List.lookup_eq_some_iff.mpr ⟨before, after, split, ?_⟩
    -- No earlier entry has the key, since it stands here.
    intro e he
    rw [Distinct, OrderedMap.keys, split, List.map_append, List.nodup_append] at distinct
    have apart := distinct.2.2 e.1 (List.mem_map_of_mem he) key List.mem_cons_self
    simpa using apart.symm

/-- Writing the entries of a map that names each key once covers what was there. -/
theorem find?_insertAll_entries (m : OrderedMap α) {extra : OrderedMap α}
    (distinct : extra.Distinct) (key : String) :
    (m.insertAll extra.entries).find? key = (extra.find? key).or (m.find? key) := by
  have backwards : (⟨extra.entries.reverse⟩ : OrderedMap α).Distinct := by
    rw [Distinct, OrderedMap.keys, List.map_reverse, List.nodup_reverse]
    exact distinct
  have same : extra.entries.reverse.lookup key = extra.find? key := by
    ext value
    rw [find?_eq_some_iff distinct, ← List.mem_reverse]
    exact find?_eq_some_iff backwards
  rw [find?_insertAll, same]

/-! ## Equality -/

/-- A map that names each key once is determined by its keys and what it has under them. -/
theorem ext_find? {m n : OrderedMap α} (distinct : m.Distinct) (keys : m.keys = n.keys)
    (values : ∀ key, m.find? key = n.find? key) : m = n := by
  obtain ⟨es⟩ := m
  obtain ⟨fs⟩ := n
  congr
  unfold Distinct at distinct
  simp only [OrderedMap.keys, find?] at distinct keys values
  induction es generalizing fs with
  | nil => exact (List.map_eq_nil_iff.mp keys.symm).symm
  | cons e es ih =>
    cases fs with
    | nil => cases keys
    | cons f fs =>
      obtain ⟨key, value⟩ := e
      obtain ⟨key', value'⟩ := f
      rw [List.map_cons, List.map_cons] at keys
      obtain ⟨same, rest⟩ := List.cons.inj keys
      dsimp only at same
      subst same
      rw [List.map_cons, List.nodup_cons] at distinct
      have first := values key
      rw [List.lookup_cons_self, List.lookup_cons_self] at first
      have tails : es = fs := by
        apply ih distinct.2 fs rest
        intro other
        by_cases here : other = key
        · -- The key stands in front and nowhere else.
          subst here
          have absent : ∀ l : List (String × α), l.map Prod.fst = es.map Prod.fst →
              l.lookup other = none := by
            intro l hl
            refine (find?_eq_none_iff ⟨l⟩ other).mpr ?_
            change other ∉ l.map Prod.fst
            rw [hl]
            exact distinct.1
          rw [absent es rfl, absent fs rest.symm]
        · have skip : (other == key) = false := by simpa using here
          have found := values other
          rwa [List.lookup_cons, List.lookup_cons, skip] at found
      rw [tails, Option.some.inj first]

/-! ## Writing a function of new keys -/

theorem lookup_map (f : String → α) (keys : List String) (key : String) :
    (keys.map fun k => (k, f k)).lookup key = if key ∈ keys then some (f key) else none := by
  by_cases listed : key ∈ keys
  · rw [if_pos listed, List.lookup_graph f listed]
  · rw [if_neg listed]
    refine (find?_eq_none_iff ⟨keys.map fun k => (k, f k)⟩ key).mpr ?_
    simpa [OrderedMap.keys] using listed

/-- New keys are written behind the old ones, each once and in the order of their first arrival. -/
theorem entries_insertAll_map {m : OrderedMap α} (distinct : m.Distinct) (f : String → α)
    {keys : List String} (fresh : ∀ key ∈ keys, key ∉ m.keys) :
    (m.insertAll (keys.map fun k => (k, f k))).entries =
      m.entries ++ keys.eraseDups.map fun k => (k, f k) := by
  have whole : m.insertAll (keys.map fun k => (k, f k)) =
      ⟨m.entries ++ keys.eraseDups.map fun k => (k, f k)⟩ := by
    apply ext_find? (distinct.insertAll _)
    · have written : (keys.map fun k => (k, f k)).map Prod.fst = keys := by
        simp [Function.comp_def]
      have new : ∀ key ∈ keys, (!m.contains key) = true := by
        intro key hk
        rw [Bool.not_eq_true', Bool.eq_false_iff, ne_eq, contains_iff_mem]
        exact fresh key hk
      rw [keys_insertAll, written, List.filter_eq_self.mpr new]
      simp [OrderedMap.keys, Function.comp_def]
    · intro key
      change _ = (m.entries ++ _).lookup key
      rw [find?_insertAll_map, List.lookup_append, lookup_map]
      simp only [List.mem_eraseDups]
      by_cases listed : key ∈ keys
      · have absent : m.entries.lookup key = none :=
          (m.find?_eq_none_iff key).mpr (fresh key listed)
        simp [listed, absent]
      · simp [listed, find?]
  rw [whole]

theorem ofList_map (f : String → α) (keys : List String) :
    ofList (keys.map fun k => (k, f k)) = ⟨keys.eraseDups.map fun k => (k, f k)⟩ :=
  congrArg mk (entries_insertAll_map distinct_empty f fun _ _ => List.not_mem_nil)

/-- A map from a list names the keys of the list in the order of their first arrival. -/
theorem keys_ofList (entries : List (String × α)) :
    (ofList entries).keys = (entries.map Prod.fst).eraseDups := by
  have new : ∀ key ∈ entries.map Prod.fst, (!(empty : OrderedMap α).contains key) = true :=
    fun _ _ => rfl
  rw [ofList, keys_insertAll, keys_empty, List.nil_append, List.filter_eq_self.mpr new]

/-! ## First arrivals -/

/-- Induction along `eraseDups`: behind an element the list goes on without it. -/
theorem eraseDups_induction {P : List String → Prop} (nil : P [])
    (cons : ∀ a rest, P (rest.filter fun b => !b == a) → P (a :: rest)) (l : List String) :
    P l := by
  induction size : l.length using Nat.strongRecOn generalizing l with
  | ind n ih =>
    cases l with
    | nil => exact nil
    | cons a rest =>
      have shorter : (rest.filter fun b => !b == a).length < n := by
        have kept := List.length_filter_le (fun b => !b == a) rest
        rw [List.length_cons] at size
        omega
      exact cons a rest (ih _ shorter _ rfl)

/-- What is left out of a list is left out of its first arrivals. -/
theorem eraseDups_filter (p : String → Bool) (l : List String) :
    (l.filter p).eraseDups = l.eraseDups.filter p := by
  induction l using eraseDups_induction with
  | nil => rfl
  | cons a rest ih =>
    rw [List.eraseDups_cons]
    cases kept : p a with
    | true =>
      rw [List.filter_cons_of_pos kept, List.filter_cons_of_pos kept, List.eraseDups_cons, ← ih,
        List.filter_filter, List.filter_filter]
      simp only [Bool.and_comm]
    | false =>
      -- The filter leaves out `a` already.
      have out : ∀ b, (p b && !b == a) = p b := by
        intro b
        by_cases same : b = a
        · simp [same, kept]
        · simp [same]
      rw [List.filter_cons_of_neg (by simp [kept]), List.filter_cons_of_neg (by simp [kept]),
        ← ih, List.filter_filter]
      simp only [out]

/-- First arrivals arrive once each. -/
theorem eraseDups_eraseDups (l : List String) : l.eraseDups.eraseDups = l.eraseDups := by
  induction l using eraseDups_induction with
  | nil => rfl
  | cons a rest ih =>
    rw [List.eraseDups_cons, List.eraseDups_cons, ← eraseDups_filter, List.filter_filter]
    simp only [Bool.and_self]
    rw [ih]

/-! ## Maps from lists -/

theorem find?_ofList (entries : List (String × α)) (key : String) :
    (ofList entries).find? key = entries.reverse.lookup key := by
  rw [ofList, find?_insertAll, find?_empty, Option.or_none]

/-- A map from a list has each key once, in its first place and with its last value. -/
theorem ofList_eq (entries : List (String × α)) (other : α) :
    ofList entries = ⟨(entries.map Prod.fst).eraseDups.map fun key =>
      (key, (entries.reverse.lookup key).getD other)⟩ := by
  apply ext_find? (distinct_ofList entries)
  · rw [keys_ofList]
    simp [keys, Function.comp_def]
  · intro key
    show _ = List.lookup _ _
    rw [lookup_map, ← keys_ofList]
    split
    · next listed =>
      obtain ⟨value, found⟩ := exists_find?_of_mem_keys listed
      rw [found, ← find?_ofList, found, Option.getD_some]
    · next absent => exact (find?_eq_none_iff _ key).mpr absent

/-- To write the map from a list is to write the list. -/
theorem ofList_append_entries_ofList (front back : List (String × α)) :
    ofList (front ++ (ofList back).entries) = ofList (front ++ back) := by
  have keys : (ofList back).entries.map Prod.fst = (back.map Prod.fst).eraseDups :=
    keys_ofList back
  apply ext_find? (distinct_ofList _)
  · rw [keys_ofList, keys_ofList, List.map_append, List.map_append, List.eraseDups_append,
      List.eraseDups_append, keys, List.removeAll, List.removeAll, ← eraseDups_filter,
      eraseDups_eraseDups]
  · intro key
    rw [ofList, insertAll, List.foldl_append]
    change ((ofList front).insertAll (ofList back).entries).find? key = _
    rw [find?_insertAll_entries _ (distinct_ofList back), find?_ofList, find?_ofList, find?_ofList,
      List.reverse_append, List.lookup_append]

/-- Entries that are written first leave no trace in look-ups if all their keys come again. -/
theorem find?_ofList_append_iff (front back : List (String × α)) :
    (∀ key, (ofList (front ++ back)).find? key = (ofList back).find? key) ↔
      front.map Prod.fst ⊆ back.map Prod.fst := by
  constructor
  · intro same key listed
    have here : key ∈ (ofList (front ++ back)).keys := by
      rw [keys_ofList, List.mem_eraseDups, List.map_append]
      exact List.mem_append_left _ listed
    obtain ⟨value, found⟩ := exists_find?_of_mem_keys here
    rw [same key] at found
    have there := mem_keys_of_find? found
    rwa [keys_ofList, List.mem_eraseDups] at there
  · intro again key
    rw [find?_ofList, find?_ofList, List.reverse_append, List.lookup_append]
    cases found : back.reverse.lookup key with
    | some value => rfl
    | none =>
      -- The key is not among the later ones, and so not among the first.
      have absent : key ∉ back.map Prod.fst := by
        rw [← List.mem_eraseDups, ← keys_ofList, ← find?_eq_none_iff, find?_ofList]
        exact found
      have absent' : key ∉ (ofList front).keys := by
        rw [keys_ofList, List.mem_eraseDups]
        exact fun listed => absent (again listed)
      rw [← find?_eq_none_iff, find?_ofList] at absent'
      rw [absent', Option.or_none]

/-- Entries that are written first leave no trace if their keys, in the order of their first
    arrival, are those with which the later ones begin. -/
theorem ofList_append_eq_iff (front back : List (String × α)) :
    ofList (front ++ back) = ofList back ↔
      (front.map Prod.fst).eraseDups <+: (back.map Prod.fst).eraseDups := by
  have keys : (ofList (front ++ back)).keys = (front.map Prod.fst).eraseDups ++
      (back.map Prod.fst).eraseDups.filter fun key => !(front.map Prod.fst).elem key := by
    rw [keys_ofList, List.map_append, List.eraseDups_append, List.removeAll, eraseDups_filter]
  constructor
  · intro same
    rw [same, keys_ofList] at keys
    rw [keys]
    exact List.prefix_append _ _
  · rintro ⟨rest, split⟩
    have within : front.map Prod.fst ⊆ back.map Prod.fst := by
      intro key listed
      rw [← List.mem_eraseDups, ← split]
      exact List.mem_append_left _ (List.mem_eraseDups.mpr listed)
    have once : ((front.map Prod.fst).eraseDups ++ rest).Nodup := by
      rw [split, ← keys_ofList]
      exact distinct_ofList back
    have apart : ∀ key ∈ rest, (!(front.map Prod.fst).elem key) = true := by
      intro key late
      simp only [Bool.not_eq_true', Bool.eq_false_iff, ne_eq, List.elem_iff]
      intro early
      exact (List.nodup_append.mp once).2.2 key (List.mem_eraseDups.mpr early) key late rfl
    have none : ∀ key ∈ (front.map Prod.fst).eraseDups,
        ¬(!(front.map Prod.fst).elem key) = true := by
      intro key early
      simpa using List.mem_eraseDups.mp early
    apply ext_find? (distinct_ofList _)
    · rw [keys, keys_ofList, ← split, List.filter_append, List.filter_eq_self.mpr apart,
        List.filter_eq_nil_iff.mpr none, List.nil_append]
    · exact (find?_ofList_append_iff front back).mpr within

/-! ## Writing what is there -/

/-- The map of the values that are there, each under its key and in the order of the list. -/
def ofPresent (options : List (String × Option α)) : OrderedMap α :=
  ⟨options.filterMap fun option => option.2.map fun value => (option.1, value)⟩

theorem ofPresent_cons (option : String × Option α) (rest : List (String × Option α)) :
    (ofPresent (option :: rest)).entries =
      (option.2.map fun value => (option.1, value)).toList ++ (ofPresent rest).entries := by
  obtain ⟨key, value?⟩ := option
  cases value? <;> rfl

theorem entries_insert?_of_not_mem {m : OrderedMap α} {key : String} (value? : Option α)
    (h : key ∉ m.keys) :
    (m.insert? key value?).entries = m.entries ++ (value?.map fun value => (key, value)).toList := by
  cases value? with
  | none => exact (List.append_nil _).symm
  | some value => exact congrArg entries (insert_of_not_mem value h)

theorem mem_keys_insert? {m : OrderedMap α} {key other : String} {value? : Option α}
    (h : other ∈ (m.insert? key value?).keys) : other ∈ m.keys ∨ other = key := by
  cases value? with
  | none => exact .inl h
  | some value => exact (mem_keys_insert m key other value).mp h

/-- New keys that come once each are written behind all others if there is a value for them. -/
theorem entries_foldl_insert? {m : OrderedMap α} {options : List (String × Option α)}
    (once : (options.map Prod.fst).Nodup) (fresh : ∀ key ∈ options.map Prod.fst, key ∉ m.keys) :
    (options.foldl (fun acc option => acc.insert? option.1 option.2) m).entries =
      m.entries ++ (ofPresent options).entries := by
  induction options generalizing m with
  | nil => simp [ofPresent]
  | cons option rest ih =>
    rw [List.map_cons, List.nodup_cons] at once
    have new : option.1 ∉ m.keys := fresh option.1 List.mem_cons_self
    have later : ∀ key ∈ rest.map Prod.fst, key ∉ (m.insert? option.1 option.2).keys := by
      intro key listed known
      rcases mem_keys_insert? known with old | rfl
      · exact fresh key (List.mem_cons_of_mem _ listed) old
      · exact once.1 listed
    rw [List.foldl_cons, ih once.2 later, entries_insert?_of_not_mem option.2 new, ofPresent_cons,
      List.append_assoc]

/-- Writing a list of new keys gives the map of the values that are there. -/
theorem foldl_insert?_eq_ofPresent {options : List (String × Option α)}
    (once : (options.map Prod.fst).Nodup) :
    options.foldl (fun acc option => acc.insert? option.1 option.2) empty = ofPresent options :=
  congrArg mk (entries_foldl_insert? once fun _ _ => List.not_mem_nil)

/-- Under each key stands its value, if there is one. -/
theorem find?_ofPresent {options : List (String × Option α)}
    (once : (options.map Prod.fst).Nodup) (key : String) :
    (ofPresent options).find? key = (options.lookup key).join := by
  unfold find?
  induction options with
  | nil => rfl
  | cons option rest ih =>
    obtain ⟨first, value?⟩ := option
    rw [List.map_cons, List.nodup_cons] at once
    rw [ofPresent_cons, List.lookup_append, ih once.2]
    by_cases same : key = first
    · -- The key stands here and nowhere else.
      subst same
      have absent : rest.lookup key = none :=
        ((⟨rest⟩ : OrderedMap (Option α)).find?_eq_none_iff key).mpr once.1
      cases value? <;> simp [absent]
    · have skip : (key == first) = false := by simpa using same
      cases value? <;> simp [List.lookup_cons, skip]

end DocQuery.OrderedMap
