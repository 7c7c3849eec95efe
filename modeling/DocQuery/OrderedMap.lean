/- Maps from strings that remember the order in which their keys first arrived. Writing a known
   key replaces its value and keeps its place; writing a new key puts it at the end. The lemmas
   say what `insert` does to look-up, to the list of keys and to their distinctness. -/

namespace DocQuery

/-- A list of named values. Every map built with `insert` from `empty` names each key once
    (`Distinct`); maps handed in from outside are built the same way, with `ofList`. -/
structure OrderedMap (α : Type) where
  entries : List (String × α)
  deriving DecidableEq, Repr

namespace OrderedMap

variable {α : Type}

/-- The map without keys. -/
def empty : OrderedMap α := ⟨[]⟩

instance : Inhabited (OrderedMap α) := ⟨empty⟩

/-- The map with one key. -/
def single (key : String) (value : α) : OrderedMap α := ⟨[(key, value)]⟩

def isEmpty (m : OrderedMap α) : Bool := m.entries.isEmpty

def size (m : OrderedMap α) : Nat := m.entries.length

/-- The keys in the order of their first arrival. -/
def keys (m : OrderedMap α) : List String := m.entries.map Prod.fst

/-- The value under a key, if the key is there. -/
def find? (m : OrderedMap α) (key : String) : Option α := m.entries.lookup key

def contains (m : OrderedMap α) (key : String) : Bool := m.keys.contains key

/-- Writes a key in a list of entries: in place if it is known, at the end if it is new. -/
def insertEntry (key : String) (value : α) : List (String × α) → List (String × α)
  | [] => [(key, value)]
  | (k, v) :: rest =>
    if k = key then (k, value) :: rest else (k, v) :: insertEntry key value rest

/-- Writes a key: a known key keeps its place and takes the new value, a new key goes last. -/
def insert (m : OrderedMap α) (key : String) (value : α) : OrderedMap α :=
  ⟨insertEntry key value m.entries⟩

/-- Writes every entry of a list, from the first to the last. -/
def insertAll (m : OrderedMap α) (extra : List (String × α)) : OrderedMap α :=
  extra.foldl (fun acc entry => acc.insert entry.1 entry.2) m

/-- The map that results from writing a list of entries in order. -/
def ofList (entries : List (String × α)) : OrderedMap α := empty.insertAll entries

/-- Writes a key only if there is a value for it. -/
def insert? (m : OrderedMap α) (key : String) (value? : Option α) : OrderedMap α :=
  match value? with
  | some value => m.insert key value
  | none => m

/-- No key occurs twice. -/
def Distinct (m : OrderedMap α) : Prop := m.keys.Nodup

instance (m : OrderedMap α) : Decidable m.Distinct :=
  inferInstanceAs (Decidable m.keys.Nodup)

/-! ## Look-up -/

@[simp] theorem find?_empty (key : String) : (empty : OrderedMap α).find? key = none := rfl

@[simp] theorem keys_empty : (empty : OrderedMap α).keys = [] := rfl

theorem lookup_insertEntry_self (key : String) (value : α) (entries : List (String × α)) :
    (insertEntry key value entries).lookup key = some value := by
  induction entries with
  | nil => simp [insertEntry]
  | cons entry rest ih =>
    obtain ⟨k, v⟩ := entry
    by_cases h : k = key
    · simp [insertEntry, h]
    · have h' : (key == k) = false := by simpa using fun e => h e.symm
      simp [insertEntry, h, List.lookup_cons, h', ih]

theorem lookup_insertEntry_of_ne {key other : String} (h : other ≠ key) (value : α)
    (entries : List (String × α)) :
    (insertEntry key value entries).lookup other = entries.lookup other := by
  induction entries with
  | nil =>
    have h' : (other == key) = false := by simpa using h
    simp [insertEntry, List.lookup_cons, h']
  | cons entry rest ih =>
    obtain ⟨k, v⟩ := entry
    by_cases hk : k = key
    · subst hk
      have h' : (other == k) = false := by simpa using h
      simp [insertEntry, List.lookup_cons, h']
    · simp [insertEntry, hk, List.lookup_cons, ih]

@[simp] theorem find?_insert_self (m : OrderedMap α) (key : String) (value : α) :
    (m.insert key value).find? key = some value :=
  lookup_insertEntry_self key value m.entries

theorem find?_insert_of_ne (m : OrderedMap α) {key other : String} (h : other ≠ key) (value : α) :
    (m.insert key value).find? other = m.find? other :=
  lookup_insertEntry_of_ne h value m.entries

/-! ## Keys -/

theorem keys_insertEntry (key : String) (value : α) (entries : List (String × α)) :
    (insertEntry key value entries).map Prod.fst =
      if key ∈ entries.map Prod.fst then entries.map Prod.fst
      else entries.map Prod.fst ++ [key] := by
  induction entries with
  | nil => simp [insertEntry]
  | cons entry rest ih =>
    obtain ⟨k, v⟩ := entry
    by_cases hk : k = key
    · simp [insertEntry, hk]
    · have hk' : ¬ key = k := fun e => hk e.symm
      by_cases hm : key ∈ rest.map Prod.fst
      · simp only [insertEntry, if_neg hk, List.map_cons, List.mem_cons, ih, if_pos hm,
          if_pos (Or.inr hm)]
      · simp only [insertEntry, if_neg hk, List.map_cons, List.mem_cons, ih, if_neg hm, hk',
          false_or, List.cons_append]

/-- Writing keeps the keys and their order, and a new key goes last. -/
theorem keys_insert (m : OrderedMap α) (key : String) (value : α) :
    (m.insert key value).keys = if key ∈ m.keys then m.keys else m.keys ++ [key] :=
  keys_insertEntry key value m.entries

@[simp] theorem mem_keys_insert (m : OrderedMap α) (key other : String) (value : α) :
    other ∈ (m.insert key value).keys ↔ other ∈ m.keys ∨ other = key := by
  rw [keys_insert]
  split
  · next h => exact ⟨Or.inl, fun h' => h'.elim id (fun e => e ▸ h)⟩
  · simp

theorem Distinct.insert {m : OrderedMap α} (h : m.Distinct) (key : String) (value : α) :
    (m.insert key value).Distinct := by
  unfold Distinct at *
  rw [keys_insert]
  split
  · exact h
  · next hk => simpa [List.nodup_append] using ⟨h, fun a ha e => hk (e ▸ ha)⟩

theorem Distinct.insertAll {m : OrderedMap α} (h : m.Distinct) (extra : List (String × α)) :
    (m.insertAll extra).Distinct := by
  induction extra generalizing m with
  | nil => exact h
  | cons entry rest ih => exact ih (h.insert entry.1 entry.2)

/-- A map built from a list names each key once, however often the list does. -/
theorem distinct_ofList (entries : List (String × α)) : (ofList entries).Distinct :=
  Distinct.insertAll (by simp [Distinct]) entries

/-! ## New keys -/

theorem insertEntry_of_not_mem {key : String} (value : α) {entries : List (String × α)}
    (h : key ∉ entries.map Prod.fst) :
    insertEntry key value entries = entries ++ [(key, value)] := by
  induction entries with
  | nil => rfl
  | cons entry rest ih =>
    obtain ⟨k, v⟩ := entry
    simp only [List.map_cons, List.mem_cons, not_or] at h
    have hk : ¬ k = key := fun e => h.1 e.symm
    simp [insertEntry, hk, ih h.2]

/-- A new key is written behind all others. -/
theorem insert_of_not_mem {m : OrderedMap α} {key : String} (value : α) (h : key ∉ m.keys) :
    m.insert key value = ⟨m.entries ++ [(key, value)]⟩ := by
  simp only [insert, insertEntry_of_not_mem value h]

/-- New keys that come once each are written behind all others, in their order. -/
theorem entries_insertAll_of_fresh {m : OrderedMap α} {extra : List (String × α)}
    (once : (extra.map Prod.fst).Nodup) (fresh : ∀ key ∈ extra.map Prod.fst, key ∉ m.keys) :
    (m.insertAll extra).entries = m.entries ++ extra := by
  induction extra generalizing m with
  | nil => simp [insertAll]
  | cons entry rest ih =>
    rw [List.map_cons, List.nodup_cons] at once
    have new : entry.1 ∉ m.keys := fresh entry.1 List.mem_cons_self
    have later : ∀ key ∈ rest.map Prod.fst, key ∉ (m.insert entry.1 entry.2).keys := by
      intro key hk hm
      rcases (mem_keys_insert m entry.1 key entry.2).mp hm with old | rfl
      · exact fresh key (List.mem_cons_of_mem _ hk) old
      · exact once.1 hk
    have tail := ih once.2 later
    rw [insert_of_not_mem entry.2 new] at tail
    simpa [insertAll, insert_of_not_mem entry.2 new] using tail

/-! ## Known keys -/

theorem find?_eq_none_iff (m : OrderedMap α) (key : String) :
    m.find? key = none ↔ key ∉ m.keys := by
  unfold find? keys
  rw [List.lookup_eq_none_iff, List.mem_map]
  constructor
  · rintro none ⟨entry, he, rfl⟩
    simpa using none entry he
  · intro absent entry he
    simpa using fun e : key = entry.1 => absent ⟨entry, he, e.symm⟩

theorem contains_iff_mem (m : OrderedMap α) (key : String) :
    m.contains key = true ↔ key ∈ m.keys := by
  simp [contains]

theorem insertEntry_of_lookup {key : String} {current : α} {entries : List (String × α)}
    (h : entries.lookup key = some current) :
    ∃ before after, entries = before ++ (key, current) :: after ∧
      ∀ value, insertEntry key value entries = before ++ (key, value) :: after := by
  induction entries with
  | nil => cases h
  | cons entry rest ih =>
    obtain ⟨k, v⟩ := entry
    by_cases hk : k = key
    · subst hk
      rw [List.lookup_cons, beq_self_eq_true] at h
      cases h
      exact ⟨[], rest, rfl, fun value => by simp [insertEntry]⟩
    · have hk' : (key == k) = false := by simpa using fun e => hk e.symm
      rw [List.lookup_cons, hk'] at h
      obtain ⟨before, after, split, written⟩ := ih h
      refine ⟨(k, v) :: before, after, by rw [split]; rfl, ?_⟩
      intro value
      simp [insertEntry, hk, written value]

/-- A known key is written in the place where it stands. -/
theorem entries_insert_of_find? {m : OrderedMap α} {key : String} {current : α}
    (h : m.find? key = some current) :
    ∃ before after, m.entries = before ++ (key, current) :: after ∧
      ∀ value, (m.insert key value).entries = before ++ (key, value) :: after :=
  insertEntry_of_lookup h

end OrderedMap

end DocQuery
