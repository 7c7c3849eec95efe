import Mathlib.Data.List.Forall2
import Mathlib.Data.List.Perm.Subperm
import DocQuery.Bson.Equality
import DocQuery.Proofs.OrderedMap

/- Agreement of stored values. For documents that name each key once it is agreement under every key
   (`Document.same_iff`), whatever the order of the keys. Two documents that come about by the same
   writes with agreeing values are more than that: they have their keys in the same order
   (`Document.Aligned`). Every further write keeps this, and a look at their keys cannot tell them
   apart. -/

namespace DocQuery

theorem sameOption_iff {α : Type} {same : α → α → Bool} {x y : Option α} :
    sameOption same x y = true ↔ Option.Rel (fun a b => same a b) x y := by
  constructor
  · intro h
    cases x <;> cases y
    case none.none => exact .none
    case some.some a b => exact .some h
    all_goals cases h
  · rintro (h | _)
    · exact h
    · rfl

theorem sameList_iff {α : Type} {same : α → α → Bool} {l m : List α} :
    sameList same l m = true ↔ List.Forall₂ (fun a b => same a b) l m := by
  induction l generalizing m with
  | nil => cases m <;> simp [sameList]
  | cons a l ih => cases m <;> simp [sameList, ih]

theorem rel_or {α β : Type} {R : α → β → Prop} {x x' : Option α} {y y' : Option β}
    (h : Option.Rel R x y) (h' : Option.Rel R x' y') : Option.Rel R (x.or x') (y.or y') := by
  cases h with
  | some h => exact .some h
  | none => exact h'

theorem rel_map {α β γ δ : Type} {R : α → β → Prop} {S : γ → δ → Prop} {f : α → γ} {g : β → δ}
    (step : ∀ a b, R a b → S (f a) (g b)) {x : Option α} {y : Option β} (h : Option.Rel R x y) :
    Option.Rel S (x.map f) (y.map g) := by
  cases h with
  | some h => exact .some (step _ _ h)
  | none => exact .none

/-- Two folds whose steps keep a relation, or fail together, end up related or fail together. The
    steps may rely on what the first of them keeps. -/
theorem rel_foldlM {σ τ α β : Type} {P : σ → Prop} {R : σ → τ → Prop} {S : α → β → Prop}
    {f : σ → α → Option σ} {g : τ → β → Option τ}
    (keeps : ∀ s a b s', S a b → P s → f s a = some s' → P s')
    (step : ∀ s t a b, P s → R s t → S a b → Option.Rel R (f s a) (g t b))
    {l : List α} {m : List β} (h : List.Forall₂ S l m) {s : σ} {t : τ} (start : P s)
    (related : R s t) : Option.Rel R (l.foldlM f s) (m.foldlM g t) := by
  induction h generalizing s t with
  | nil => exact .some related
  | @cons a b l m first _ ih =>
    rw [List.foldlM_cons, List.foldlM_cons]
    have next := step s t a b start related first
    -- If the first fold goes on, so does the second, and from related states.
    cases taken : f s a with
    | some s' =>
      rw [taken] at next
      generalize g t b = y at next ⊢
      obtain next | _ := next
      exact ih (keeps s a b s' first start taken) next
    | none =>
      rw [taken] at next
      generalize g t b = y at next ⊢
      cases next
      exact .none

theorem Bson.document_of_same {d : Document} {v : Bson} (h : (Bson.document d).same v = true) :
    ∃ d', v = .document d' := by
  cases v
  case document d' => exact ⟨d', rfl⟩
  all_goals cases h

theorem Bson.array_of_same {items : List Bson} {v : Bson} (h : (Bson.array items).same v = true) :
    ∃ items', v = .array items' := by
  cases v
  case array items' => exact ⟨items', rfl⟩
  all_goals cases h

theorem Bson.array_of_same_array {v : Bson} {items : List Bson}
    (h : v.same (.array items) = true) : ∃ items', v = .array items' := by
  cases v
  case array items' => exact ⟨items', rfl⟩
  all_goals cases h

theorem Bson.same_documents {docs docs' : List Document}
    (h : List.Forall₂ (fun d d' => Document.same d d') docs docs') :
    (Bson.documents docs).same (.documents docs') = true := by
  change Bson.sameItems (docs.map .document) (docs'.map .document) = true
  rw [Bson.sameItems_eq, sameList_iff, List.forall₂_map_left_iff, List.forall₂_map_right_iff]
  exact h

namespace Document

/-! ## Agreement -/

theorem sameFields_iff {fields : List (String × Bson)} {d : Document} :
    Bson.sameFields fields d = true ↔
      ∀ e ∈ fields, ∃ v, d.find? e.1 = some v ∧ e.2.same v = true := by
  induction fields with
  | nil => simp [Bson.sameFields]
  | cons e rest ih =>
    obtain ⟨key, value⟩ := e
    rw [Bson.sameFields, Bool.and_eq_true, ih, List.forall_mem_cons]
    apply and_congr_left'
    cases d.find? key <;> simp

/-- Documents that agree have the same keys, and those of the second stand once each as well. -/
theorem keys_perm_of_same {a b : Document} (distinct : a.Distinct) (h : a.same b = true) :
    a.keys.Perm b.keys := by
  rw [Document.same, Bool.and_eq_true, beq_iff_eq, sameFields_iff] at h
  obtain ⟨size, fields⟩ := h
  have within : a.keys ⊆ b.keys := by
    intro key hk
    obtain ⟨e, he, rfl⟩ := List.mem_map.mp hk
    obtain ⟨v, found, _⟩ := fields e he
    exact OrderedMap.mem_keys_of_find? found
  -- As many keys as the first has, all different, leave no room for others in the second.
  apply (distinct.subperm within).perm_of_length_le
  rw [OrderedMap.keys, OrderedMap.keys, List.length_map, List.length_map]
  exact Nat.le_of_eq size.symm

theorem distinct_of_same {a b : Document} (distinct : a.Distinct) (h : a.same b = true) :
    b.Distinct :=
  (keys_perm_of_same distinct h).nodup distinct

/-- Agreement is agreement under every key. -/
theorem same_iff {a b : Document} (ha : a.Distinct) (hb : b.Distinct) :
    a.same b = true ↔
      ∀ key, Option.Rel (fun v w => Bson.same v w) (a.find? key) (b.find? key) := by
  constructor
  · intro h key
    have keys := keys_perm_of_same ha h
    rw [Document.same, Bool.and_eq_true, sameFields_iff] at h
    cases found : a.find? key with
    | none =>
      rw [OrderedMap.find?_eq_none_iff, keys.mem_iff, ← OrderedMap.find?_eq_none_iff] at found
      rw [found]
      exact .none
    | some v =>
      obtain ⟨w, there, agree⟩ := h.2 _ ((OrderedMap.find?_eq_some_iff ha).mp found)
      rw [there]
      exact .some agree
  · intro h
    -- A key is absent from both or from neither, so there are equally many.
    have keys : a.keys.Perm b.keys := by
      refine (List.perm_ext_iff_of_nodup ha hb).mpr fun key => ?_
      rw [← not_iff_not, ← OrderedMap.find?_eq_none_iff, ← OrderedMap.find?_eq_none_iff]
      have here := h key
      generalize a.find? key = x at here ⊢
      generalize b.find? key = y at here ⊢
      cases here <;> simp
    rw [Document.same, Bool.and_eq_true, beq_iff_eq, sameFields_iff]
    constructor
    · simpa [OrderedMap.keys, OrderedMap.size] using keys.length_eq
    · intro e he
      have here := h e.1
      rw [(OrderedMap.find?_eq_some_iff ha).mpr he] at here
      generalize b.find? e.1 = y at here
      cases here with
      | some agree => exact ⟨_, rfl, agree⟩

/-- Writing all of a document into another. -/
theorem same_insertAll {a b c d : Document} (ha : a.Distinct) (hb : b.Distinct) (hc : c.Distinct)
    (h : a.same b = true) (h' : c.same d = true) :
    Document.same (a.insertAll c.entries) (b.insertAll d.entries) = true := by
  have hd := distinct_of_same hc h'
  rw [same_iff (ha.insertAll _) (hb.insertAll _)]
  intro key
  rw [OrderedMap.find?_insertAll_entries a hc, OrderedMap.find?_insertAll_entries b hd]
  exact rel_or ((same_iff hc hd).mp h' key) ((same_iff ha hb).mp h key)

theorem isEmpty_congr {a b : Document} (h : a.same b = true) : a.isEmpty = b.isEmpty := by
  rw [Document.same, Bool.and_eq_true, beq_iff_eq] at h
  have sizes : a.entries.length = b.entries.length := h.1
  rw [OrderedMap.isEmpty, OrderedMap.isEmpty, Bool.eq_iff_iff, List.isEmpty_iff_length_eq_zero,
    List.isEmpty_iff_length_eq_zero, sizes]

theorem isOperators_congr {a b : Document} (distinct : a.Distinct) (h : a.same b = true) :
    a.isOperators = b.isOperators := by
  rw [isOperators, isOperators, isEmpty_congr h, (keys_perm_of_same distinct h).all_eq]

theorem contains_congr {a b : Document} (distinct : a.Distinct) (h : a.same b = true)
    (key : String) : a.contains key = b.contains key := by
  rw [Bool.eq_iff_iff, OrderedMap.contains_iff_mem, OrderedMap.contains_iff_mem]
  exact (keys_perm_of_same distinct h).mem_iff

/-! ## Aligned documents -/

/-- Entries agree if they have one key and agreeing values. -/
def EntryAgree (e f : String × Bson) : Prop := e.1 = f.1 ∧ e.2.same f.2 = true

/-- Documents with the same keys in the same order and with agreeing values. -/
def Aligned (a b : Document) : Prop := List.Forall₂ EntryAgree a.entries b.entries

namespace Aligned

variable {a b : Document}

theorem empty : Aligned .empty .empty := .nil

theorem single (key : String) {v w : Bson} (h : v.same w = true) :
    Aligned (.single key v) (.single key w) :=
  .cons ⟨rfl, h⟩ .nil

theorem keys (h : Aligned a b) : a.keys = b.keys := by
  rw [← List.forall₂_eq_eq_eq]
  exact List.rel_map (fun _ _ agree => agree.1) h

theorem find? (h : Aligned a b) (key : String) :
    Option.Rel (fun v w => Bson.same v w) (a.find? key) (b.find? key) := by
  obtain ⟨es⟩ := a
  obtain ⟨fs⟩ := b
  change List.Forall₂ EntryAgree es fs at h
  change Option.Rel _ (es.lookup key) (fs.lookup key)
  induction h with
  | nil => exact .none
  | @cons e f es fs agree _ ih =>
    obtain ⟨k, v⟩ := e
    obtain ⟨k', w⟩ := f
    obtain ⟨rfl, values⟩ := agree
    rw [List.lookup_cons, List.lookup_cons]
    cases key == k with
    | true => exact .some values
    | false => exact ih

/-- Alignment is agreement of documents that name each key once. -/
theorem same (h : Aligned a b) (distinct : a.Distinct) : a.same b = true := by
  have distinct' : b.Distinct := by
    rw [OrderedMap.Distinct, ← h.keys]
    exact distinct
  exact (same_iff distinct distinct').mpr h.find?

theorem insert (h : Aligned a b) (key : String) {v w : Bson} (agree : v.same w = true) :
    Aligned (a.insert key v) (b.insert key w) := by
  obtain ⟨es⟩ := a
  obtain ⟨fs⟩ := b
  change List.Forall₂ EntryAgree es fs at h
  change List.Forall₂ EntryAgree (OrderedMap.insertEntry key v es)
    (OrderedMap.insertEntry key w fs)
  induction h with
  | nil => exact .cons ⟨rfl, agree⟩ .nil
  | @cons e f es fs first rest ih =>
    obtain ⟨k, u⟩ := e
    obtain ⟨k', u'⟩ := f
    obtain ⟨rfl, values⟩ := first
    rw [OrderedMap.insertEntry, OrderedMap.insertEntry]
    split
    · exact .cons ⟨rfl, agree⟩ rest
    · exact .cons ⟨rfl, values⟩ ih

theorem insert? (h : Aligned a b) (key : String) {x y : Option Bson}
    (agree : Option.Rel (fun v w => Bson.same v w) x y) :
    Aligned (a.insert? key x) (b.insert? key y) := by
  cases agree with
  | some agree => exact h.insert key agree
  | none => exact h

theorem insertAll (h : Aligned a b) {es fs : List (String × Bson)}
    (agree : List.Forall₂ EntryAgree es fs) : Aligned (a.insertAll es) (b.insertAll fs) := by
  induction agree generalizing a b with
  | nil => exact h
  | @cons e f es fs first _ ih =>
    obtain ⟨k, v⟩ := e
    obtain ⟨k', w⟩ := f
    obtain ⟨rfl, values⟩ := first
    exact ih (h.insert k values)

theorem ofList {es fs : List (String × Bson)} (agree : List.Forall₂ EntryAgree es fs) :
    Aligned (.ofList es) (.ofList fs) :=
  empty.insertAll agree

end Aligned

end Document

end DocQuery
