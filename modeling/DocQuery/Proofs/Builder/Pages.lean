import DocQuery.Builder.Basic
import DocQuery.Proofs.Query.Options

/- Pages of a result. A search passes over the documents that its skip option counts and stops after
   those that its limit counts. Both numbers are cut down to what the store can count, which is more
   than any result has, so a page shows what its true numbers say (`shown_cut`). Main statement:
   `pages_partition_result`. -/

namespace DocQuery

/-- The skip and the limit of a search that has both. -/
def Command.window? : Command → Option (Int × Int)
  | .find _ _ options => do
    let skip ← options.find? "skip"
    let limit ← options.find? "limit"
    return (← skip.int?, ← limit.int?)
  | _ => none

/-- What a search shows of its result. -/
def shown {α : Type} (window : Int × Int) (result : List α) : List α :=
  (result.drop window.1.toNat).take window.2.toNat

/-- The largest number of documents that the store can count. -/
def maxCount : Nat := 9223372036854775807

section Cutting

variable {α : Type} {l : List α}

theorem drop_cut (fits : l.length ≤ maxCount) (n : Nat) : l.drop (min n maxCount) = l.drop n := by
  by_cases small : n ≤ maxCount
  · rw [Nat.min_eq_left small]
  · rw [List.drop_eq_nil_of_le (by omega), List.drop_eq_nil_of_le (by omega)]

theorem take_cut (fits : l.length ≤ maxCount) (n : Nat) : l.take (min n maxCount) = l.take n := by
  by_cases small : n ≤ maxCount
  · rw [Nat.min_eq_left small]
  · rw [List.take_of_length_le (by omega), List.take_of_length_le (by omega)]

/-- Numbers that are cut down show the same of a result that the store can count. -/
theorem shown_cut (fits : l.length ≤ maxCount) (skip limit : Nat) :
    shown ((min skip maxCount : Nat), (min limit maxCount : Nat)) l =
      l.extract skip (skip + limit) := by
  have rest : (l.drop skip).length ≤ maxCount := by
    rw [List.length_drop]
    omega
  simp only [shown, Int.toNat_natCast, List.extract_eq_take_drop, Nat.add_sub_cancel_left]
  rw [drop_cut fits, take_cut rest]

/-- The positions of an extract. -/
theorem mem_extract_zipIdx {start stop i : Nat} {a : α}
    (h : (a, i) ∈ l.zipIdx.extract start stop) : start ≤ i ∧ i < stop := by
  rw [List.extract_eq_take_drop, List.mem_iff_getElem] at h
  obtain ⟨k, bound, found⟩ := h
  rw [List.length_take, List.length_drop] at bound
  simp only [List.getElem_take, List.getElem_drop, List.getElem_zipIdx, Prod.mk.injEq] at found
  omega

/-- Extracts of one size, side by side, are the beginning of the list. -/
theorem flatten_extracts (l : List α) (size count : Nat) :
    ((List.range count).map fun i => l.extract (i * size) ((i + 1) * size)).flatten =
      l.take (count * size) := by
  induction count with
  | zero => simp
  | succ count ih =>
    rw [List.range_succ, List.map_append, List.flatten_append, ih, List.map_singleton,
      List.flatten_singleton, Nat.succ_mul, List.extract_eq_take_drop, Nat.add_sub_cancel_left,
      List.take_add]

end Cutting

/-- A builder searches if it has neither a distinct target nor groups. -/
theorem Builder.toCommand_eq_find_iff {b : Builder} :
    (∃ collection filter options, b.toCommand = .find collection filter options) ↔
      b.query.distinct = none ∧ b.query.groups = [] := by
  unfold toCommand Query.compile
  cases b.query.distinct with
  | some field => simp
  | none => cases b.query.groups <;> simp

/-- The numbers of a page, cut down to what the store can count. -/
def pageWindow (page perPage : UInt64) : Int × Int :=
  ((min ((page.toNat - 1) * perPage.toNat) maxCount : Nat), (min perPage.toNat maxCount : Nat))

theorem toNat_pageStart (page perPage : UInt64) :
    (Builder.pageStart page perPage).toNat =
      min ((page.toNat - 1) * perPage.toNat) 18446744073709551615 := by
  have counted : min ((page.toNat - 1) * perPage.toNat) 18446744073709551615 < UInt64.size :=
    Nat.lt_of_le_of_lt (Nat.min_le_right _ _) (Nat.lt_succ_self _)
  exact UInt64.toNat_ofNat_of_lt' counted

theorem window?_forPage {b : Builder}
    (search : ∃ collection filter options, b.toCommand = .find collection filter options)
    (page perPage : UInt64) :
    (b.forPage page perPage).toCommand.window? = some (pageWindow page perPage) := by
  have start : min (Builder.pageStart page perPage).toNat maxCount =
      min ((page.toNat - 1) * perPage.toNat) maxCount := by
    rw [toNat_pageStart, maxCount]
    omega
  obtain ⟨_, _, options, command⟩ :
      ∃ collection filter options, (b.forPage page perPage).toCommand =
        .find collection filter options := by
    rw [Builder.toCommand_eq_find_iff] at search ⊢
    exact search
  have skip : (b.forPage page perPage).query.findOptions.find? "skip" =
      some (.ofCount (Builder.pageStart page perPage)) := Query.find?_findOptions _ "skip"
  have limit : (b.forPage page perPage).query.findOptions.find? "limit" =
      some (.ofCount perPage) := Query.find?_findOptions _ "limit"
  rw [command, Command.window?, Query.options_of_compile_eq_find command, skip, limit]
  simp only [Option.bind_eq_bind, Option.bind_some, Bson.int?_ofCount]
  rw [← maxCount, start]
  rfl

/-- A page shows what stands from the end of the page before to the end of this one. -/
theorem shown_pageWindow {α : Type} {result : List α} (fits : result.length ≤ maxCount)
    (page perPage : UInt64) :
    shown (pageWindow page perPage) result =
      result.extract ((max page.toNat 1 - 1) * perPage.toNat)
        (max page.toNat 1 * perPage.toNat) := by
  have before : page.toNat - 1 = max page.toNat 1 - 1 := by omega
  have stop : (max page.toNat 1 - 1) * perPage.toNat + perPage.toNat =
      max page.toNat 1 * perPage.toNat := by
    rw [← Nat.succ_mul]
    congr 1
    omega
  rw [pageWindow, shown_cut fits, before, stop]

/-- Two ranges of one size share no position. -/
theorem disjoint_extracts {α : Type} (l : List α) (size : Nat) {m n : Nat} (apart : m < n) :
    (l.zipIdx.extract (m * size) ((m + 1) * size)).Disjoint
      (l.zipIdx.extract (n * size) ((n + 1) * size)) := by
  rintro ⟨a, i⟩ here there
  have first := mem_extract_zipIdx here
  have second := mem_extract_zipIdx there
  have order : (m + 1) * size ≤ n * size := Nat.mul_le_mul_right size apart
  omega

/-- A page of a search shows the documents of its true range, whatever is cut down on the way: its
    skip and its limit are not negative, and what they select of a result that the store can count
    is what stands from the end of the page before to the end of this one; page zero is page one.
    So two pages share no position, and the pages up to one of them are the beginning of the
    result. -/
theorem pages_partition_result {b : Builder}
    (search : ∃ collection filter options, b.toCommand = .find collection filter options)
    (perPage : UInt64) :
    ∃ window : UInt64 → Int × Int,
      (∀ page, (b.forPage page perPage).toCommand.window? = some (window page) ∧
        0 ≤ (window page).1 ∧ 0 ≤ (window page).2) ∧
      ∀ (α : Type) (result : List α), result.length ≤ maxCount →
        (∀ page, shown (window page) result =
          result.extract ((max page.toNat 1 - 1) * perPage.toNat)
            (max page.toNat 1 * perPage.toNat)) ∧
        (∀ page other, 1 ≤ page → 1 ≤ other → page ≠ other →
          (shown (window page) result.zipIdx).Disjoint (shown (window other) result.zipIdx)) ∧
        ∀ last : UInt64,
          ((List.range last.toNat).map fun i =>
            shown (window (UInt64.ofNat (i + 1))) result).flatten =
              result.take (last.toNat * perPage.toNat) := by
  refine ⟨fun page => pageWindow page perPage, fun page => ⟨window?_forPage search page perPage,
    Int.natCast_nonneg _, Int.natCast_nonneg _⟩, ?_⟩
  intro α result fits
  have range : ∀ {β : Type} {l : List β}, l.length ≤ maxCount → ∀ page : UInt64, 1 ≤ page →
      shown (pageWindow page perPage) l =
        l.extract ((page.toNat - 1) * perPage.toNat) ((page.toNat - 1 + 1) * perPage.toNat) := by
    intro β l fits page positive
    have one : 1 ≤ page.toNat := UInt64.le_iff_toNat_le.mp positive
    rw [shown_pageWindow fits, Nat.max_eq_left one, Nat.sub_add_cancel one]
  refine ⟨fun page => shown_pageWindow fits page perPage, ?_, ?_⟩
  · intro page other hp ho apart
    have positions : result.zipIdx.length ≤ maxCount := by
      rw [List.length_zipIdx]
      exact fits
    have differ : page.toNat - 1 ≠ other.toNat - 1 := by
      have onePage : 1 ≤ page.toNat := UInt64.le_iff_toNat_le.mp hp
      have oneOther : 1 ≤ other.toNat := UInt64.le_iff_toNat_le.mp ho
      have numbers := UInt64.toNat_inj.not.mpr apart
      omega
    rw [range positions page hp, range positions other ho]
    rcases Nat.lt_or_gt_of_ne differ with less | greater
    · exact disjoint_extracts result perPage.toNat less
    · exact List.disjoint_symm (disjoint_extracts result perPage.toNat greater)
  · intro last
    rw [← flatten_extracts]
    congr 1
    apply List.map_congr_left
    intro i hi
    have number : (UInt64.ofNat (i + 1)).toNat = i + 1 := by
      apply UInt64.toNat_ofNat_of_lt'
      have bound := last.toNat_lt_size
      have small := List.mem_range.mp hi
      omega
    rw [shown_pageWindow fits, number, Nat.max_eq_left (by omega), Nat.add_sub_cancel]

/-- Where even the start of a page is beyond all counts, the page is empty, and page zero is still
    the first one. -/
theorem page_beyond_all_counts_is_empty :
    ∃ first late : Int × Int,
      ((Builder.new "docs").forPage 0 9223372036854775808).toCommand.window? = some first ∧
      ((Builder.new "docs").forPage 3 9223372036854775808).toCommand.window? = some late ∧
      shown first ["a", "b"] = ["a", "b"] ∧ shown late ["a", "b"] = [] := by
  obtain ⟨window, command, results⟩ :=
    pages_partition_result (b := .new "docs") ⟨_, _, _, rfl⟩ 9223372036854775808
  obtain ⟨range, _, _⟩ := results String ["a", "b"] (by decide)
  refine ⟨window 0, window 3, (command 0).1, (command 3).1, ?_, ?_⟩
  · rw [range 0]
    rfl
  · rw [range 3]
    rfl

end DocQuery
