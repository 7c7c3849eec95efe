import Mathlib.Data.List.DropRight
import Mathlib.Data.List.Forall2
import DocQuery.Text.Basic

/- What the normal form of a word forgets. Blanks at both ends and the case of ASCII letters do not
   survive `normalised`, and everything else does: two words have one normal form exactly if they
   are the same word (`SameWord`), each with its own blanks around it and its own capitals. The two
   parts of the form do not get in each other's way, since lower case neither makes a blank nor
   takes one away. So every word has one normal word (`sameWord_iff_of_isNormal`). Main statement:
   `normalised_eq_iff`. -/

namespace DocQuery.Text

/-! ## The case of letters -/

/-- The characters differ at most in case: they are one, or one ASCII letter as a capital and as a
    small letter. -/
def SameButCase (c d : Char) : Prop :=
  c = d ∨ (('A' ≤ c ∧ c ≤ 'Z') ∧ d.toNat = c.toNat + 32) ∨
    (('A' ≤ d ∧ d ≤ 'Z') ∧ c.toNat = d.toNat + 32)

theorem capital_iff (c : Char) : ('A' ≤ c ∧ c ≤ 'Z') ↔ 65 ≤ c.toNat ∧ c.toNat ≤ 90 := Iff.rfl

theorem toNat_lowerAscii (c : Char) :
    (lowerAscii c).toNat =
      if 65 ≤ c.toNat ∧ c.toNat ≤ 90 then c.toNat + 32 else c.toNat := by
  rw [lowerAscii]
  simp only [capital_iff]
  split
  · next capital =>
    have valid : (c.toNat + 32).isValidChar := Or.inl (by omega)
    rw [Char.ofNat, dif_pos valid]
    rfl
  · rfl

theorem lowerAscii_eq_iff (c d : Char) : lowerAscii c = lowerAscii d ↔ SameButCase c d := by
  rw [SameButCase, capital_iff, capital_iff, ← Char.toNat_inj, ← Char.toNat_inj, toNat_lowerAscii,
    toNat_lowerAscii]
  split <;> split <;> omega

theorem lowerAscii_eq_self_iff (c : Char) : lowerAscii c = c ↔ ¬('A' ≤ c ∧ c ≤ 'Z') := by
  rw [capital_iff, ← Char.toNat_inj, toNat_lowerAscii]
  split <;> omega

theorem lowerAscii_lowerAscii (c : Char) : lowerAscii (lowerAscii c) = lowerAscii c := by
  rw [lowerAscii_eq_self_iff, capital_iff, toNat_lowerAscii]
  split <;> omega

/-- No letter is a blank, in either case. -/
@[simp] theorem isBlank_lowerAscii (c : Char) : isBlank (lowerAscii c) = isBlank c := by
  have lower := toNat_lowerAscii c
  split at lower
  · rw [Bool.eq_iff_iff]
    simp only [isBlank, lower, Bool.or_eq_true, decide_eq_true_eq, beq_iff_eq]
    omega
  · rw [Char.toNat_inj.mp lower]

theorem map_lowerAscii_eq_iff (l m : List Char) :
    l.map lowerAscii = m.map lowerAscii ↔ List.Forall₂ SameButCase l m := by
  have same : (fun c d => lowerAscii c = lowerAscii d) = SameButCase := by
    funext c d
    exact propext (lowerAscii_eq_iff c d)
  rw [← same, ← List.forall₂_eq_eq_eq, List.forall₂_map_left_iff, List.forall₂_map_right_iff]

/-! ## Blanks at the ends -/

/-- The text is the core with blanks in front and behind. -/
def Around (core text : List Char) : Prop :=
  ∃ front back, text = front ++ core ++ back ∧ ∀ c ∈ front ++ back, isBlank c = true

theorem trimEnd_eq_rdropWhile (text : List Char) : trimEnd text = text.rdropWhile isBlank := rfl

/-- What is trimmed off is blank. -/
theorem around_trim (text : List Char) : Around (trim text) text := by
  refine ⟨text.takeWhile isBlank, (text.dropWhile isBlank).rtakeWhile isBlank, ?_, ?_⟩
  · rw [trim, trimEnd_eq_rdropWhile, List.append_assoc, List.rdropWhile_append_rtakeWhile,
      List.takeWhile_append_dropWhile]
  · intro c listed
    rcases List.mem_append.mp listed with ahead | behind
    · exact List.mem_takeWhile_imp ahead
    · exact List.mem_rtakeWhile_imp behind

theorem trimEnd_append_of_blank (text : List Char) {back : List Char}
    (blank : ∀ c ∈ back, isBlank c = true) : trimEnd (text ++ back) = trimEnd text := by
  have reversed : ∀ c ∈ back.reverse, isBlank c = true :=
    fun c listed => blank c (List.mem_reverse.mp listed)
  rw [trimEnd, List.reverse_append, List.dropWhile_append_of_pos reversed, trimEnd]

theorem trim_of_around {core text : List Char} (h : Around core text) : trim text = trim core := by
  obtain ⟨front, back, rfl, blank⟩ := h
  have ahead : ∀ c ∈ front, isBlank c = true := fun c h => blank c (List.mem_append_left _ h)
  have behind : ∀ c ∈ back, isBlank c = true := fun c h => blank c (List.mem_append_right _ h)
  rw [trim, List.append_assoc, List.dropWhile_append_of_pos ahead, List.dropWhile_append, trim]
  split
  · next gone =>
    -- The core is blank, so the blanks in front reach through it into those behind.
    rw [List.isEmpty_iff] at gone
    rw [gone, List.dropWhile_eq_nil_iff.mpr behind]
  · exact trimEnd_append_of_blank _ behind

theorem trim_trim (text : List Char) : trim (trim text) = trim text :=
  (trim_of_around (around_trim text)).symm

theorem trim_map_lowerAscii (text : List Char) :
    trim (text.map lowerAscii) = (trim text).map lowerAscii := by
  have same : isBlank ∘ lowerAscii = isBlank := funext isBlank_lowerAscii
  rw [trim, trim, trimEnd, trimEnd, List.dropWhile_map, same, ← List.map_reverse,
    List.dropWhile_map, same, ← List.map_reverse]

theorem dropWhile_isBlank_eq_self_iff (text : List Char) :
    text.dropWhile isBlank = text ↔ ∀ c ∈ text.head?, isBlank c = false := by
  cases text with
  | nil => simp
  | cons c rest => simp [List.dropWhile_eq_self_iff]

/-- A trimmed text is one with blanks at neither end. -/
theorem trim_eq_self_iff (text : List Char) :
    trim text = text ↔
      (∀ c ∈ text.head?, isBlank c = false) ∧ ∀ c ∈ text.getLast?, isBlank c = false := by
  have last : trimEnd text = text ↔ ∀ c ∈ text.getLast?, isBlank c = false := by
    rw [trimEnd, List.reverse_eq_iff, dropWhile_isBlank_eq_self_iff, List.head?_reverse]
  rw [← dropWhile_isBlank_eq_self_iff, ← last]
  constructor
  · intro whole
    have front : text.dropWhile isBlank = text := by
      apply (List.dropWhile_suffix isBlank).eq_of_length_le
      -- What is left at last is the whole text, so nothing was lost in the first step.
      have kept := (List.rdropWhile_prefix isBlank (text.dropWhile isBlank)).length_le
      rwa [← trimEnd_eq_rdropWhile, ← trim, whole] at kept
    exact ⟨front, by rwa [trim, front] at whole⟩
  · rintro ⟨front, back⟩
    rw [trim, front, back]

/-! ## What is not blank -/

/-- The characters of a text other than blanks. -/
def nonBlank (text : List Char) : List Char := text.filter fun c => !isBlank c

theorem nonBlank_of_around {core text : List Char} (h : Around core text) :
    nonBlank text = nonBlank core := by
  obtain ⟨front, back, rfl, blank⟩ := h
  have gone (ends : List Char) (h : ∀ c ∈ ends, isBlank c = true) : nonBlank ends = [] := by
    simpa [nonBlank, List.filter_eq_nil_iff] using h
  have ahead := gone front fun c h => blank c (List.mem_append_left _ h)
  have behind := gone back fun c h => blank c (List.mem_append_right _ h)
  simp only [nonBlank] at ahead behind ⊢
  rw [List.filter_append, List.filter_append, ahead, behind, List.nil_append, List.append_nil]

theorem nonBlank_map_lowerAscii (text : List Char) :
    nonBlank (text.map lowerAscii) = (nonBlank text).map lowerAscii := by
  simp [nonBlank, List.filter_map, Function.comp_def]

/-! ## Words -/

/-- The texts are one word: they differ at most in the blanks around it and in the case of ASCII
    letters. -/
def SameWord (s t : String) : Prop :=
  ∃ core core', Around core s.toList ∧ Around core' t.toList ∧ List.Forall₂ SameButCase core core'

/-- The word has no blanks around it and no capitals. -/
structure IsNormal (word : String) : Prop where
  front : ∀ c ∈ word.toList.head?, isBlank c = false
  back : ∀ c ∈ word.toList.getLast?, isBlank c = false
  small : ∀ c ∈ word.toList, ¬('A' ≤ c ∧ c ≤ 'Z')

/-- Two texts have one normal form exactly if they are one word. -/
theorem normalised_eq_iff (s t : String) : normalised s = normalised t ↔ SameWord s t := by
  rw [normalised, normalised, String.ofList_inj, map_lowerAscii_eq_iff]
  constructor
  · intro same
    exact ⟨_, _, around_trim _, around_trim _, same⟩
  · rintro ⟨core, core', left, right, same⟩
    rw [trim_of_around left, trim_of_around right, ← map_lowerAscii_eq_iff, ← trim_map_lowerAscii,
      ← trim_map_lowerAscii, (map_lowerAscii_eq_iff core core').mpr same]

theorem normalised_eq_self_iff (word : String) : normalised word = word ↔ IsNormal word := by
  have small : word.toList.map lowerAscii = word.toList ↔
      ∀ c ∈ word.toList, ¬('A' ≤ c ∧ c ≤ 'Z') := by
    have each := List.map_inj_left (l := word.toList) (f := lowerAscii) (g := id)
    simp only [← lowerAscii_eq_self_iff]
    rwa [List.map_id] at each
  rw [← String.toList_inj, normalised, String.toList_ofList]
  constructor
  · intro whole
    have trimmed : trim word.toList = word.toList := by
      rw [← whole, trim_map_lowerAscii, trim_trim]
    have ends := (trim_eq_self_iff _).mp trimmed
    exact ⟨ends.1, ends.2, small.mp (by rwa [trimmed] at whole)⟩
  · intro normal
    rw [(trim_eq_self_iff _).mpr ⟨normal.front, normal.back⟩, small.mpr normal.small]

theorem isNormal_normalised (s : String) : IsNormal (normalised s) := by
  rw [← normalised_eq_self_iff, normalised, normalised, String.toList_ofList, trim_map_lowerAscii,
    trim_trim, List.map_map]
  exact congrArg String.ofList (List.map_congr_left fun c _ => lowerAscii_lowerAscii c)

/-- The normal form keeps everything but blanks and the case of letters. -/
theorem nonBlank_normalised (s : String) :
    nonBlank (normalised s).toList = (nonBlank s.toList).map lowerAscii := by
  rw [normalised, String.toList_ofList, nonBlank_map_lowerAscii,
    ← nonBlank_of_around (around_trim s.toList)]

/-- The normal form of a text is the normal word among the texts that are the same word. -/
theorem sameWord_iff_of_isNormal {word : String} (normal : IsNormal word) (s : String) :
    SameWord s word ↔ normalised s = word := by
  rw [← normalised_eq_iff, (normalised_eq_self_iff word).mpr normal]

end DocQuery.Text
