import DocQuery.Error
import DocQuery.Proofs.OrderedMap
import DocQuery.Proofs.Text.Normalised

/- The words for operators. Each operator but `raw` has one or two, 21 in all, and a text is parsed
   as an operator exactly if its normal form is one of the operator's words. Blanks inside a word
   and characters from beyond ASCII survive in the normal form, so texts that only look like a word
   are refused. Main statement: `operators_are_spelled_by_their_words`. -/

namespace DocQuery.Operator

/-- The words for an operator, in normal form. -/
def words : Operator → List String
  | .eq => ["=", "=="]
  | .ne => ["!=", "<>"]
  | .gt => [">"]
  | .gte => [">="]
  | .lt => ["<"]
  | .lte => ["<="]
  | .isIn => ["in"]
  | .notIn => ["not in"]
  | .between => ["between"]
  | .notBetween => ["not between"]
  | .like => ["like"]
  | .notLike => ["not like"]
  | .regex => ["regex"]
  | .fieldExists => ["exists"]
  | .size => ["size"]
  | .all => ["all"]
  | .elemMatch => ["elemmatch"]
  | .type => ["type"]
  | .mod => ["mod"]
  | .raw => []

/-- The words of all operators. -/
def vocabulary : List String := every.flatMap words

theorem mem_vocabulary_iff (word : String) : word ∈ vocabulary ↔ ∃ op : Operator, word ∈ op.words := by
  simp [vocabulary, List.mem_flatMap, mem_every]

theorem words_eq_nil_iff (op : Operator) : op.words = [] ↔ op = .raw := by
  cases op <;> simp [words]

theorem spellings_eq :
    spellings = every.flatMap fun op => op.words.map fun word => (word, op) := rfl

theorem mem_spellings_iff (word : String) (op : Operator) :
    (word, op) ∈ spellings ↔ word ∈ op.words := by
  simp [spellings_eq, mem_every]

/-- No word is used twice, not even if blanks inside the words are left out. -/
theorem nodup_nonBlank :
    (vocabulary.map fun word => Text.nonBlank word.toList).Nodup := by
  decide +kernel

theorem nodup_vocabulary : vocabulary.Nodup := nodup_nonBlank.of_map

/-- The words are in normal form, and in ASCII. -/
theorem normalised_words (op : Operator) : ∀ word ∈ op.words, Text.normalised word = word := by
  cases op <;> decide +kernel

theorem ascii_words (op : Operator) :
    ∀ word ∈ op.words, (word.toList.all fun c => decide (c.toNat < 128)) = true := by
  cases op <;> decide +kernel

/-! ## Parsing -/

theorem ofSpelling?_eq_some_iff (text : String) (op : Operator) :
    ofSpelling? text = some op ↔ Text.normalised text ∈ op.words := by
  have distinct : (⟨spellings⟩ : OrderedMap Operator).Distinct := nodup_vocabulary
  rw [← mem_spellings_iff]
  exact OrderedMap.find?_eq_some_iff distinct

theorem parse_eq_ok_iff (text : String) (op : Operator) :
    parse text = .ok op ↔ Text.normalised text ∈ op.words := by
  rw [← ofSpelling?_eq_some_iff, parse]
  cases ofSpelling? text <;> simp

theorem exists_parse_eq_ok_iff (text : String) :
    (∃ op, parse text = .ok op) ↔ Text.normalised text ∈ vocabulary := by
  simp only [parse_eq_ok_iff, mem_vocabulary_iff]

theorem parse_of_not_mem {text : String} (unknown : Text.normalised text ∉ vocabulary) :
    parse text = .error (.unknownOperator (Text.normalised text)) := by
  have none : ofSpelling? text = none := by
    rw [Option.eq_none_iff_forall_ne_some]
    intro op found
    exact unknown ((mem_vocabulary_iff _).mpr ⟨op, (ofSpelling?_eq_some_iff text op).mp found⟩)
  rw [parse, none]

theorem parse_eq_of_sameWord {s t : String} (same : Text.SameWord s t) : parse s = parse t := by
  rw [parse, parse, ofSpelling?, ofSpelling?, (Text.normalised_eq_iff s t).mpr same]

/-- A word spells the operator that it belongs to. -/
theorem parse_of_mem_words {op : Operator} {word : String} (listed : word ∈ op.words) :
    parse word = .ok op := by
  rwa [parse_eq_ok_iff, normalised_words op word listed]

theorem exists_parse_iff (op : Operator) : (∃ text, parse text = .ok op) ↔ op ≠ .raw := by
  rw [ne_eq, ← words_eq_nil_iff]
  constructor
  · rintro ⟨text, parsed⟩ none
    rw [parse_eq_ok_iff, none] at parsed
    exact List.not_mem_nil parsed
  · intro some
    obtain ⟨word, listed⟩ := List.exists_mem_of_ne_nil _ some
    exact ⟨word, parse_of_mem_words listed⟩

/-! ## What only looks like a word -/

/-- Two accepted texts that differ in blanks and the case of letters only are one word. -/
theorem sameWord_of_parse {s t : String} {op op' : Operator} (left : parse s = .ok op)
    (right : parse t = .ok op')
    (same : List.Forall₂ Text.SameButCase (Text.nonBlank s.toList) (Text.nonBlank t.toList)) :
    Text.SameWord s t := by
  rw [← Text.normalised_eq_iff]
  apply List.inj_on_of_nodup_map nodup_nonBlank
  · exact (exists_parse_eq_ok_iff s).mp ⟨op, left⟩
  · exact (exists_parse_eq_ok_iff t).mp ⟨op', right⟩
  · rw [Text.nonBlank_normalised, Text.nonBlank_normalised, Text.map_lowerAscii_eq_iff]
    exact same

/-- An accepted text is written in ASCII, apart from blanks. -/
theorem ascii_of_parse {s : String} {op : Operator} (parsed : parse s = .ok op) {c : Char}
    (listed : c ∈ s.toList) (ink : Text.isBlank c = false) : c.toNat < 128 := by
  by_contra beyond
  have word := (parse_eq_ok_iff s op).mp parsed
  have kept : c ∈ (Text.normalised s).toList := by
    have same : Text.lowerAscii c = c := by
      rw [Text.lowerAscii_eq_self_iff, Text.capital_iff]
      omega
    have lower : c ∈ Text.nonBlank (Text.normalised s).toList := by
      rw [Text.nonBlank_normalised, ← same]
      exact List.mem_map_of_mem (List.mem_filter.mpr ⟨listed, by rw [ink]; rfl⟩)
    exact (List.mem_filter.mp lower).1
  exact beyond (of_decide_eq_true (List.all_eq_true.mp (ascii_words op _ word) c kept))

/-- What a text is parsed as depends on its normal form only, so neither on the blanks around it nor
    on the case of its ASCII letters. The text spells an operator exactly if the normal form is one
    of the operator's words; otherwise the error names the normal form. There are 21 words, and `raw`
    alone has none. A word with other blanks inside is refused, and so is every text with a
    character, not blank, from beyond ASCII. -/
theorem operators_are_spelled_by_their_words :
    (∀ s t, Text.SameWord s t → parse s = parse t) ∧
    (∀ s, ∃ word, Text.IsNormal word ∧ Text.SameWord s word) ∧
    (∀ s word, Text.IsNormal word → Text.SameWord s word →
      (∀ op, parse s = .ok op ↔ word ∈ op.words) ∧
      ((∀ op : Operator, word ∉ op.words) → ∃ e, parse s = .error e ∧ e.isInvalidArgument = true ∧
        e.message = "unknown operator: " ++ word)) ∧
    (vocabulary.length = 21 ∧ vocabulary.Nodup) ∧
    (∀ op, (∃ s, parse s = .ok op) ↔ op ≠ .raw) ∧
    (∀ s t op, parse s = .ok op →
      List.Forall₂ Text.SameButCase (Text.nonBlank s.toList) (Text.nonBlank t.toList) →
      ¬Text.SameWord s t → ∀ op', parse t ≠ .ok op') ∧
    (∀ s c, c ∈ s.toList → Text.isBlank c = false → 128 ≤ c.toNat → ∀ op, parse s ≠ .ok op) := by
  refine ⟨fun _ _ => parse_eq_of_sameWord, ?_, ?_, ⟨rfl, nodup_vocabulary⟩, exists_parse_iff, ?_, ?_⟩
  · intro s
    have normal := Text.isNormal_normalised s
    exact ⟨_, normal, (Text.sameWord_iff_of_isNormal normal s).mpr rfl⟩
  · intro s word normal same
    obtain rfl := (Text.sameWord_iff_of_isNormal normal s).mp same
    refine ⟨parse_eq_ok_iff s, ?_⟩
    intro unknown
    refine ⟨_, parse_of_not_mem ?_, rfl, rfl⟩
    rw [mem_vocabulary_iff]
    exact not_exists.mpr unknown
  · intro s t op left same apart op' right
    exact apart (sameWord_of_parse left right same)
  · intro s c listed ink beyond op parsed
    have ascii := ascii_of_parse parsed listed ink
    omega

/-- Blanks from beyond ASCII may stand around a word but not inside it, and the sign for kelvin is
    no letter `k`, though it has it for its small letter. -/
theorem look_alikes_of_words_are_refused :
    parse " IN\u3000" = .ok .isIn ∧
    (∀ op, parse "not\u00a0in" ≠ .ok op) ∧
    (∀ op, parse "LI\u212aE" ≠ .ok op) ∧
    ∃ e, parse " Raw " = .error e ∧ e.message = "unknown operator: raw" := by
  obtain ⟨same, _, read, _, _, spacing, ascii⟩ := operators_are_spelled_by_their_words
  have spelled : parse "not in" = .ok .notIn := parse_of_mem_words (by decide)
  refine ⟨?_, ?_, ?_, ?_⟩
  · rw [same " IN\u3000" "in" ((Text.normalised_eq_iff _ _).mp (by decide +kernel))]
    exact parse_of_mem_words (by decide)
  · apply spacing "not in" "not\u00a0in" .notIn spelled
    · rw [← Text.map_lowerAscii_eq_iff]
      decide +kernel
    · rw [← Text.normalised_eq_iff]
      decide +kernel
  · exact ascii "LI\u212aE" '\u212a' (by decide) (by decide) (by decide)
  · have normal : Text.IsNormal "raw" := (Text.normalised_eq_self_iff "raw").mp (by decide +kernel)
    have unknown : ∀ op : Operator, "raw" ∉ op.words :=
      fun op listed => absurd ((mem_vocabulary_iff "raw").mpr ⟨op, listed⟩) (by decide)
    have word := read " Raw " "raw" normal ((Text.normalised_eq_iff _ _).mp (by decide +kernel))
    obtain ⟨e, refused, _, message⟩ := word.2 unknown
    exact ⟨e, refused, message⟩

end DocQuery.Operator
