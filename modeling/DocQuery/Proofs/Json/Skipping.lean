import DocQuery.Json.Skip
import DocQuery.Proofs.Json.Spelling

/- A value that nobody asked for is passed over as a whole. The state of the pass is a list of open
   brackets, and a text that may stand inside them is passed over if, whatever is open, the pass
   goes on behind it as it does behind any complete value (`PassedOver`). This holds of the items of
   an array and of the members of an object alike, so what is between two brackets is treated once
   (`skip_enclosed`), and values follow by recursion. Main statement:
   `Value.Written.skipValue_eq`. -/

namespace DocQuery.Json

/-! ## Where a numeral ends -/

theorem endsNumeral_cons {c : Char}
    (other : isDigit c = false ∧ c ≠ '.' ∧ c ≠ 'e' ∧ c ≠ 'E') (rest : List Char) :
    EndsNumeral (c :: rest) := by
  rintro d ⟨⟩
  exact other

theorem endsNumeral_blank_append {blank rest : List Char} (h : Blank blank)
    (ends : EndsNumeral rest) : EndsNumeral (blank ++ rest) := by
  cases blank with
  | nil => exact ends
  | cons c more =>
    refine endsNumeral_cons ?_ _
    have space := h c List.mem_cons_self
    simp only [isSpace, Bool.or_eq_true, beq_iff_eq] at space
    rcases space with ((rfl | rfl) | rfl) | rfl <;> decide

/-! ## One token -/

/-- How a pass goes on behind a complete value. -/
def resume : List Enclosure → List Token → Except Fault (List Token)
  | [], ts => .ok ts
  | kind :: outer, ts => skip .separator (kind :: outer) ts

section Steps

variable {expectation : Expectation} {nesting : List Enclosure} {token : Token}

theorem skip_of_completed {outer : List Enclosure}
    (step : stepOver expectation nesting token = .ok (.completed outer)) (rest : List Token) :
    skip expectation nesting (token :: rest) = resume outer rest := by
  rw [skip, step]
  cases outer <;> rfl

theorem skip_of_inside {expectation' : Expectation} {nesting' : List Enclosure}
    (step : stepOver expectation nesting token = .ok (.inside expectation' nesting'))
    (rest : List Token) :
    skip expectation nesting (token :: rest) = skip expectation' nesting' rest := by
  rw [skip, step]

/-- Something that is enclosed may begin: it is the first, or a comma stands before it. -/
def Enclosure.Expects (kind : Enclosure) (expectation : Expectation) : Prop :=
  expectation = kind.first ∨ expectation = kind.next

/-- A token that begins a value closes no array. -/
theorem stepOver_of_opening {opening : Opening} (opens : token.opening = .ok opening)
    (expects : Enclosure.array.Expects expectation) :
    stepOver expectation nesting token = beginValue nesting token := by
  obtain rfl | rfl := expects
  · cases token <;> first | rfl | cases opens
  · rfl

/-- A token that is a key closes no object. -/
theorem stepOver_of_checkKey (isKey : token.checkKey = .ok ())
    (expects : Enclosure.object.Expects expectation) :
    stepOver expectation nesting token = .ok (.inside .colon nesting) := by
  obtain rfl | rfl := expects
  · have goesOn : Enclosure.object.closedBy token = false := by
      cases token <;> first | rfl | cases isKey
    simp [stepOver, Enclosure.first, goesOn, takeKey, isKey]
  · simp [stepOver, Enclosure.next, takeKey, isKey]

theorem skip_scalar (opens : token.opening = .ok .scalar)
    (expects : Enclosure.array.Expects expectation) (rest : List Token) :
    skip expectation nesting (token :: rest) = resume nesting rest :=
  skip_of_completed (by rw [stepOver_of_opening opens expects, beginValue, opens]) rest

theorem skip_opening {kind : Enclosure} (opens : token.opening = .ok (.enclosure kind))
    (expects : Enclosure.array.Expects expectation) (rest : List Token) :
    skip expectation nesting (token :: rest) = skip kind.first (kind :: nesting) rest :=
  skip_of_inside (by rw [stepOver_of_opening opens expects, beginValue, opens]) rest

end Steps

/-! ## Enclosures -/

/-- The character that closes an enclosure. -/
def Enclosure.mark : Enclosure → Char
  | .array => ']'
  | .object => '}'

theorem skip_mark {kind : Enclosure} {expectation : Expectation}
    (expected : expectation = kind.first ∨ expectation = .separator) (outer : List Enclosure)
    (rest : List Char) :
    skip expectation (kind :: outer) (tokens (kind.mark :: rest)) = resume outer (tokens rest) := by
  cases kind
  all_goals
    simp only [Enclosure.mark, tokens_closeBracket, tokens_closeBrace]
    obtain rfl | rfl := expected <;> exact skip_of_completed rfl _

/-- The text stands for something enclosed that is passed over wherever it may begin. -/
def PassedOver (kind : Enclosure) (text : List Char) : Prop :=
  ∀ expectation, kind.Expects expectation → ∀ nesting rest, EndsNumeral rest →
    skip expectation nesting (tokens (text ++ rest)) = resume nesting (tokens rest)

/-- Further parts of an enclosure, each behind a comma. -/
inductive MoreParts (kind : Enclosure) : List Char → Prop
  | nil : MoreParts kind []
  | cons {first more : List Char} : PassedOver kind first → MoreParts kind more →
      MoreParts kind (',' :: (first ++ more))

/-- The parts of an enclosure, or blanks if there are none. -/
def Parts (kind : Enclosure) (text : List Char) : Prop :=
  Blank text ∨ ∃ first more, PassedOver kind first ∧ MoreParts kind more ∧ text = first ++ more

theorem MoreParts.endsNumeral {kind : Enclosure} {text : List Char} (h : MoreParts kind text)
    (rest : List Char) : EndsNumeral (text ++ kind.mark :: rest) := by
  cases h with
  | nil => exact endsNumeral_cons (by cases kind <;> decide) rest
  | cons => exact endsNumeral_cons (by decide) _

theorem skip_moreParts {kind : Enclosure} {text : List Char} (h : MoreParts kind text)
    (outer : List Enclosure) (rest : List Char) :
    skip .separator (kind :: outer) (tokens (text ++ kind.mark :: rest)) =
      resume outer (tokens rest) := by
  induction h with
  | nil => exact skip_mark (.inr rfl) outer rest
  | @cons first more passed moreParts ih =>
    rw [List.cons_append, List.append_assoc, tokens_comma, skip_of_inside rfl,
      passed _ (.inr rfl) _ _ (moreParts.endsNumeral rest)]
    exact ih

/-- What is enclosed is passed over together with the bracket that closes it. -/
theorem skip_enclosed {kind : Enclosure} {text : List Char} (h : Parts kind text)
    (outer : List Enclosure) (rest : List Char) :
    skip kind.first (kind :: outer) (tokens (text ++ kind.mark :: rest)) =
      resume outer (tokens rest) := by
  obtain blank | ⟨first, more, passed, moreParts, rfl⟩ := h
  · rw [tokens_blank_append blank]
    exact skip_mark (.inl rfl) outer rest
  · rw [List.append_assoc, passed _ (.inl rfl) _ _ (moreParts.endsNumeral rest)]
    exact skip_moreParts moreParts outer rest

/-! ## Values -/

/-- Blanks around a value are passed over with it. -/
theorem PassedOver.of_padded {written : List Char → Prop} {text : List Char}
    (h : Padded written text) (passed : ∀ {inner}, written inner → PassedOver .array inner) :
    PassedOver .array text := by
  obtain ⟨before, inner, after, blank, isWritten, blank', rfl⟩ := h
  intro expectation expects nesting rest ends
  rw [List.append_assoc, List.append_assoc, tokens_blank_append blank,
    passed isWritten _ expects nesting _ (endsNumeral_blank_append blank' ends),
    tokens_blank_append blank']

/-- The tokens of a key and of the colon behind it. -/
theorem tokens_memberText {key : Option (List Char)} {value : List Char → Prop} {text : List Char}
    (h : MemberText (StringText key) value text) :
    ∃ pieces valueText, HasContent pieces key ∧ Padded value valueText ∧
      ∀ rest, tokens (text ++ rest) =
        .text pieces none :: .colon :: tokens (valueText ++ rest) := by
  obtain ⟨_, second, ⟨before, inner, after, blank, string, blank', rfl⟩, padded, rfl⟩ := h
  obtain ⟨pieces, content, scanned⟩ := tokens_stringText string
  refine ⟨pieces, second, content, padded, fun rest => ?_⟩
  simp only [List.append_assoc, List.cons_append, tokens_blank_append blank, scanned,
    tokens_blank_append blank', tokens_colon]

/-- A member is passed over if its value is. -/
theorem PassedOver.of_memberText {key : Option (List Char)} {value : List Char → Prop}
    {text : List Char} (h : MemberText (StringText key) value text)
    (passed : ∀ {inner}, value inner → PassedOver .array inner) : PassedOver .object text := by
  obtain ⟨pieces, second, _, padded, scanned⟩ := tokens_memberText h
  intro expectation expects nesting rest ends
  rw [scanned, skip_of_inside (stepOver_of_checkKey rfl expects), skip_of_inside rfl]
  exact PassedOver.of_padded padded passed _ (.inr rfl) nesting rest ends

/-- What stands between brackets is a value if its parts are passed over. -/
theorem PassedOver.of_parts {kind : Enclosure} {mark : Char} {token : Token} {inner : List Char}
    (parts : Parts kind inner) (scanned : ∀ rest, tokens (mark :: rest) = token :: tokens rest)
    (opens : token.opening = .ok (.enclosure kind)) :
    PassedOver .array (mark :: (inner ++ [kind.mark])) := by
  intro expectation expects nesting rest _
  rw [List.cons_append, scanned, skip_opening opens expects, List.append_assoc,
    List.singleton_append, skip_enclosed parts]

mutual

/-- A well-formed value is passed over. -/
theorem Value.Written.passedOver : ∀ (v : Value) {text : List Char}, v.Written text →
    PassedOver .array text
  | .null, _, rfl => fun _ expects _ _ _ => by
    simp only [List.cons_append, List.nil_append, tokens_null]
    exact skip_scalar rfl expects _
  | .bool true, _, rfl => fun _ expects _ _ _ => by
    simp only [List.cons_append, List.nil_append, tokens_true]
    exact skip_scalar rfl expects _
  | .bool false, _, rfl => fun _ expects _ _ _ => by
    simp only [List.cons_append, List.nil_append, tokens_false]
    exact skip_scalar rfl expects _
  | .numeral _, _, h => fun _ expects _ _ ends => by
    rw [tokens_numeral h ends]
    exact skip_scalar rfl expects _
  | .text _, _, h => fun _ expects _ _ _ => by
    obtain ⟨pieces, _, scanned⟩ := tokens_stringText h
    rw [scanned]
    exact skip_scalar rfl expects _
  | .array items, _, ⟨_, h, rfl⟩ =>
    PassedOver.of_parts (ItemsText.parts items h) tokens_openBracket rfl
  | .object members, _, ⟨_, h, rfl⟩ =>
    PassedOver.of_parts (MembersText.parts members h) tokens_openBrace rfl

theorem ItemsText.parts : ∀ (items : List Value) {text : List Char}, ItemsText items text →
    Parts .array text
  | [], _, blank => .inl blank
  | v :: rest, _, ⟨first, more, padded, h, split⟩ =>
    .inr ⟨first, more, PassedOver.of_padded padded (Value.Written.passedOver v),
      MoreItemsText.moreParts rest h, split⟩

theorem MoreItemsText.moreParts : ∀ (items : List Value) {text : List Char},
    MoreItemsText items text → MoreParts .array text
  | [], _, rfl => .nil
  | v :: rest, _, ⟨_, _, padded, h, rfl⟩ =>
    .cons (PassedOver.of_padded padded (Value.Written.passedOver v))
      (MoreItemsText.moreParts rest h)

theorem MembersText.parts : ∀ (members : List (Option (List Char) × Value)) {text : List Char},
    MembersText members text → Parts .object text
  | [], _, blank => .inl blank
  | (_, v) :: rest, _, ⟨first, more, member, h, split⟩ =>
    .inr ⟨first, more, PassedOver.of_memberText member (Value.Written.passedOver v),
      MoreMembersText.moreParts rest h, split⟩

theorem MoreMembersText.moreParts : ∀ (members : List (Option (List Char) × Value))
    {text : List Char}, MoreMembersText members text → MoreParts .object text
  | [], _, rfl => .nil
  | (_, v) :: rest, _, ⟨_, _, member, h, rfl⟩ =>
    .cons (PassedOver.of_memberText member (Value.Written.passedOver v))
      (MoreMembersText.moreParts rest h)

end

/-- A value is passed over with the blanks around it, up to the token that comes behind. -/
theorem Value.Written.skipValue_eq {v : Value} {text rest : List Char}
    (written : Padded v.Written text) (ends : EndsNumeral rest) :
    skipValue (tokens (text ++ rest)) = .ok (tokens rest) :=
  PassedOver.of_padded written (Value.Written.passedOver v) _ (.inr rfl) [] rest ends

end DocQuery.Json
