import Mathlib.Data.List.Basic
import DocQuery.Decimal.Layout
import DocQuery.Proofs.Json.Grammar

/- What the tokens of a text are, told from how the text was written. The pieces of a string are
   scanned one after the other (`scanText_append`) and joined to the characters that they make up
   (`joinPieces_eq_ok_iff`), and the text that strings are written as is one of their texts
   (`stringText_writeText`). A numeral is scanned up to the first character that cannot go on with
   it (`scanNumeral_append`). The text that comes after a token is left as it is, and blanks before
   a token do not count (`tokens_blank_append`). -/

namespace DocQuery.Json

/-! ## Strings -/

theorem scanText_piece {piece : Piece} {text : List Char} (h : PieceText piece text)
    (rest : List Char) :
    scanText (text ++ rest) = ⟨piece :: (scanText rest).pieces, (scanText rest).rest⟩ := by
  cases h with
  | plain mark escape plain =>
    rw [List.singleton_append, scanText.eq_def]
    split <;> simp_all
  | @escape letter c escape =>
    have short : letter ≠ 'u' := by
      rintro rfl
      cases escape
    rw [List.cons_append, List.singleton_append, scanText, escape]
    · exact fun _ _ _ _ _ unit _ => short unit
    · exact short
  | unit number =>
    simp only [List.cons_append, List.nil_append]
    rw [scanText, number]

/-- The pieces of a string are scanned, whatever comes after them. -/
theorem scanText_append {pieces : List Piece} {text : List Char} (h : PiecesText pieces text)
    (rest : List Char) :
    scanText (text ++ rest) = ⟨pieces ++ (scanText rest).pieces, (scanText rest).rest⟩ := by
  induction h with
  | nil => rfl
  | cons first _ ih => rw [List.append_assoc, scanText_piece first, ih, List.cons_append]

theorem isHalf_iff (n : Nat) :
    IsHalf n ↔ isHighSurrogate n = true ∨ isLowSurrogate n = true := by
  simp only [IsHalf, isHighSurrogate, isLowSurrogate, decide_eq_true_eq]
  omega

/-- A unit that is no half of a character stands for the character of its number. -/
theorem joinPieces_unit {n : Nat} (whole : ¬IsHalf n) (ending : Option Fault)
    (rest : List Piece) :
    joinPieces ending (.unit n :: rest) =
      (joinPieces ending rest).map (Char.ofNat n :: ·) := by
  simp only [isHalf_iff, not_or, Bool.not_eq_true] at whole
  rcases rest with _ | ⟨_ | unit, more⟩ <;> simp [joinPieces, whole]

theorem joinPieces_of_denotes {pieces : List Piece} {s : List Char} (h : Denotes pieces s) :
    joinPieces none pieces = .ok s := by
  induction h with
  | nil => rfl
  | char _ ih => simp [joinPieces, ih, Except.map]
  | unit whole _ ih => simp [joinPieces_unit whole, ih, Except.map]
  | pair high high' low low' _ ih =>
    simp [joinPieces, isHighSurrogate, isLowSurrogate, joinSurrogates, Except.map, *]

theorem exists_of_map_eq_ok {α β : Type} {f : α → β} {result : Except Fault α} {b : β}
    (h : result.map f = .ok b) : ∃ a, result = .ok a ∧ f a = b := by
  cases result with
  | error fault => cases h
  | ok a => exact ⟨a, rfl, Except.ok.inj h⟩

theorem denotes_of_joinPieces {pieces : List Piece} {s : List Char}
    (h : joinPieces none pieces = .ok s) : Denotes pieces s := by
  fun_induction joinPieces none pieces generalizing s with
  | case1 =>
    cases h
    exact .nil
  | case2 | case5 | case6 | case8 | case9 => cases h
  | case3 c rest ih =>
    obtain ⟨more, joined, rfl⟩ := exists_of_map_eq_ok h
    exact .char (ih joined)
  | case4 high low rest isHigh isLow ih =>
    obtain ⟨more, joined, rfl⟩ := exists_of_map_eq_ok h
    simp only [isHighSurrogate, isLowSurrogate, decide_eq_true_eq] at isHigh isLow
    exact .pair isHigh.1 isHigh.2 isLow.1 isLow.2 (ih joined)
  | case7 high low rest notHigh notLow ih =>
    obtain ⟨more, joined, rfl⟩ := exists_of_map_eq_ok h
    exact .unit (by simp [isHalf_iff, notHigh, notLow]) (ih joined)
  | case10 n rest _ notHigh notLow ih =>
    obtain ⟨more, joined, rfl⟩ := exists_of_map_eq_ok h
    exact .unit (by simp [isHalf_iff, notHigh, notLow]) (ih joined)

/-- Pieces are joined to the characters that they make up, and only to these. -/
theorem joinPieces_eq_ok_iff {pieces : List Piece} {s : List Char} :
    joinPieces none pieces = .ok s ↔ Denotes pieces s :=
  ⟨denotes_of_joinPieces, joinPieces_of_denotes⟩

/-! ## Written strings -/

theorem hexValue?_hexDigit {n : Nat} (small : n < 16) :
    Text.hexValue? (Text.hexDigit n) = some n := by
  have all : ∀ m ∈ List.range 16, Text.hexValue? (Text.hexDigit m) = some m := by decide
  exact all n (List.mem_range.mpr small)

/-- Two digits, behind two zeros, give the number of a control character. -/
theorem hexNumber?_of_isControl {c : Char} (control : isControl c = true) :
    Text.hexNumber? 0
      ['0', '0', Text.hexDigit (c.toNat / 16), Text.hexDigit (c.toNat % 16)] = some c.toNat := by
  have small : c.toNat < 0x20 := by simpa [isControl] using control
  have zero : Text.hexValue? '0' = some 0 := rfl
  have high := hexValue?_hexDigit (n := c.toNat / 16) (by omega)
  have low := hexValue?_hexDigit (n := c.toNat % 16) (by omega)
  have whole : 16 * (c.toNat / 16) + c.toNat % 16 = c.toNat := Nat.div_add_mod _ _
  simp [Text.hexNumber?, zero, high, low, whole]

/-- How a character is written is the text of one piece, which makes up the character. -/
theorem pieceText_written (c : Char) :
    ∃ piece, PieceText piece (written c) ∧
      ∀ pieces s, Denotes pieces s → Denotes (piece :: pieces) (c :: s) := by
  unfold written
  split_ifs with mark backslash backspace feed newline carriage tab control
  case pos | pos | pos | pos | pos | pos | pos =>
    subst c
    exact ⟨_, .escape rfl, fun _ _ => .char⟩
  case pos =>
    have small : c.toNat < 0x20 := by simpa [isControl] using control
    refine ⟨_, .unit (hexNumber?_of_isControl control), fun pieces s denotes => ?_⟩
    have whole : ¬IsHalf c.toNat := fun half => absurd half.1 (by omega)
    simpa [Char.ofNat_toNat] using Denotes.unit whole denotes
  case neg =>
    exact ⟨_, .plain mark backslash (by simpa using control), fun _ _ => .char⟩

theorem piecesText_flatMap_written (s : List Char) :
    ∃ pieces, Denotes pieces s ∧ PiecesText pieces (s.flatMap written) := by
  induction s with
  | nil => exact ⟨[], .nil, .nil⟩
  | cons c s ih =>
    obtain ⟨piece, first, joins⟩ := pieceText_written c
    obtain ⟨pieces, denotes, more⟩ := ih
    exact ⟨piece :: pieces, joins pieces s denotes, .cons first more⟩

/-- What a string is written as is one of its texts. -/
theorem stringText_writeText (s : List Char) : StringText (some s) (writeText s) := by
  obtain ⟨pieces, denotes, text⟩ := piecesText_flatMap_written s
  exact ⟨pieces, _, denotes, text, rfl⟩

/-! ## Numerals -/

theorem IsWhole.eq_cons {text : List Char} (whole : IsWhole text) :
    ∃ c more, text = c :: more ∧ isDigit c = true := by
  obtain ⟨c, more, rfl⟩ := List.exists_cons_of_ne_nil whole.ne_nil
  exact ⟨c, more, rfl, whole.digits c List.mem_cons_self⟩

/-- The text does not go on with a numeral that ends where the text begins. -/
def EndsNumeral (text : List Char) : Prop :=
  ∀ c ∈ text.head?, isDigit c = false ∧ c ≠ '.' ∧ c ≠ 'e' ∧ c ≠ 'E'

theorem isDigit_eq (c : Char) : isDigit c = c.isDigit := by
  simp only [isDigit, Char.isDigit, Bool.decide_and]
  rfl

/-- The digits of a positive natural begin with another digit than zero. -/
theorem head?_digitsOf_ne_zero {n : Nat} (positive : 0 < n) :
    (Decimal.digitsOf n).head? ≠ some '0' := by
  induction n using Nat.strongRecOn with
  | ind n ih =>
    rw [Decimal.digitsOf, Nat.toDigits_eq_if (by omega)]
    split
    · next small =>
      have all : ∀ m ∈ List.range 10, 0 < m → m.digitChar ≠ '0' := by decide
      simpa using all n (List.mem_range.mpr small) positive
    · next large =>
      rw [List.head?_append_of_ne_nil _ Nat.toDigits_ne_nil]
      exact ih (n / 10) (by omega) (by omega)

theorem isWhole_digitsOf (n : Nat) : IsWhole (Decimal.digitsOf n) where
  ne_nil := Nat.toDigits_ne_nil
  digits c mem := by
    rw [isDigit_eq]
    exact Nat.isDigit_of_mem_toDigits (by omega) (by omega) mem
  zero_alone head := by
    obtain rfl | positive := Nat.eq_zero_or_pos n
    · rfl
    · exact absurd head (head?_digitsOf_ne_zero positive)

/-- The digits of a natural spell it. -/
theorem numberOf_digitsOf (n : Nat) :
    numberOf 0 ((Decimal.digitsOf n).map digitValue) = n := by
  rw [numberOf, List.foldl_map]
  exact Nat.ofDigitChars_toDigits (by omega) (by omega)

/-- Digits are scanned up to a character that is none. -/
theorem scanDigits_append {ds rest : List Char} (digits : ∀ c ∈ ds, isDigit c = true)
    (ends : ∀ c ∈ rest.head?, isDigit c = false) :
    scanDigits (ds ++ rest) = (ds.map digitValue, rest) := by
  rw [scanDigits, List.takeWhile_append_of_pos digits, List.dropWhile_append_of_pos digits]
  cases rest with
  | nil => simp
  | cons c more => simp [ends c rfl]

theorem scanDigits1_append {values : List Nat} {ds rest : List Char} (text : DigitsText values ds)
    (ends : ∀ c ∈ rest.head?, isDigit c = false) :
    scanDigits1 (ds ++ rest) = .ok (values, rest) := by
  rw [scanDigits1, scanDigits_append text.digits ends, text.values]
  cases values with
  | nil => exact absurd (List.map_eq_nil_iff.mp text.values) text.ne_nil
  | cons value more => rfl

theorem eq_zero_of_digitValue {c : Char} (digit : isDigit c = true) (zero : digitValue c = 0) :
    c = '0' := by
  have least : '0' ≤ c := (of_decide_eq_true digit).1
  have most : c ≤ '0' := Nat.le_of_sub_eq_zero zero
  exact Char.le_antisymm most least

theorem scanWhole_append {ds rest : List Char} (whole : IsWhole ds)
    (ends : ∀ c ∈ rest.head?, isDigit c = false) :
    scanWhole (ds ++ rest) = .ok (ds.map digitValue, rest) := by
  rw [scanWhole, scanDigits1_append ⟨whole.ne_nil, whole.digits, rfl⟩ ends]
  split
  · next zero =>
    simp only [Except.ok.injEq, Prod.mk.injEq, List.map_eq_cons_iff] at zero
    obtain ⟨⟨c, _, rfl, value, _, _, rfl, _⟩, _⟩ := zero
    have first := eq_zero_of_digitValue (whole.digits c List.mem_cons_self) value
    cases whole.zero_alone (congrArg some first)
  · rfl

theorem scanFraction_append {fraction : Option (List Nat)} {text rest : List Char}
    (h : FractionText fraction text) (ends : ∀ c ∈ rest.head?, isDigit c = false ∧ c ≠ '.') :
    scanFraction (text ++ rest) = .ok (fraction, rest) := by
  cases fraction with
  | none =>
    obtain rfl : text = [] := h
    unfold scanFraction
    split
    · next point =>
      rw [List.nil_append] at point
      cases point
      exact absurd rfl (ends '.' rfl).2
    · rfl
  | some values =>
    obtain ⟨digits, found, rfl⟩ := h
    rw [List.cons_append, scanFraction, scanDigits1_append found fun c head => (ends c head).1]

/-- A sign is scanned, if a digit comes behind it. -/
theorem scanSign_append {negative : Bool} {sign : List Char} (h : SignText negative sign)
    {c : Char} (digit : isDigit c = true) (rest : List Char) :
    scanSign (sign ++ c :: rest) = (negative, c :: rest) := by
  cases negative with
  | true =>
    obtain rfl : sign = ['-'] := h
    rfl
  | false =>
    obtain rfl | rfl : sign = [] ∨ sign = ['+'] := h
    · rw [List.nil_append, scanSign.eq_def]
      split
      · next minus => cases minus; cases digit
      · next plus => cases plus; cases digit
      · rfl
    · rfl

theorem scanExponent_append {exponent : Option (Bool × List Nat)} {text rest : List Char}
    (h : ExponentText exponent text) (ends : EndsNumeral rest) :
    scanExponent (text ++ rest) = .ok (exponent, rest) := by
  cases exponent with
  | none =>
    obtain rfl : text = [] := h
    cases rest with
    | nil => rfl
    | cons c more => simp [scanExponent, (ends c rfl).2.2]
  | some exponent =>
    obtain ⟨negative, values⟩ := exponent
    obtain ⟨letter, sign, digits, mark, signed, found, rfl⟩ := h
    have scanned := scanDigits1_append found fun c head => (ends c head).1
    obtain ⟨c, more, rfl⟩ := List.exists_cons_of_ne_nil found.ne_nil
    have digit := found.digits c List.mem_cons_self
    rw [List.cons_append, List.append_assoc, scanExponent, if_pos mark, List.cons_append,
      scanSign_append signed digit]
    simp only [← List.cons_append, scanned]

/-- The text of an exponent begins with its letter. -/
theorem ExponentText.ends {exponent : Option (Bool × List Nat)} {text rest : List Char}
    (h : ExponentText exponent text) (ends : EndsNumeral rest) :
    ∀ c ∈ (text ++ rest).head?, isDigit c = false ∧ c ≠ '.' := by
  intro c head
  cases exponent with
  | none =>
    obtain rfl : text = [] := h
    exact ⟨(ends c head).1, (ends c head).2.1⟩
  | some exponent =>
    obtain ⟨letter, sign, digits, rfl | rfl, _, _, rfl⟩ := h
    all_goals
      cases head
      decide

/-- The text of a fraction begins with the point. -/
theorem FractionText.ends {fraction : Option (List Nat)} {text rest : List Char}
    (h : FractionText fraction text) (ends : ∀ c ∈ rest.head?, isDigit c = false ∧ c ≠ '.') :
    ∀ c ∈ (text ++ rest).head?, isDigit c = false := by
  intro c head
  cases fraction with
  | none =>
    obtain rfl : text = [] := h
    exact (ends c head).1
  | some values =>
    obtain ⟨digits, _, rfl⟩ := h
    cases head
    decide

theorem scanUnsigned_append {n : Numeral} {text rest : List Char} (h : UnsignedText n text)
    (ends : EndsNumeral rest) : scanUnsigned n.negative (text ++ rest) = .ok (n, rest) := by
  obtain ⟨negative, values, fraction, exponent⟩ := n
  obtain ⟨whole, point, power, isWhole, rfl, fractionText, exponentText, rfl⟩ := h
  have behindPoint := exponentText.ends ends
  rw [List.append_assoc, List.append_assoc, scanUnsigned,
    scanWhole_append isWhole (fractionText.ends behindPoint)]
  simp only [bind, Except.bind, pure, Except.pure, scanFraction_append fractionText behindPoint,
    scanExponent_append exponentText ends]

theorem UnsignedText.eq_cons {n : Numeral} {text : List Char} (h : UnsignedText n text) :
    ∃ c more, text = c :: more ∧ isDigit c = true := by
  obtain ⟨whole, point, power, isWhole, _, _, _, rfl⟩ := h
  obtain ⟨c, more, rfl, digit⟩ := isWhole.eq_cons
  exact ⟨c, more ++ (point ++ power), rfl, digit⟩

/-- A numeral is scanned up to where it ends. -/
theorem scanNumeral_append {n : Numeral} {text rest : List Char} (h : NumeralText n text)
    (ends : EndsNumeral rest) : scanNumeral (text ++ rest) = .ok (n, rest) := by
  unfold NumeralText at h
  split at h
  · next negative =>
    obtain ⟨unsigned, h, rfl⟩ := h
    rw [List.cons_append, scanNumeral, ← negative, scanUnsigned_append h ends]
  · next positive =>
    have scanned := scanUnsigned_append h ends
    obtain ⟨c, more, rfl, digit⟩ := h.eq_cons
    rw [Bool.not_eq_true] at positive
    unfold scanNumeral
    split
    · next minus =>
      cases minus
      cases digit
    · rw [← positive, scanned]

theorem numeralText_of_isWhole {ds : List Char} (whole : IsWhole ds) :
    NumeralText ⟨false, ds.map digitValue, none, none⟩ ds :=
  ⟨ds, [], [], whole, rfl, rfl, rfl, by simp⟩

/-! ## Tokens -/

/-- A text that begins with a token. -/
theorem tokens_cons {c : Char} {s rest : List Char} {token : Token} (visible : isSpace c = false)
    (scanned : scanToken c s = (token, some rest)) : tokens (c :: s) = token :: tokens rest := by
  rw [tokens, visible]
  simp only [Bool.false_eq_true, if_false]
  split
  · next after found =>
    rw [scanned] at found ⊢
    cases found
    rfl
  · next found =>
    rw [scanned] at found
    cases found

@[simp] theorem tokens_nil : tokens [] = [] := by rw [tokens]

@[simp] theorem tokens_openBrace (rest : List Char) :
    tokens ('{' :: rest) = .openBrace :: tokens rest := tokens_cons rfl rfl

@[simp] theorem tokens_closeBrace (rest : List Char) :
    tokens ('}' :: rest) = .closeBrace :: tokens rest := tokens_cons rfl rfl

@[simp] theorem tokens_openBracket (rest : List Char) :
    tokens ('[' :: rest) = .openBracket :: tokens rest := tokens_cons rfl rfl

@[simp] theorem tokens_closeBracket (rest : List Char) :
    tokens (']' :: rest) = .closeBracket :: tokens rest := tokens_cons rfl rfl

@[simp] theorem tokens_comma (rest : List Char) :
    tokens (',' :: rest) = .comma :: tokens rest := tokens_cons rfl rfl

@[simp] theorem tokens_colon (rest : List Char) :
    tokens (':' :: rest) = .colon :: tokens rest := tokens_cons rfl rfl

/-- Blanks before a token do not count. -/
@[simp] theorem tokens_blank_append {blank : List Char} (h : Blank blank) (rest : List Char) :
    tokens (blank ++ rest) = tokens rest := by
  induction blank with
  | nil => rfl
  | cons c blank ih =>
    rw [List.cons_append, tokens, if_pos (h c List.mem_cons_self)]
    exact ih fun d mem => h d (List.mem_cons_of_mem c mem)

/-- A string is one token, with pieces that have its content. -/
theorem tokens_stringText {content : Option (List Char)} {text : List Char}
    (h : StringText content text) :
    ∃ pieces, HasContent pieces content ∧
      ∀ rest, tokens (text ++ rest) = .text pieces none :: tokens rest := by
  obtain ⟨pieces, body, hasContent, spelled, rfl⟩ := h
  refine ⟨pieces, hasContent, fun rest => ?_⟩
  have closed : scanText ('"' :: rest) = ⟨[], .ok rest⟩ := by rw [scanText]
  rw [List.cons_append, List.append_assoc, List.singleton_append]
  exact tokens_cons rfl (by simp [scanToken, textToken, scanText_append spelled, closed])

/-- A written string is one token. -/
theorem tokens_writeText (s : List Char) :
    ∃ pieces, joinPieces none pieces = .ok s ∧
      ∀ rest, tokens (writeText s ++ rest) = .text pieces none :: tokens rest := by
  obtain ⟨pieces, denotes, scanned⟩ := tokens_stringText (stringText_writeText s)
  exact ⟨pieces, joinPieces_of_denotes denotes, scanned⟩

@[simp] theorem tokens_null (rest : List Char) :
    tokens ('n' :: 'u' :: 'l' :: 'l' :: rest) = .word (.ok .null) :: tokens rest :=
  tokens_cons rfl rfl

@[simp] theorem tokens_true (rest : List Char) :
    tokens ('t' :: 'r' :: 'u' :: 'e' :: rest) = .word (.ok (.bool true)) :: tokens rest :=
  tokens_cons rfl rfl

@[simp] theorem tokens_false (rest : List Char) :
    tokens ('f' :: 'a' :: 'l' :: 's' :: 'e' :: rest) = .word (.ok (.bool false)) :: tokens rest :=
  tokens_cons rfl rfl

theorem isSpace_of_isDigit {c : Char} (digit : isDigit c = true) : isSpace c = false := by
  cases space : isSpace c with
  | false => rfl
  | true =>
    simp only [isSpace, Bool.or_eq_true, beq_iff_eq] at space
    rcases space with ((rfl | rfl) | rfl) | rfl <;> cases digit

theorem scanToken_of_isDigit {c : Char} (digit : isDigit c = true) (s : List Char) :
    scanToken c s = numeralToken (c :: s) := by
  unfold scanToken
  split
  case h_11 => rw [if_pos (.inr digit)]
  all_goals cases digit

/-- A numeral is one token. -/
theorem tokens_numeral {n : Numeral} {text rest : List Char} (h : NumeralText n text)
    (ends : EndsNumeral rest) :
    tokens (text ++ rest) = .numeral (.ok n) :: tokens rest := by
  have scanned := scanNumeral_append h ends
  unfold NumeralText at h
  split at h
  · obtain ⟨unsigned, _, rfl⟩ := h
    rw [List.cons_append] at scanned ⊢
    exact tokens_cons rfl (by simp [scanToken, numeralToken, scanned])
  · obtain ⟨c, more, rfl, digit⟩ := h.eq_cons
    rw [List.cons_append] at scanned ⊢
    refine tokens_cons (isSpace_of_isDigit digit) ?_
    rw [scanToken_of_isDigit digit, numeralToken, scanned]

/-- A natural without leading zeros is one token. -/
theorem tokens_whole {ds rest : List Char} (whole : IsWhole ds) (ends : EndsNumeral rest) :
    tokens (ds ++ rest) =
      .numeral (.ok ⟨false, ds.map digitValue, none, none⟩) :: tokens rest :=
  tokens_numeral (numeralText_of_isWhole whole) ends

end DocQuery.Json
