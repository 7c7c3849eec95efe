import DocQuery.Json.Numeral
import DocQuery.Json.Text

/- A text as a list of tokens. Scanning stops at the first token that is broken, and the broken
   token is the last of the list; whether and how it counts is left to whoever reads the tokens. -/

namespace DocQuery.Json

/-- A word with a meaning of its own. -/
inductive Word where
  | null
  | bool (value : Bool)
  deriving DecidableEq, Repr

/-- A token of a text. -/
inductive Token where
  | openBrace
  | closeBrace
  | openBracket
  | closeBracket
  | comma
  | colon
  | word (word : Except Fault Word)
  | numeral (numeral : Except Fault Numeral)
  /-- the pieces of a string, and the fault after them if the string is broken -/
  | text (pieces : List Piece) (ending : Option Fault)
  /-- a character that begins no token -/
  | stray

/-- Reads the rest of a word. -/
def scanWord : List Char → List Char → Except Fault (List Char)
  | [], s => .ok s
  | _ :: _, [] => .error .cutOff
  | expected :: more, c :: s => if expected = c then scanWord more s else .error .malformed

/-- The token of a word, given what follows its first letter, and the text after it if the token is
    whole. -/
def wordToken (word : Word) (more s : List Char) : Token × Option (List Char) :=
  match scanWord more s with
  | .ok rest => (.word (.ok word), some rest)
  | .error fault => (.word (.error fault), none)

/-- The token of a numeral, and the text after it if the token is whole. -/
def numeralToken (s : List Char) : Token × Option (List Char) :=
  match scanNumeral s with
  | .ok (numeral, rest) => (.numeral (.ok numeral), some rest)
  | .error fault => (.numeral (.error fault), none)

/-- The token of a string, given the text behind its opening mark, and the text after it if the
    token is whole. -/
def textToken (s : List Char) : Token × Option (List Char) :=
  let scanned := scanText s
  match scanned.rest with
  | .ok rest => (.text scanned.pieces none, some rest)
  | .error fault => (.text scanned.pieces (some fault), none)

/-- The token that begins with a character, and the text after it if the token is whole. -/
def scanToken (c : Char) (s : List Char) : Token × Option (List Char) :=
  match c with
  | '{' => (.openBrace, some s)
  | '}' => (.closeBrace, some s)
  | '[' => (.openBracket, some s)
  | ']' => (.closeBracket, some s)
  | ',' => (.comma, some s)
  | ':' => (.colon, some s)
  | '"' => textToken s
  | 'n' => wordToken .null ['u', 'l', 'l'] s
  | 't' => wordToken (.bool true) ['r', 'u', 'e'] s
  | 'f' => wordToken (.bool false) ['a', 'l', 's', 'e'] s
  | _ => if c = '-' ∨ isDigit c then numeralToken (c :: s) else (.stray, none)

/-! ## What is left after a token is shorter -/

theorem scanWord_length {more s rest : List Char} (h : scanWord more s = .ok rest) :
    rest.length ≤ s.length := by
  fun_induction scanWord more s with
  | case1 s => cases h; exact Nat.le_refl _
  | case2 => cases h
  | case3 more c s ih => exact Nat.le_succ_of_le (ih h)
  | case4 => cases h

theorem scanText_length {s rest : List Char} (h : (scanText s).rest = .ok rest) :
    rest.length ≤ s.length := by
  fun_induction scanText s with
  | case1 | case4 | case5 | case7 | case8 | case9 => cases h
  | case2 =>
    cases h
    exact Nat.le_succ _
  | case3 =>
    rename_i ih
    have shorter := ih h
    simp only [List.length_cons]
    omega
  | case6 =>
    rename_i ih
    have shorter := ih h
    simp only [List.length_cons]
    omega
  | case10 =>
    rename_i ih
    exact Nat.le_succ_of_le (ih h)

theorem scanDigits1_length {s rest : List Char} {digits : List Nat}
    (h : scanDigits1 s = .ok (digits, rest)) : rest.length < s.length := by
  unfold scanDigits1 at h
  cases hd : scanDigits s with
  | mk found after =>
    rw [hd] at h
    cases found with
    | nil => cases h
    | cons d ds =>
      cases h
      simp only [scanDigits, Prod.mk.injEq] at hd
      obtain ⟨hd, rfl⟩ := hd
      have split := congrArg List.length (List.takeWhile_append_dropWhile (p := isDigit) (l := s))
      have taken := congrArg List.length hd
      simp only [List.length_append, List.length_map, List.length_cons] at split taken
      omega

theorem scanWhole_length {s rest : List Char} {digits : List Nat}
    (h : scanWhole s = .ok (digits, rest)) : rest.length < s.length := by
  unfold scanWhole at h
  split at h
  · cases h
  · exact scanDigits1_length h

theorem scanFraction_length {s rest : List Char} {digits : Option (List Nat)}
    (h : scanFraction s = .ok (digits, rest)) : rest.length ≤ s.length := by
  unfold scanFraction at h
  split at h
  · split at h
    · next found =>
      cases h
      exact Nat.le_succ_of_le (Nat.le_of_lt (scanDigits1_length found))
    · cases h
  · cases h
    exact Nat.le_refl _

theorem scanSign_length (s : List Char) : (scanSign s).2.length ≤ s.length := by
  unfold scanSign
  split <;> simp

theorem scanExponent_length {s rest : List Char} {exponent : Option (Bool × List Nat)}
    (h : scanExponent s = .ok (exponent, rest)) : rest.length ≤ s.length := by
  unfold scanExponent at h
  split at h
  · cases h
    exact Nat.le_refl _
  · next c s =>
    split at h
    · split at h
      · next found =>
        cases h
        have digits := scanDigits1_length found
        have sign := scanSign_length s
        simp only [List.length_cons]
        omega
      · cases h
    · cases h
      exact Nat.le_refl _

theorem scanUnsigned_length {negative : Bool} {s rest : List Char} {n : Numeral}
    (h : scanUnsigned negative s = .ok (n, rest)) : rest.length < s.length := by
  unfold scanUnsigned at h
  cases hw : scanWhole s with
  | error => rw [hw] at h; cases h
  | ok whole =>
    cases hf : scanFraction whole.2 with
    | error => simp [hw, hf, bind, Except.bind] at h
    | ok fraction =>
      cases he : scanExponent fraction.2 with
      | error => simp [hw, hf, he, bind, Except.bind] at h
      | ok exponent =>
        simp only [hw, hf, he, bind, Except.bind, pure, Except.pure, Except.ok.injEq,
          Prod.mk.injEq] at h
        have first := scanWhole_length hw
        have second := scanFraction_length hf
        have third := scanExponent_length he
        rw [← h.2]
        omega

theorem scanNumeral_length {s rest : List Char} {n : Numeral}
    (h : scanNumeral s = .ok (n, rest)) : rest.length < s.length := by
  unfold scanNumeral at h
  split at h
  · exact Nat.lt_succ_of_lt (scanUnsigned_length h)
  · exact scanUnsigned_length h

theorem wordToken_length {word : Word} {more s rest : List Char}
    (h : (wordToken word more s).2 = some rest) : rest.length ≤ s.length := by
  unfold wordToken at h
  split at h
  · next found =>
    cases h
    exact scanWord_length found
  · cases h

/-- A token takes at least its first character. -/
theorem scanToken_length {c : Char} {s rest : List Char}
    (h : (scanToken c s).2 = some rest) : rest.length ≤ s.length := by
  unfold scanToken at h
  split at h
  case h_1 | h_2 | h_3 | h_4 | h_5 | h_6 => cases h; exact Nat.le_refl _
  case h_7 =>
    unfold textToken at h
    dsimp only at h
    split at h
    · next found =>
      cases h
      exact scanText_length found
    · cases h
  case h_8 | h_9 | h_10 => exact wordToken_length h
  case h_11 =>
    split at h
    · unfold numeralToken at h
      split at h
      · next found =>
        cases h
        exact Nat.le_of_lt_succ (scanNumeral_length found)
      · cases h
    · cases h

/-- The tokens of a text, up to the first broken one. -/
def tokens : List Char → List Token
  | [] => []
  | c :: s =>
    if isSpace c then tokens s
    else
      match _found : (scanToken c s).2 with
      | some rest => (scanToken c s).1 :: tokens rest
      | none => [(scanToken c s).1]
termination_by s => s.length
decreasing_by
  · exact Nat.lt_succ_self _
  · exact Nat.lt_succ_of_le (scanToken_length _found)

end DocQuery.Json
