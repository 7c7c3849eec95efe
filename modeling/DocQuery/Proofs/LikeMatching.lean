import Mathlib.Data.List.Basic
import DocQuery.LikePattern

/- What LIKE patterns and their expressions select. `Like` says when a text is of a pattern, and
   `Expression.Finds` when a regular expression is found in a text; both compare characters in the
   same way, whatever that way is. The expression of a pattern reads back as the parts of the pattern
   (`read_expressionOf`), with a `%` at an end left out together with the anchor there. Searching
   makes up for it, since it lets any run stand where there is no anchor. Main statement:
   `expression_finds_iff_like`. -/

namespace DocQuery

/-! ## Regular expressions -/

/-- One part of a regular expression. -/
inductive Atom where
  | char (c : Char)
  | anyOne
  | anyRun
  deriving DecidableEq, Repr

/-- A regular expression: what it consists of, and at which ends of a text it has to stand. -/
structure Expression where
  atStart : Bool
  atoms : List Atom
  atEnd : Bool
  deriving DecidableEq, Repr

namespace Expression

/-- Reads the parts of an expression, and whether there is an anchor behind them. A backslash takes
    the next character as it is, and `$` is an anchor in the last place only. -/
def readAtoms : List Char → List Atom × Bool
  | [] => ([], false)
  | ['$'] => ([], true)
  | '\\' :: c :: rest => (.char c :: (readAtoms rest).1, (readAtoms rest).2)
  | '.' :: '*' :: rest => (.anyRun :: (readAtoms rest).1, (readAtoms rest).2)
  | '.' :: rest => (.anyOne :: (readAtoms rest).1, (readAtoms rest).2)
  | c :: rest => (.char c :: (readAtoms rest).1, (readAtoms rest).2)

/-- Reads an expression; `^` is an anchor in the first place only. -/
def read : List Char → Expression
  | '^' :: rest => ⟨true, (readAtoms rest).1, (readAtoms rest).2⟩
  | text => ⟨false, (readAtoms text).1, (readAtoms text).2⟩

example : read "^a\\.b.*.$".toList =
    ⟨true, [.char 'a', .char '.', .char 'b', .anyRun, .anyOne], true⟩ := by decide +kernel

variable (alike : Char → Char → Prop) (endsLine : Char → Prop)

/-- The parts spell a text. A character stands for those alike to it, and no part goes beyond the
    end of a line. -/
inductive Spells : List Atom → List Char → Prop where
  | nil : Spells [] []
  | char {c d : Char} {atoms : List Atom} {text : List Char} (same : alike c d)
      (rest : Spells atoms text) : Spells (.char c :: atoms) (d :: text)
  | anyOne {d : Char} {atoms : List Atom} {text : List Char} (inLine : ¬endsLine d)
      (rest : Spells atoms text) : Spells (.anyOne :: atoms) (d :: text)
  | anyRun {atoms : List Atom} {text : List Char} (run : List Char)
      (inLine : ∀ d ∈ run, ¬endsLine d) (rest : Spells atoms text) :
      Spells (.anyRun :: atoms) (run ++ text)

/-- The expression is found in a text: some piece of it is spelled, at the ends where there are
    anchors. -/
def Finds (e : Expression) (text : List Char) : Prop :=
  ∃ before found after, text = before ++ found ++ after ∧ Spells alike endsLine e.atoms found ∧
    (e.atStart = true → before = []) ∧ (e.atEnd = true → after = [])

end Expression

/-! ## Patterns -/

/-- A text is of a pattern: `%` stands for any run of characters and `_` for any one character, a
    backslash takes the next character as it is and stands for itself at the end. -/
inductive Like (alike : Char → Char → Prop) : List Char → List Char → Prop where
  | nil : Like alike [] []
  | anyRun {pattern text : List Char} (run : List Char) (rest : Like alike pattern text) :
      Like alike ('%' :: pattern) (run ++ text)
  | anyOne {pattern text : List Char} (d : Char) (rest : Like alike pattern text) :
      Like alike ('_' :: pattern) (d :: text)
  | escaped {c d : Char} {pattern text : List Char} (same : alike c d)
      (rest : Like alike pattern text) : Like alike ('\\' :: c :: pattern) (d :: text)
  | backslash {d : Char} (same : alike '\\' d) : Like alike ['\\'] [d]
  | literal {c d : Char} {pattern text : List Char} (plain : c ≠ '%' ∧ c ≠ '_' ∧ c ≠ '\\')
      (same : alike c d) (rest : Like alike pattern text) : Like alike (c :: pattern) (d :: text)

/-- The part of an expression that stands for a part of a pattern. -/
def Wildcard.atom : Wildcard → Atom
  | .literal c => .char c
  | .anyRun => .anyRun
  | .anyOne => .anyOne

namespace LikePattern

theorem wildcards_literal {c : Char} (plain : c ≠ '%' ∧ c ≠ '_' ∧ c ≠ '\\') (rest : List Char) :
    wildcards (c :: rest) = .literal c :: wildcards rest := by
  obtain ⟨run, one, escape⟩ := plain
  rw [wildcards]
  · exact fun _ _ h => absurd h escape
  · exact run
  · exact one

/-! ## Reading an expression back -/

/-- The anchor behind an expression, if there is one. -/
def ending (stop : Bool) : List Char := if stop then ['$'] else []

theorem ne_of_plain {c m : Char} (plain : ¬metacharacters.contains c = true)
    (special : metacharacters.contains m = true) : c ≠ m :=
  fun same => plain (same ▸ special)

/-- No expression of a part begins with a character that would be taken for something else. -/
theorem ne_of_mem_head?_expressions {ws : List Wildcard} {stop : Bool} {c : Char}
    (h : c ∈ (ws.flatMap Wildcard.expression ++ ending stop).head?) : c ≠ '*' ∧ c ≠ '^' := by
  cases ws with
  | nil =>
    cases stop with
    | true =>
      cases h
      decide
    | false => cases h
  | cons w rest =>
    cases w with
    | anyRun | anyOne =>
      cases h
      decide
    | literal l =>
      rw [List.flatMap_cons, Wildcard.expression, escaped] at h
      split at h
      · cases h
        decide
      · next plain =>
        cases h
        exact ⟨ne_of_plain plain (by decide), ne_of_plain plain (by decide)⟩

/-- The expression of a part reads back as the part, unless what follows changes a dot. -/
theorem readAtoms_expression (w : Wildcard) {rest : List Char} (apart : '*' ∉ rest.head?) :
    Expression.readAtoms (Wildcard.expression w ++ rest) =
      (w.atom :: (Expression.readAtoms rest).1, (Expression.readAtoms rest).2) := by
  cases w with
  | anyRun => rfl
  | anyOne =>
    cases rest with
    | nil => rfl
    | cons c rest =>
      show Expression.readAtoms ('.' :: c :: rest) = _
      rw [Expression.readAtoms]
      · rfl
      · intro rest' h
        cases h
        exact apart rfl
  | literal c =>
    rw [Wildcard.expression, escaped]
    split
    · rfl
    · next plain =>
      -- A character without a backslash is none of those that are read in another way.
      show Expression.readAtoms (c :: rest) = _
      rw [Expression.readAtoms]
      · rfl
      · exact fun h => absurd h (ne_of_plain plain (by decide))
      · exact fun _ _ h => absurd h (ne_of_plain plain (by decide))
      · exact fun _ h => absurd h (ne_of_plain plain (by decide))
      · exact fun h => absurd h (ne_of_plain plain (by decide))

theorem readAtoms_expressions (ws : List Wildcard) (stop : Bool) :
    Expression.readAtoms (ws.flatMap Wildcard.expression ++ ending stop) =
      (ws.map Wildcard.atom, stop) := by
  induction ws with
  | nil => cases stop <;> rfl
  | cons w rest ih =>
    have apart : '*' ∉ (rest.flatMap Wildcard.expression ++ ending stop).head? :=
      fun h => (ne_of_mem_head?_expressions h).1 rfl
    rw [List.flatMap_cons, List.append_assoc, readAtoms_expression w apart, ih]
    rfl

/-- The expression of a pattern reads back as its parts without those that are left out at open
    ends, and as anchored at the other ends. -/
theorem read_expressionOf (ws : List Wildcard) :
    Expression.read (expressionOf ws) =
      ⟨!openStart ws, (core ws).map Wildcard.atom, !openEnd ws⟩ := by
  have parts := readAtoms_expressions (core ws) (!openEnd ws)
  have behind : (if openEnd ws then [] else ['$']) = ending (!openEnd ws) := by
    cases openEnd ws <;> rfl
  rw [expressionOf, behind, List.append_assoc]
  cases start : openStart ws with
  | false =>
    show Expression.read ('^' :: ((core ws).flatMap Wildcard.expression ++ _)) = _
    rw [Expression.read, parts]
    rfl
  | true =>
    show Expression.read (_ ++ ending _) = _
    rw [Expression.read, parts]
    · rfl
    · intro rest h
      have first : '^' ∈ ((core ws).flatMap Wildcard.expression ++ ending (!openEnd ws)).head? := by
        rw [h]
        rfl
      exact (ne_of_mem_head?_expressions first).2 rfl

/-! ## What is left out at the ends -/

/-- A `%` at an open end. -/
def padding (isOpen : Bool) : List Wildcard := if isOpen then [.anyRun] else []

theorem dropLast_append_padding {ws l : List Wildcard} (same : l.getLast? = ws.getLast?) :
    (if openEnd ws then l.dropLast else l) ++ padding (openEnd ws) = l := by
  cases stop : openEnd ws with
  | false => simp [padding]
  | true =>
    have last : l.getLast? = some .anyRun := by
      rw [same]
      simpa [openEnd] using stop
    exact List.dropLast_append_getLast? _ last

/-- The parts are those in between with a `%` at each open end, but for the lone `%`, which is open
    at both. -/
theorem padding_core (ws : List Wildcard) :
    padding (openStart ws) ++ core ws ++ padding (openEnd ws) =
      if ws = [.anyRun] then [.anyRun, .anyRun] else ws := by
  match ws with
  | [] => rfl
  | [w] => cases w <;> rfl
  | w :: v :: rest =>
    rw [if_neg (by simp), List.append_assoc]
    unfold core
    cases start : openStart (w :: v :: rest) with
    | false => exact dropLast_append_padding rfl
    | true =>
      have first : w = .anyRun := by simpa [openStart] using start
      have last : (v :: rest).getLast? = (w :: v :: rest).getLast? := List.getLast?_cons_cons.symm
      have tail := dropLast_append_padding last
      subst first
      exact congrArg (Wildcard.anyRun :: ·) tail

end LikePattern

/-! ## Spelling -/

namespace Expression

variable {alike : Char → Char → Prop} {endsLine : Char → Prop}

theorem spells_append {as bs : List Atom} {text : List Char} :
    Spells alike endsLine (as ++ bs) text ↔
      ∃ front back, text = front ++ back ∧ Spells alike endsLine as front ∧
        Spells alike endsLine bs back := by
  constructor
  · intro h
    induction as generalizing text with
    | nil => exact ⟨[], text, rfl, .nil, h⟩
    | cons a as ih =>
      cases h with
      | char same rest =>
        obtain ⟨front, back, rfl, hf, hb⟩ := ih rest
        exact ⟨_ :: front, back, rfl, .char same hf, hb⟩
      | anyOne inLine rest =>
        obtain ⟨front, back, rfl, hf, hb⟩ := ih rest
        exact ⟨_ :: front, back, rfl, .anyOne inLine hf, hb⟩
      | anyRun run inLine rest =>
        obtain ⟨front, back, rfl, hf, hb⟩ := ih rest
        exact ⟨run ++ front, back, (List.append_assoc run front back).symm,
          .anyRun run inLine hf, hb⟩
  · rintro ⟨front, back, rfl, hf, hb⟩
    induction hf with
    | nil => exact hb
    | char same rest ih => exact .char same ih
    | anyOne inLine rest ih => exact .anyOne inLine ih
    | anyRun run inLine rest ih =>
      rw [List.append_assoc]
      exact .anyRun run inLine ih

theorem spells_anyRun {text : List Char} (oneLine : ∀ d ∈ text, ¬endsLine d) :
    Spells alike endsLine [.anyRun] text := by
  have whole : Spells alike endsLine [.anyRun] (text ++ []) := .anyRun text oneLine .nil
  rwa [List.append_nil] at whole

theorem spells_nil {text : List Char} : Spells alike endsLine [] text ↔ text = [] := by
  constructor
  · intro h
    cases h
    rfl
  · rintro rfl
    exact .nil

/-- A `%` at an end allows anything there, and where there is none there is nothing. -/
theorem spells_padding {isOpen : Bool} {text : List Char} (oneLine : ∀ d ∈ text, ¬endsLine d) :
    Spells alike endsLine ((LikePattern.padding isOpen).map Wildcard.atom) text ↔
      ((!isOpen) = true → text = []) := by
  cases isOpen with
  | true => exact iff_of_true (spells_anyRun oneLine) fun h => nomatch h
  | false => simpa [LikePattern.padding] using spells_nil

end Expression

namespace LikePattern

variable {alike : Char → Char → Prop} {endsLine : Char → Prop}

open Expression (Spells Finds)

/-- Anything may stand where there is no anchor, as if there were a `%`. -/
theorem finds_iff_spells_padded {start stop : Bool} {ws : List Wildcard} {text : List Char}
    (oneLine : ∀ d ∈ text, ¬endsLine d) :
    Finds alike endsLine ⟨!start, ws.map Wildcard.atom, !stop⟩ text ↔
      Spells alike endsLine ((padding start ++ ws ++ padding stop).map Wildcard.atom) text := by
  rw [List.map_append, List.map_append, Expression.spells_append]
  constructor
  · rintro ⟨before, found, after, rfl, spelled, front, back⟩
    obtain ⟨inFront, inAfter⟩ := List.forall_mem_append.mp oneLine
    obtain ⟨inBefore, _⟩ := List.forall_mem_append.mp inFront
    refine ⟨before ++ found, after, rfl, ?_, (Expression.spells_padding inAfter).mpr back⟩
    exact Expression.spells_append.mpr
      ⟨before, found, rfl, (Expression.spells_padding inBefore).mpr front, spelled⟩
  · rintro ⟨_, after, rfl, spelled, back⟩
    obtain ⟨before, found, rfl, front, middle⟩ := Expression.spells_append.mp spelled
    obtain ⟨inFront, inAfter⟩ := List.forall_mem_append.mp oneLine
    obtain ⟨inBefore, _⟩ := List.forall_mem_append.mp inFront
    exact ⟨before, found, after, rfl, middle, (Expression.spells_padding inBefore).mp front,
      (Expression.spells_padding inAfter).mp back⟩

/-- Searching for the expression of a pattern comes to spelling out all of its parts. -/
theorem finds_expressionOf_iff {ws : List Wildcard} {text : List Char}
    (oneLine : ∀ d ∈ text, ¬endsLine d) :
    Finds alike endsLine (Expression.read (expressionOf ws)) text ↔
      Spells alike endsLine (ws.map Wildcard.atom) text := by
  rw [read_expressionOf, finds_iff_spells_padded oneLine, padding_core]
  split
  · next lone =>
    -- One `%` allows as much as two.
    rw [lone]
    refine iff_of_true ?_ (Expression.spells_anyRun oneLine)
    have rest : Spells alike endsLine [.anyRun] [] := Expression.spells_anyRun nofun
    have both : Spells alike endsLine ([.anyRun] ++ [.anyRun]) text :=
      Expression.spells_append.mpr
        ⟨text, [], (List.append_nil text).symm, Expression.spells_anyRun oneLine, rest⟩
    exact both
  · rfl

/-- A text is of a pattern if the parts of the pattern spell it. -/
theorem like_iff_spells {pattern text : List Char} (oneLine : ∀ d ∈ text, ¬endsLine d) :
    Like alike pattern text ↔
      Spells alike endsLine ((wildcards pattern).map Wildcard.atom) text := by
  constructor
  · intro h
    induction h with
    | nil => exact .nil
    | anyRun run rest ih =>
      obtain ⟨inRun, inRest⟩ := List.forall_mem_append.mp oneLine
      exact .anyRun run inRun (ih inRest)
    | anyOne d rest ih =>
      obtain ⟨first, inRest⟩ := List.forall_mem_cons.mp oneLine
      exact .anyOne first (ih inRest)
    | escaped same rest ih => exact .char same (ih (List.forall_mem_cons.mp oneLine).2)
    | backslash same => exact .char same .nil
    | literal plain same rest ih =>
      rw [wildcards_literal plain]
      exact .char same (ih (List.forall_mem_cons.mp oneLine).2)
  · intro h
    fun_induction wildcards pattern generalizing text with
    | case1 =>
      cases h
      exact .nil
    | case2 c rest ih =>
      cases h with
      | char same later => exact .escaped same (ih (List.forall_mem_cons.mp oneLine).2 later)
    | case3 rest ih =>
      cases h with
      | anyRun run inLine later =>
        exact .anyRun run (ih (List.forall_mem_append.mp oneLine).2 later)
    | case4 rest ih =>
      cases h with
      | anyOne inLine later => exact .anyOne _ (ih (List.forall_mem_cons.mp oneLine).2 later)
    | case5 c rest escapes run one ih =>
      cases h with
      | char same later =>
        by_cases backslash : c = '\\'
        · -- Nothing is left that the backslash could escape.
          cases rest with
          | nil =>
            cases later
            rw [backslash] at same ⊢
            exact .backslash same
          | cons next rest => exact absurd rfl (escapes next rest backslash)
        · exact .literal ⟨run, one, backslash⟩ same
            (ih (List.forall_mem_cons.mp oneLine).2 later)

/-- The expression of a pattern is found in exactly the texts of the pattern, if these are single
    lines: however characters are compared, and whatever ends a line. -/
theorem expression_finds_iff_like (alike : Char → Char → Prop) (endsLine : Char → Prop)
    (pattern text : String) (oneLine : ∀ d ∈ text.toList, ¬endsLine d) :
    Finds alike endsLine (Expression.read (expression pattern).toList) text.toList ↔
      Like alike pattern.toList text.toList := by
  rw [expression, String.toList_ofList, finds_expressionOf_iff oneLine, like_iff_spells oneLine]

/-- A pattern that is open in front, with an escaped `%` in it and a backslash at its end: case does
    not matter, and there may be no break in the line. -/
theorem escaped_pattern_finds_text :
    (∀ d ∈ "say 5% X\\".toList, ¬d = '\n') ∧
    Finds (fun c d => c.toLower = d.toLower) (· = '\n')
      (Expression.read (expression "%5\\%_x\\").toList) "say 5% X\\".toList := by
  have oneLine : ∀ d ∈ "say 5% X\\".toList, ¬d = '\n' := by simp
  have like : Like (fun c d => c.toLower = d.toLower) "%5\\%_x\\".toList "say 5% X\\".toList :=
    .anyRun "say ".toList <| .literal (by decide) rfl <| .escaped rfl <| .anyOne ' ' <|
      .literal (by decide) (by decide) <| .backslash rfl
  exact ⟨oneLine, (expression_finds_iff_like _ _ _ _ oneLine).mpr like⟩

end LikePattern

end DocQuery
