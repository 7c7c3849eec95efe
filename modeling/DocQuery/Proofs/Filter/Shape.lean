import DocQuery.Filter.Condition

/- The documents that clauses with fit operands become. `Compiles` lists them, operator by
   operator; `compiles_of_isFit` says that a fit clause becomes the listed one, so none of the
   readings that are kept for unfit operands is taken. -/

namespace DocQuery

/-! ## Operands that are accepted -/

namespace Requirement

theorem accepts_pair {v : Value} (h : pair.accepts v = true) :
    ∃ first second, v = .array [first, second] := by
  cases v with
  | array items =>
    match items, h with
    | [first, second], _ => exact ⟨first, second, rfl⟩
  | _ => cases h

theorem accepts_sequence {v : Value} (h : sequence.accepts v = true) :
    ∃ items, v = .array items := by
  cases v with
  | array items => exact ⟨items, rfl⟩
  | _ => cases h

theorem accepts_pattern {v : Value} (h : pattern.accepts v = true) :
    ∃ text, v = .string text := by
  cases v with
  | string text => exact ⟨text, rfl⟩
  | _ => cases h

theorem accepts_boolean {v : Value} (h : boolean.accepts v = true) :
    ∃ flag, v = .bool flag := by
  cases v with
  | bool flag => exact ⟨flag, rfl⟩
  | _ => cases h

theorem accepts_naturalNumber {v : Value} (h : naturalNumber.accepts v = true) :
    ∃ n : Int64, v = .int n ∧ 0 ≤ n.toInt := by
  cases v with
  | int n => exact ⟨n, rfl, of_decide_eq_true h⟩
  | _ => cases h

theorem accepts_nativeDocument {v : Value} (h : nativeDocument.accepts v = true) :
    ∃ d, v = .native (.document d) := by
  cases v with
  | native value =>
    cases value with
    | document d => exact ⟨d, rfl⟩
    | _ => cases h
  | _ => cases h

theorem accepts_patternOrRegex {v : Value} (h : patternOrRegex.accepts v = true) :
    (∃ text, v = .string text) ∨
      ∃ expression options, v = .native (.regex expression options) := by
  cases v with
  | string text => exact .inl ⟨text, rfl⟩
  | native value =>
    cases value with
    | regex expression options => exact .inr ⟨expression, options, rfl⟩
    | _ => cases h
  | _ => cases h

end Requirement

/-! ## The document that each operator asks for -/

open Document (field)

/-- What a clause on a column becomes, for every operator and the operands that it accepts. -/
inductive Compiles (column : String) : Operator → Value → Document → Prop where
  | equal (v : Value) : Compiles column .eq v (field column v.coerce)
  | raw (d : Document) : Compiles column .raw (.native (.document d)) (field column (.document d))
  | comparison {op : Operator} {key : String}
      (h : (op, key) ∈ [(.ne, "$ne"), (.gt, "$gt"), (.gte, "$gte"), (.lt, "$lt"), (.lte, "$lte"),
        (.type, "$type")])
      (v : Value) : Compiles column op v (field column (.document (field key v.coerce)))
  | sequence {op : Operator} {key : String}
      (h : (op, key) ∈ [(.isIn, "$in"), (.notIn, "$nin"), (.all, "$all")]) (items : List Value) :
      Compiles column op (.array items)
        (field column (.document (field key (.array (items.map Value.coerce)))))
  | between (low high : Value) :
      Compiles column .between (.array [low, high])
        (field column (.document ⟨[("$gte", low.coerce), ("$lte", high.coerce)]⟩))
  | notBetween (low high : Value) :
      Compiles column .notBetween (.array [low, high])
        (field "$or" (.array
          [.document (field column (.document (field "$lte" low.coerce))),
            .document (field column (.document (field "$gte" high.coerce)))]))
  | like (pattern : String) :
      Compiles column .like (.string pattern)
        (field column (.document
          ⟨[("$regex", .string (LikePattern.expression pattern)), ("$options", .string "i")]⟩))
  | notLike (pattern : String) :
      Compiles column .notLike (.string pattern)
        (field column (.document (field "$not" (.document
          ⟨[("$regex", .string (LikePattern.expression pattern)), ("$options", .string "i")]⟩))))
  | regex (text : String) :
      Compiles column .regex (.string text)
        (field column (.document (field "$regex" (.string text))))
  | nativeRegex (expression options : String) :
      Compiles column .regex (.native (.regex expression options))
        (field column (.document (field "$regex" (.regex expression options))))
  | fieldExists (flag : Bool) :
      Compiles column .fieldExists (.bool flag)
        (field column (.document (field "$exists" (.bool flag))))
  | size {n : Int64} (h : 0 ≤ n.toInt) :
      Compiles column .size (.int n) (field column (.document (field "$size" (.ofInt n))))
  | elemMatch (d : Document) :
      Compiles column .elemMatch (.native (.document d))
        (field column (.document (field "$elemMatch" (.document d))))
  | mod (divisor remainder : Value) :
      Compiles column .mod (.array [divisor, remainder])
        (field column (.document
          (field "$mod" (.array [divisor.coerce, remainder.coerce]))))

theorem Clause.compiles_of_isFit {c : Clause} (h : c.isFit = true) :
    Compiles c.column c.operator c.operand c.document := by
  obtain ⟨column, operator, operand, connector⟩ := c
  unfold Clause.isFit at h
  dsimp only at h ⊢
  cases operator with
  | eq => exact .equal operand
  | ne | gt | gte | lt | lte | type => exact .comparison (by decide) operand
  | isIn | notIn | all =>
    obtain ⟨items, rfl⟩ := Requirement.accepts_sequence h
    show Compiles column _ (.array items)
      (field column (.document (field _ (.array (Value.coerceAll items)))))
    rw [Value.coerceAll_eq_map]
    exact .sequence (by decide) items
  | between =>
    obtain ⟨low, high, rfl⟩ := Requirement.accepts_pair h
    exact .between low high
  | notBetween =>
    obtain ⟨low, high, rfl⟩ := Requirement.accepts_pair h
    exact .notBetween low high
  | like =>
    obtain ⟨pattern, rfl⟩ := Requirement.accepts_pattern h
    exact .like pattern
  | notLike =>
    obtain ⟨pattern, rfl⟩ := Requirement.accepts_pattern h
    exact .notLike pattern
  | regex =>
    rcases Requirement.accepts_patternOrRegex h with ⟨text, rfl⟩ | ⟨expression, options, rfl⟩
    · exact .regex text
    · exact .nativeRegex expression options
  | fieldExists =>
    obtain ⟨flag, rfl⟩ := Requirement.accepts_boolean h
    exact .fieldExists flag
  | size =>
    obtain ⟨n, rfl, natural⟩ := Requirement.accepts_naturalNumber h
    exact .size natural
  | elemMatch =>
    obtain ⟨d, rfl⟩ := Requirement.accepts_nativeDocument h
    exact .elemMatch d
  | mod =>
    obtain ⟨divisor, remainder, rfl⟩ := Requirement.accepts_pair h
    exact .mod divisor remainder
  | raw =>
    obtain ⟨d, rfl⟩ := Requirement.accepts_nativeDocument h
    exact .raw d

/-! ## Empty documents -/

theorem Document.find?_field (key : String) (value : Bson) :
    (field key value).find? key = some value := by
  simp [field, OrderedMap.single, OrderedMap.find?]

theorem Value.eq_of_coerce_document {v : Value} {d : Document} (h : v.coerce = .document d) :
    v = .native (.document d) := by
  cases v with
  | native value => exact congrArg Value.native h
  | int n =>
    rw [Value.coerce, Bson.ofInt] at h
    split at h <;> cases h
  | _ => cases h

/-- Where an empty document stands on a column, the caller put it there. -/
theorem Compiles.operand_of_empty {column : String} {op : Operator} {v : Value} {d : Document}
    (h : Compiles column op v d) (empty : d.find? column = some (.document .empty)) :
    v = .native (.document .empty) := by
  cases h with
  | equal v =>
    rw [Document.find?_field] at empty
    exact Value.eq_of_coerce_document (Option.some.inj empty)
  | raw d =>
    rw [Document.find?_field] at empty
    cases empty
    rfl
  | notBetween low high =>
    -- The only entry stands under `$or`, which may be the name of the column.
    by_cases same : column = "$or"
    · subst same
      rw [Document.find?_field] at empty
      cases empty
    · have other : (column == "$or") = false := by simpa using same
      simp [field, OrderedMap.single, OrderedMap.find?, List.lookup_cons, other] at empty
  | _ =>
    rw [Document.find?_field] at empty
    cases empty

end DocQuery
