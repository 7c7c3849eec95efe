import DocQuery.Proofs.Builder.Groups
import DocQuery.Proofs.Filter.Shape
import DocQuery.Proofs.LikePattern

/- Every clause that a run of steps leaves in a builder, at whatever depth, has an operand that its
   operator accepts: a call that adds a clause checks the operand or makes a fit one itself
   (`Call.mem_clauses_run`). So a clause of a builder always becomes the document that its operator
   asks for. -/

namespace DocQuery

theorem Clause.checked_of_isFit {c : Clause} (h : c.isFit = true) : c.checked = .ok c := by
  rw [checked, if_pos h]

namespace Predicate

theorem clausesOf_append (ps qs : List Predicate) :
    clausesOf (ps ++ qs) = clausesOf ps ++ clausesOf qs := by
  simp only [clausesOf_eq_flatMap, List.flatMap_append]

theorem mem_clausesOf_of_mem_dropLast {ps : List Predicate} {c : Clause}
    (h : c ∈ clausesOf ps.dropLast) : c ∈ clausesOf ps := by
  rw [clausesOf_eq_flatMap, List.mem_flatMap] at h ⊢
  obtain ⟨p, hp, hc⟩ := h
  exact ⟨p, List.dropLast_subset ps hp, hc⟩

end Predicate

/-- The clauses that a call asks for. -/
inductive Call.Asks : Call → Clause → Prop where
  | equal (connector : Connector) (column : String) (value : Value) :
      Asks (.whereEq connector column value) ⟨column, .eq, value, connector⟩
  | raw (connector : Connector) {column : String} (h : isOperatorKey column = true) (d : Document) :
      Asks (.whereEq connector column (.native (.document d)))
        ⟨column, .raw, .native (.document d), connector⟩
  | compare (connector : Connector) (column : String) {operator : OperatorArg} {op : Operator}
      (h : operator.resolve = .ok op) (operand : Value) :
      Asks (.whereOp connector column operator operand) ⟨column, op, operand, connector⟩
  | isIn (connector : Connector) (column : String) (values : List Value) :
      Asks (.whereIn connector column values) ⟨column, .isIn, .array values, connector⟩
  | notIn (connector : Connector) (column : String) (values : List Value) :
      Asks (.whereNotIn connector column values) ⟨column, .notIn, .array values, connector⟩
  | null (column : String) : Asks (.whereNull column) ⟨column, .eq, .null, .and⟩
  | notNull (column : String) : Asks (.whereNotNull column) ⟨column, .ne, .null, .and⟩
  | between (column : String) (low high : Value) :
      Asks (.whereBetween column low high) ⟨column, .between, .array [low, high], .and⟩
  | notBetween (column : String) (low high : Value) :
      Asks (.whereNotBetween column low high) ⟨column, .notBetween, .array [low, high], .and⟩

namespace Builder

/-- The clauses of a builder, at any depth. -/
def clauses (b : Builder) : List Clause := Predicate.clausesOf b.query.predicates

theorem clauses_addPredicate (b : Builder) (p : Predicate) :
    (b.addPredicate p).clauses = b.clauses ++ p.clauses := by
  rw [clauses, addPredicate, Predicate.clausesOf_append, Predicate.clausesOf, Predicate.clausesOf,
    List.append_nil]
  rfl

theorem clauses_addGroup (b inner : Builder) (connector : Connector) :
    (b.addGroup connector inner.query.predicates).clauses = b.clauses ++ inner.clauses :=
  clauses_addPredicate b _

/-- A clause that is added is the only new one. -/
theorem mem_clauses_addPredicate {b : Builder} {new c : Clause}
    (h : c ∈ (b.addPredicate (.clause new)).clauses) : c ∈ b.clauses ∨ c = new := by
  rw [clauses_addPredicate, List.mem_append] at h
  exact h.imp_right List.mem_singleton.mp

/-- Equality takes any operand, and a raw condition is chosen for native documents only. -/
theorem whereEq_spec (b : Builder) (connector : Connector) (column : String) (value : Value) :
    ∃ new : Clause, b.whereEq connector column value = b.addPredicate (.clause new) ∧
      new.isFit = true ∧ (Call.whereEq connector column value).Asks new := by
  refine ⟨_, rfl, ?_⟩
  split
  · next chosen =>
    obtain ⟨isKey, native⟩ := Bool.and_eq_true_iff.mp chosen
    obtain ⟨d, rfl⟩ := Requirement.accepts_nativeDocument native
    exact ⟨rfl, .raw connector isKey d⟩
  · exact ⟨Requirement.accepts_anything value, .equal connector column value⟩

end Builder

/-! ## Calls and runs -/

/-- A call keeps clauses or drops them, and what it adds is fit and was asked for. -/
theorem Call.mem_clauses_run {b : Builder} {call : Call} {c : Clause}
    (h : c ∈ (call.run b).builder.clauses) :
    c ∈ b.clauses ∨ (c.isFit = true ∧ call.Asks c) := by
  cases call with
  | whereEq connector column value =>
    obtain ⟨new, added, fit, asked⟩ := b.whereEq_spec connector column value
    change c ∈ (b.whereEq connector column value).clauses at h
    rw [added] at h
    rcases Builder.mem_clauses_addPredicate h with old | rfl
    · exact .inl old
    · exact .inr ⟨fit, asked⟩
  | whereOp connector column operator operand =>
    rw [run_whereOp] at h
    split at h
    · exact .inl h
    · next op resolved =>
      split at h
      · exact .inl h
      · next clause checked =>
        obtain ⟨rfl, fit⟩ := Clause.checked_eq_ok checked
        rcases Builder.mem_clauses_addPredicate h with old | rfl
        · exact .inl old
        · exact .inr ⟨fit, .compare connector column resolved operand⟩
  | orderByWith column direction =>
    rw [run_orderByWith] at h
    split at h <;> exact .inl h
  | reorderBy column direction =>
    rw [run_reorderBy] at h
    split at h <;> exact .inl h
  | whereIn | whereNotIn | whereNull | whereNotNull | whereBetween | whereNotBetween =>
    -- These check nothing: the operand is made by the call, in the form its operator needs.
    rcases Builder.mem_clauses_addPredicate h with old | rfl
    · exact .inl old
    · exact .inr ⟨rfl, by constructor⟩
  | clear slot =>
    left
    cases slot with
    | predicates => exact absurd h List.not_mem_nil
    | lastPredicate => exact Predicate.mem_clausesOf_of_mem_dropLast h
    | _ => exact h
  | _ => exact .inl h

namespace Builder

/-- Every clause is fit, and one of the listed calls asked for it. -/
def IsAsked (listed : List Call) (b : Builder) : Prop :=
  ∀ c ∈ b.clauses, c.isFit = true ∧ ∃ call ∈ listed, call.Asks c

theorem isKept_isAsked (listed : List Call) : Step.IsKept listed (IsAsked listed) where
  start collection := by
    intro c hc
    exact absurd hc List.not_mem_nil
  call b call among h := by
    intro c hc
    rcases Call.mem_clauses_run hc with old | ⟨fit, asked⟩
    · exact h c old
    · exact ⟨fit, call, among, asked⟩
  group b inner connector h hi := by
    intro c hc
    rw [clauses_addGroup, List.mem_append] at hc
    rcases hc with old | new
    · exact h c old
    · exact hi c new

theorem isAsked_after (s : Settings) (steps : List Step) :
    ((ofSettings s).after steps).IsAsked (Step.callsOf steps) :=
  Step.after_preserves (isKept_isAsked _) steps (List.Subset.refl _)
    fun _ hc => absurd hc List.not_mem_nil

end Builder

/-- Every clause that a run leaves in a builder passes the check of its operand, was asked for by a
    call and becomes the document that its operator asks for. No condition on its column is empty
    unless the caller gave an empty document, and of LIKE patterns only `%` and `%%` become the
    empty expression. -/
theorem reachable_clauses_compile (s : Settings) (steps : List Step) (c : Clause)
    (h : c ∈ ((Builder.ofSettings s).after steps).clauses) :
    c.checked = .ok c ∧
    (∃ call ∈ Step.callsOf steps, call.Asks c) ∧
    Compiles c.column c.operator c.operand c.document ∧
    (c.document.find? c.column = some (.document .empty) →
      c.operand = .native (.document .empty)) ∧
    (c.operator = .like ∨ c.operator = .notLike → ∃ pattern, c.operand = .string pattern ∧
      (LikePattern.expression pattern = "" ↔ pattern = "%" ∨ pattern = "%%")) := by
  obtain ⟨fit, asked⟩ := Builder.isAsked_after s steps c h
  have compiles := Clause.compiles_of_isFit fit
  refine ⟨Clause.checked_of_isFit fit, asked, compiles, compiles.operand_of_empty, ?_⟩
  intro isLike
  have accepts : Requirement.pattern.accepts c.operand = true := by
    rcases isLike with like | notLike
    · rwa [Clause.isFit, like] at fit
    · rwa [Clause.isFit, notLike] at fit
  obtain ⟨pattern, operand⟩ := Requirement.accepts_pattern accepts
  exact ⟨pattern, operand, LikePattern.expression_eq_empty_iff pattern⟩

/-- A LIKE clause in a group that dropped a refused call. -/
theorem like_clause_in_group_compiles :
    (⟨"b", .like, .string "a%", .or⟩ : Clause) ∈
        (Builder.after (.new "docs") [.group .or .ignore
          [.call (.whereBetween "a" (.int 1) (.int 5)),
            .call (.whereOp .and "b" (.operator .size) (.string "a%")),
            .call (.whereOp .or "b" (.operator .like) (.string "a%"))]]).clauses ∧
      Compiles "b" .like (.string "a%")
        (.field "b" (.document ⟨[("$regex", .string "^a"), ("$options", .string "i")]⟩)) :=
  have reached := .tail _ (.head _)
  ⟨reached, (reachable_clauses_compile (.forCollection "docs") _ _ reached).2.2.1⟩

/-- The pattern that asks for nothing is found in every text, and it can be asked for. -/
theorem percent_pattern_compiles_to_empty_expression :
    ∃ c ∈ (Builder.after (.new "docs")
        [.call (.whereOp .and "a" (.operator .like) (.string "%"))]).clauses,
      c.operator = .like ∧
      c.document =
        .field "a" (.document ⟨[("$regex", .string ""), ("$options", .string "i")]⟩) :=
  ⟨⟨"a", .like, .string "%", .and⟩, .head _, rfl, rfl⟩

end DocQuery
