import DocQuery.Proofs.Filter.Regrouping
import DocQuery.Proofs.Filter.Runs

/- What a filter means. An interpretation fixes, for one stored document, the truth of every test of
   an operator on a column and of every entry that is neither a junction nor made of operators. A
   filter document is then the conjunction of its entries, and a list of predicates is read as a
   caller wrote it: groups are parentheses, conjunction binds tighter than disjunction. Main
   statement: `holds_filterOf`, the filter document of a list means what the list means. -/

namespace DocQuery

/-- What holds for one stored document. -/
structure Interpretation where
  /-- an operator with its operand, on a column -/
  test : String → String → Bson → Bool
  /-- a regular expression on a column, with the options beside it -/
  matching : String → Bson → Option Bson → Bool
  /-- an entry as a whole -/
  whole : String → Bson → Bool

namespace Interpretation

variable (I : Interpretation)

/-- Every operator of a document holds for a column. Options are no test of their own if there is
    an expression that they belong to. -/
def operators (column : String) (d : Document) : Bool :=
  d.entries.all fun entry =>
    if entry.1 = "$regex" then I.matching column entry.2 (d.find? "$options")
    else if entry.1 = "$options" && d.contains "$regex" then true
    else I.test column entry.1 entry.2

mutual

/-- Every listed entry holds. -/
def entries : List (String × Bson) → Bool
  | [] => true
  | (key, value) :: rest => entry key value && entries rest

/-- An entry holds: a junction of documents, operators on a column, or something else. -/
def entry (key : String) : Bson → Bool
  | .array items =>
    if key = "$and" && Bson.areDocuments items then allHold items
    else if key = "$or" && Bson.areDocuments items then anyHolds items
    else I.whole key (.array items)
  | .document ⟨fields⟩ =>
    if Document.isOperators ⟨fields⟩ then I.operators key ⟨fields⟩
    else I.whole key (.document ⟨fields⟩)
  | value => I.whole key value

/-- A document of a junction holds. -/
def member : Bson → Bool
  | .document ⟨fields⟩ => entries fields
  | _ => true

/-- All documents of a junction hold. -/
def allHold : List Bson → Bool
  | [] => true
  | item :: rest => member item && allHold rest

/-- One of the documents of a junction holds. -/
def anyHolds : List Bson → Bool
  | [] => false
  | item :: rest => member item || anyHolds rest

end

/-- A filter document holds. -/
def holds (d : Document) : Bool := I.entries d.entries

/-- A list of truth values with connectors holds: it is cut before every `or`, and in some run all
    have to hold. The empty list holds. -/
def runsHold (values : List (Connector × Bool)) : Bool :=
  values.isEmpty ||
    (values.splitBy fun _ next => next.1 != .or).any fun run => run.all fun value => value.2

example : ∀ a b c : Bool, runsHold [(.and, a), (.or, b), (.and, c)] = (a || (b && c)) := by decide

mutual

/-- A predicate holds: a clause as its own document, a group as the list in its parentheses. -/
def predicate : Predicate → Bool
  | .clause c => I.holds c.document
  | .group members _ => runsHold (values members)

/-- The truth values of the predicates in which there is a clause. -/
def values : List Predicate → List (Connector × Bool)
  | [] => []
  | p :: rest =>
    if p.clauses.isEmpty then values rest else (p.connector, predicate p) :: values rest

end

/-- A list of predicates holds. -/
def predicates (ps : List Predicate) : Bool := runsHold (I.values ps)

/-! ## Entries -/

theorem entries_eq_all (l : List (String × Bson)) :
    I.entries l = l.all fun e => I.entry e.1 e.2 := by
  induction l with
  | nil => rfl
  | cons e rest ih => rw [entries, List.all_cons, ih]

theorem entry_document (key : String) (d : Document) :
    I.entry key (.document d) =
      if d.isOperators then I.operators key d else I.whole key (.document d) := by
  rw [entry]

theorem entry_condition {d : Document} (h : d.IsCondition) (key : String) :
    I.entry key (.document d) = I.operators key d := by
  rw [entry_document, h.operators, if_pos rfl]

/-! ## Junctions -/

theorem allHold_map (docs : List Document) : I.allHold (docs.map .document) = docs.all I.holds := by
  induction docs with
  | nil => rfl
  | cons d rest ih => rw [List.map_cons, allHold, List.all_cons, ih, member, holds]

theorem anyHolds_map (docs : List Document) :
    I.anyHolds (docs.map .document) = docs.any I.holds := by
  induction docs with
  | nil => rfl
  | cons d rest ih => rw [List.map_cons, anyHolds, List.any_cons, ih, member, holds]

theorem holds_field (key : String) (value : Bson) :
    I.holds (.field key value) = I.entry key value := by
  rw [holds, entries_eq_all]
  exact Bool.and_true _

theorem holds_allOf {docs : List Document} (h : docs ≠ []) :
    I.holds (Document.allOf docs) = docs.all I.holds := by
  have nonempty : docs.isEmpty = false := by simpa using h
  rw [Document.allOf, holds_field, Bson.documents, entry, Bson.areDocuments_map, nonempty,
    allHold_map]
  simp

theorem holds_anyOf {docs : List Document} (h : docs ≠ []) :
    I.holds (Document.anyOf docs) = docs.any I.holds := by
  have nonempty : docs.isEmpty = false := by simpa using h
  rw [Document.anyOf, holds_field, Bson.documents, entry, Bson.areDocuments_map, nonempty,
    anyHolds_map]
  simp

theorem holds_joinAlternatives (docs : List Document) :
    I.holds (joinAlternatives docs) = (docs.isEmpty || (docs.map I.holds).any id) := by
  match docs with
  | [] => rfl
  | [d] => simp [joinAlternatives]
  | d :: d' :: rest =>
    rw [List.any_map]
    exact I.holds_anyOf (List.cons_ne_nil d (d' :: rest))

/-! ## Conditions drawn together -/

theorem all_eq_of_mem {α : Type} {l : List α} {p q : α → Bool} (h : ∀ a ∈ l, p a = q a) :
    l.all p = l.all q := by
  rw [Bool.eq_iff_iff, List.all_eq_true, List.all_eq_true]
  exact forall₂_congr fun a ha => by rw [h a ha]

theorem operators_condition {d : Document} (h : d.IsCondition) (column : String) :
    I.operators column d = d.entries.all fun entry =>
      if entry.1 = "$regex" then I.matching column entry.2 (d.find? "$options")
      else if entry.1 = "$options" then true
      else I.test column entry.1 entry.2 := by
  unfold operators
  refine all_eq_of_mem fun entry he => ?_
  by_cases options : entry.1 = "$options"
  · have known : "$options" ∈ d.keys := options ▸ List.mem_map_of_mem he
    have beside := (d.contains_iff_mem "$regex").mpr (h.options known)
    simp [options, beside]
  · simp [options]

theorem operators_append {first second : Document} (hf : first.IsCondition)
    (hs : second.IsCondition) (apart : ∀ op ∈ second.keys, op ∉ first.keys) (column : String) :
    I.operators column ⟨first.entries ++ second.entries⟩ =
      (I.operators column first && I.operators column second) := by
  obtain ⟨_, both⟩ := Document.isCondition_insertAll hf hs apart
  have find : (⟨first.entries ++ second.entries⟩ : Document).find? "$options" =
      (first.find? "$options").or (second.find? "$options") := List.lookup_append
  rw [I.operators_condition both, I.operators_condition hf, I.operators_condition hs, find,
    List.all_append]
  congr 1
  · refine all_eq_of_mem fun entry he => ?_
    by_cases expression : entry.1 = "$regex"
    · -- Options of the second document would bring a second expression.
      have known : "$regex" ∈ first.keys := expression ▸ List.mem_map_of_mem he
      have none : second.find? "$options" = none :=
        (second.find?_eq_none_iff _).mpr fun options => apart _ (hs.options options) known
      simp [expression, none]
    · simp [expression]
  · refine all_eq_of_mem fun entry he => ?_
    by_cases expression : entry.1 = "$regex"
    · have known : "$regex" ∈ second.keys := expression ▸ List.mem_map_of_mem he
      have none : first.find? "$options" = none :=
        (first.find?_eq_none_iff _).mpr fun options => apart _ known (hf.options options)
      simp [expression, none]
    · simp [expression]

/-- Regrouping keeps the meaning. -/
theorem entries_of_regroups {l l' : List (String × Bson)} (h : Regroups l l') :
    I.entries l = I.entries l' := by
  induction h with
  | perm h =>
    rw [entries_eq_all, entries_eq_all]
    exact h.all_eq
  | join key rest hf hs apart =>
    obtain ⟨_, both⟩ := Document.isCondition_insertAll hf hs apart
    simp only [entries]
    rw [I.entry_condition both, I.entry_condition hf, I.entry_condition hs,
      I.operators_append hf hs apart, Bool.and_assoc]
  | trans _ _ ih ih' => rw [ih, ih']

/-! ## Branches and alternatives -/

theorem entries_flatMap (parts : List Part) :
    I.entries (parts.flatMap fun part => part.document.entries) =
      parts.all fun part => I.holds part.document := by
  induction parts with
  | nil => rfl
  | cons part rest ih =>
    rw [List.all_cons, ← ih, holds]
    simp only [entries_eq_all, List.flatMap_cons, List.all_append]

/-- A branch holds if all its parts do. -/
theorem holds_documentOf {parts : List Part} (sound : ∀ part ∈ parts, part.IsSound) :
    I.holds (Branch.documentOf parts) = parts.all fun part => I.holds part.document := by
  rcases Branch.documentOf_cases sound with regroups | ⟨nonempty, listed⟩
  · rw [holds, I.entries_of_regroups regroups, entries_flatMap]
  · have docs : parts.map Part.document ≠ [] := by simpa using nonempty
    rw [listed, I.holds_allOf docs, List.all_map]
    rfl

/-- Parts hold together if in some run all of them do. -/
theorem holds_joinParts {parts : List Part} (sound : ∀ part ∈ parts, part.IsSound) :
    I.holds (joinParts parts) =
      runsHold (parts.map fun part => (part.connector, I.holds part.document)) := by
  have branches : ((cutBefore (fun part => part.connector == .or) parts).map
        Branch.documentOf).map I.holds =
      (cutBefore (fun part => part.connector == .or) parts).map
        fun run => run.all fun part => I.holds part.document := by
    rw [List.map_map]
    exact List.map_congr_left fun run hr =>
      I.holds_documentOf fun part hp => sound part (mem_of_mem_cutBefore hr hp)
  -- The cuts depend on the connectors only, so they are the same for parts and truth values.
  have cut := cutBefore_map (fun value : Connector × Bool => value.1 == .or)
    (fun part : Part => (part.connector, I.holds part.document)) parts
  rw [cutBefore_eq_splitBy] at cut
  rw [joinParts, holds_joinAlternatives, branches, runsHold]
  simp only [bne, cut, List.isEmpty_map, List.any_map, isEmpty_cutBefore]
  congr 2
  funext run
  simp only [Function.comp_apply, id_eq, List.all_map]
  rfl

/-! ## Predicates -/

mutual

theorem holds_document (p : Predicate) : I.holds p.document = I.predicate p := by
  cases p with
  | clause c => rfl
  | group members connector =>
    rw [Predicate.document, predicate, ← values_parts members]
    exact I.holds_joinParts fun part hp => Predicate.isSound_of_mem_parts hp

theorem values_parts (ps : List Predicate) :
    (Predicate.parts ps).map (fun part => (part.connector, I.holds part.document)) =
      I.values ps := by
  cases ps with
  | nil => rfl
  | cons p rest =>
    rw [Predicate.parts, values, Predicate.isEmptyGroup_eq]
    split
    · exact values_parts rest
    · rw [List.map_cons, values_parts rest, holds_document p]

end

/-- The filter document of a list of predicates means what the list means. -/
theorem holds_filterOf (ps : List Predicate) : I.holds (filterOf ps) = I.predicates ps :=
  I.holds_document (.group ps .and)

end Interpretation

end DocQuery
