import Mathlib.Data.List.Perm.Basic
import DocQuery.Proofs.Filter.Regrouping

/- The pieces of a filter document: junctions are opened, operator documents fall into one test
   for each operator, and any other entry stays whole. Every piece names its column. Main
   statement: `pieces_filterOf`, the filter of a list of predicates has the pieces of the clauses
   in it, each as often as the clauses bring it. -/

namespace DocQuery

/-- A piece of a filter document. -/
inductive Piece where
  | test (column operator : String) (operand : Bson)
  | whole (column : String) (value : Bson)

namespace Piece

mutual

/-- The pieces of the listed entries. -/
def ofEntries : List (String × Bson) → List Piece
  | [] => []
  | (key, value) :: rest => ofEntry key value ++ ofEntries rest

/-- The pieces of an entry: those of a junction's documents, tests of a column, or the whole. -/
def ofEntry (key : String) : Bson → List Piece
  | .array items =>
    if (key = "$and" || key = "$or") && Bson.areDocuments items then ofMembers items
    else [whole key (.array items)]
  | .document ⟨fields⟩ =>
    if Document.isOperators ⟨fields⟩ then fields.map fun field => test key field.1 field.2
    else [whole key (.document ⟨fields⟩)]
  | value => [whole key value]

/-- The pieces of a document of a junction. -/
def ofMember : Bson → List Piece
  | .document ⟨fields⟩ => ofEntries fields
  | _ => []

/-- The pieces of all documents of a junction. -/
def ofMembers : List Bson → List Piece
  | [] => []
  | item :: rest => ofMember item ++ ofMembers rest

end

end Piece

/-- The pieces of a filter document. -/
def Document.pieces (d : Document) : List Piece := Piece.ofEntries d.entries

namespace Piece

/-! ## Entries -/

theorem ofEntries_eq_flatMap (l : List (String × Bson)) :
    ofEntries l = l.flatMap fun e => ofEntry e.1 e.2 := by
  induction l with
  | nil => rfl
  | cons e rest ih => rw [ofEntries, List.flatMap_cons, ih]

theorem ofEntry_condition {d : Document} (h : d.IsCondition) (key : String) :
    ofEntry key (.document d) = d.entries.map fun field => test key field.1 field.2 := by
  rw [ofEntry, h.operators, if_pos rfl]

/-- Regrouping keeps the pieces. -/
theorem ofEntries_of_regroups {l l' : List (String × Bson)} (h : Regroups l l') :
    (ofEntries l).Perm (ofEntries l') := by
  induction h with
  | perm h =>
    rw [ofEntries_eq_flatMap, ofEntries_eq_flatMap]
    exact h.flatMap_right _
  | join key rest hf hs apart =>
    obtain ⟨_, both⟩ := Document.isCondition_insertAll hf hs apart
    simp only [ofEntries]
    rw [ofEntry_condition both, ofEntry_condition hf, ofEntry_condition hs, List.map_append,
      List.append_assoc]
  | trans _ _ ih ih' => exact ih.trans ih'

/-! ## Junctions -/

theorem ofMembers_map (docs : List Document) :
    ofMembers (docs.map .document) = docs.flatMap Document.pieces := by
  induction docs with
  | nil => rfl
  | cons d rest ih =>
    rw [List.map_cons, ofMembers, List.flatMap_cons, ih, ofMember, Document.pieces]

theorem pieces_junction {key : String} (h : key = "$and" ∨ key = "$or") {docs : List Document}
    (nonempty : docs ≠ []) :
    (Document.field key (.documents docs)).pieces = docs.flatMap Document.pieces := by
  have junction : (key = "$and" || key = "$or") = true := by simpa using h
  have documents : Bson.areDocuments (docs.map .document) = true := by
    rw [Bson.areDocuments_map]
    simpa using nonempty
  have single : (Document.field key (.documents docs)).pieces = ofEntry key (.documents docs) :=
    List.append_nil _
  rw [single, Bson.documents, ofEntry, junction, documents, Bool.and_self, if_pos rfl,
    ofMembers_map]

theorem pieces_joinAlternatives (docs : List Document) :
    (joinAlternatives docs).pieces = docs.flatMap Document.pieces := by
  match docs with
  | [] => rfl
  | [d] => simp [joinAlternatives]
  | d :: d' :: rest => exact pieces_junction (.inr rfl) (List.cons_ne_nil d (d' :: rest))

/-! ## Branches and runs -/

theorem ofEntries_flatMap (parts : List Part) :
    ofEntries (parts.flatMap fun part => part.document.entries) =
      parts.flatMap fun part => part.document.pieces := by
  simp only [ofEntries_eq_flatMap, List.flatMap_assoc, Document.pieces]

theorem pieces_documentOf {parts : List Part} (sound : ∀ part ∈ parts, part.IsSound) :
    (Branch.documentOf parts).pieces.Perm (parts.flatMap fun part => part.document.pieces) := by
  rcases Branch.documentOf_cases sound with regroups | ⟨nonempty, listed⟩
  · rw [← ofEntries_flatMap]
    exact ofEntries_of_regroups regroups
  · -- The parts are listed with the documents they had before any of them was taken in.
    have docs : parts.map Part.document ≠ [] := by simpa using nonempty
    have pieces := pieces_junction (.inl rfl) docs
    rw [listed, Document.allOf, pieces, List.flatMap_map]

theorem pieces_joinParts {parts : List Part} (sound : ∀ part ∈ parts, part.IsSound) :
    (joinParts parts).pieces.Perm (parts.flatMap fun part => part.document.pieces) := by
  have cut := flatten_cutBefore (fun part : Part => part.connector == .or) parts
  have branches : ∀ run ∈ cutBefore (fun part : Part => part.connector == .or) parts,
      (Branch.documentOf run).pieces.Perm (run.flatMap fun part => part.document.pieces) :=
    fun run hr => pieces_documentOf fun part hp => sound part (mem_of_mem_cutBefore hr hp)
  have together : parts.flatMap (fun part => part.document.pieces) =
      (cutBefore (fun part : Part => part.connector == .or) parts).flatMap fun run =>
        run.flatMap fun part => part.document.pieces := by
    conv => lhs; rw [← cut, ← List.flatMap_id, List.flatMap_assoc]
    rfl
  rw [joinParts, pieces_joinAlternatives, List.flatMap_map, together]
  exact List.Perm.flatMap_left _ branches

/-! ## Predicates -/

mutual

theorem pieces_document (p : Predicate) :
    p.document.pieces.Perm (p.clauses.flatMap fun c => c.document.pieces) := by
  cases p with
  | clause c => simp [Predicate.document, Predicate.clauses]
  | group members connector =>
    rw [Predicate.document, Predicate.clauses]
    have joined := pieces_joinParts fun part (hp : part ∈ Predicate.parts members) =>
      Predicate.isSound_of_mem_parts hp
    exact joined.trans (pieces_parts members)

theorem pieces_parts (ps : List Predicate) :
    ((Predicate.parts ps).flatMap fun part => part.document.pieces).Perm
      ((Predicate.clausesOf ps).flatMap fun c => c.document.pieces) := by
  cases ps with
  | nil => exact .refl _
  | cons p rest =>
    rw [Predicate.parts, Predicate.clausesOf, Predicate.isEmptyGroup_eq, List.flatMap_append]
    split
    · next none =>
      -- What is left out as an empty group has no clause, and so no pieces.
      rw [List.isEmpty_iff.mp none]
      exact pieces_parts rest
    · exact (pieces_document p).append (pieces_parts rest)

end

end Piece

/-- The filter of a list of predicates has exactly the pieces that the clauses in it bring, at
    whatever depth these stand. -/
theorem pieces_filterOf (ps : List Predicate) :
    (filterOf ps).pieces.Perm ((Predicate.clausesOf ps).flatMap fun c => c.document.pieces) :=
  Piece.pieces_document (.group ps .and)

end DocQuery
