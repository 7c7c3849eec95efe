import DocQuery.Filter.Condition

/- A branch is a list of parts that all have to hold. If no two of them are in each other's way
   they become one document; otherwise they are listed under `$and`. Two parts are in each other's
   way if they name the same key, unless both are mergeable and bring different operators to it. -/

namespace DocQuery

/-- The document of one predicate, ready to be joined to others. -/
structure Part where
  connector : Connector
  document : Document
  /-- the operators that the document puts on a column may stand beside those of other parts -/
  isMergeable : Bool

/-- A document that takes in one part after the other. The keys of parts that are not mergeable
    are closed: no later part may name them. -/
structure Branch where
  document : Document
  closed : List String

namespace Branch

/-- The branch without parts. -/
def empty : Branch := ⟨.empty, []⟩

/-- Two conditions on one column as one, if both are operators and share none. -/
def joinConditions : Bson → Bson → Option Bson
  | .document first, .document second =>
    if Document.isOperators first && Document.isOperators second &&
        second.keys.all (fun key => !first.contains key) then
      some (.document (first.insertAll second.entries))
    else none
  | _, _ => none

/-- Takes one entry of a part into a document: a new key as it is, a known one only if both
    conditions can stand side by side. -/
def addEntry (closed : List String) (mergeable : Bool) (doc : Document) (entry : String × Bson) :
    Option Document :=
  match doc.find? entry.1 with
  | none => some (doc.insert entry.1 entry.2)
  | some current =>
    if mergeable && !closed.contains entry.1 then
      (joinConditions current entry.2).map (doc.insert entry.1)
    else none

/-- Takes a part in, or gives up if an entry of it cannot be placed. -/
def add? (branch : Branch) (part : Part) : Option Branch :=
  match part.document.entries.foldlM (addEntry branch.closed part.isMergeable) branch.document with
  | some doc =>
    some ⟨doc, if part.isMergeable then branch.closed else branch.closed ++ part.document.keys⟩
  | none => none

/-- The document of a list of parts that all have to hold. -/
def documentOf (parts : List Part) : Document :=
  match parts.foldlM add? empty with
  | some branch => branch.document
  | none => Document.allOf (parts.map Part.document)

end Branch

end DocQuery
