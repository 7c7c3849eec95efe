import DocQuery.Bson.Basic

/- Two values are the same if they have the same kind and content, where doubles are compared as
   numbers and documents without regard to the order of their keys. A double NaN therefore makes
   any value that holds it differ from itself. -/

namespace DocQuery

mutual

/-- Equality of values as the store sees them. -/
def Bson.same : Bson → Bson → Bool
  | .null, .null => true
  | .bool a, .bool b => a == b
  | .int32 a, .int32 b => a == b
  | .int64 a, .int64 b => a == b
  | .double a, .double b => a.sameNumber b
  | .string a, .string b => a == b
  | .array as, .array bs => Bson.sameItems as bs
  | .document ⟨as⟩, .document b => as.length == b.size && Bson.sameFields as b
  | .dateTime a, .dateTime b => a == b
  | .objectId a, .objectId b => a == b
  | .regex p o, .regex p' o' => p == p' && o == o'
  | .timestamp t i, .timestamp t' i' => t == t' && i == i'
  | .binary s as, .binary t bs => s == t && as == bs
  | .code a, .code b => a == b
  | .codeWithScope c ⟨as⟩, .codeWithScope d b =>
    c == d && as.length == b.size && Bson.sameFields as b
  | .symbol a, .symbol b => a == b
  | .decimal128 a, .decimal128 b => a == b
  | .minKey, .minKey => true
  | .maxKey, .maxKey => true
  | .undefined, .undefined => true
  | _, _ => false

/-- Arrays agree place by place. -/
def Bson.sameItems : List Bson → List Bson → Bool
  | [], [] => true
  | a :: as, b :: bs => a.same b && Bson.sameItems as bs
  | _, _ => false

/-- Every listed field is found in the document with the same value. -/
def Bson.sameFields : List (String × Bson) → OrderedMap Bson → Bool
  | [], _ => true
  | (key, a) :: rest, d =>
    (match d.find? key with
      | some b => a.same b
      | none => false) && Bson.sameFields rest d

end

/-- Documents agree if they have equally many fields and each field of one is in the other. -/
def Document.same (a b : Document) : Bool :=
  a.size == b.size && Bson.sameFields a.entries b

/-- Optional values agree if both are absent or both are there and agree. -/
def sameOption {α : Type} (same : α → α → Bool) : Option α → Option α → Bool
  | none, none => true
  | some a, some b => same a b
  | _, _ => false

/-- Lists agree place by place. -/
def sameList {α : Type} (same : α → α → Bool) : List α → List α → Bool
  | [], [] => true
  | a :: as, b :: bs => same a b && sameList same as bs
  | _, _ => false

theorem Bson.sameItems_eq (as bs : List Bson) :
    Bson.sameItems as bs = sameList Bson.same as bs := by
  induction as generalizing bs with
  | nil => cases bs <;> rfl
  | cons a as ih =>
    cases bs with
    | nil => rfl
    | cons b bs => simp only [Bson.sameItems, sameList, ih]

@[simp] theorem Bson.same_document (a b : Document) :
    (Bson.document a).same (.document b) = a.same b := rfl

end DocQuery
