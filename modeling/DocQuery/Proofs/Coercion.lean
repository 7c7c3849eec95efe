import DocQuery.Proofs.Query.Options
import DocQuery.Value

/- What a query value loses on its way into the store. The kind of a value without native parts can
   be told from what is stored (`Value.kind_coerce`), an integer keeps its number in whichever of
   the two encodings, and of a date the offset and the digits below a millisecond are dropped.
   Nothing else is, at any depth of arrays. Main statement:
   `coercion_loses_only_small_digits_of_dates`. -/

namespace DocQuery

/-! ## Dates -/

namespace Instant

theorem toInt_millis (t : Instant) : (Int64.ofInt t.millis).toInt = t.millis :=
  Int64.toInt_ofInt_of_le t.millis_bounds.1 (Int.lt_add_one_of_le t.millis_bounds.2)

/-- Later moments have later milliseconds, in leap seconds and before 1970 as well. -/
theorem millis_le_millis {t u : Instant} (h : t.nanosecond ≤ u.nanosecond) :
    t.millis ≤ u.millis := by
  rw [millis_eq_floor, millis_eq_floor]
  exact Int.ediv_le_ediv (by decide) h

end Instant

/-! ## Integers -/

theorem Bson.ofInt_injective {m n : Int64} (h : ofInt m = ofInt n) : m = n := by
  have numbers : (ofInt m).int? = (ofInt n).int? := congrArg int? h
  rw [int?_ofInt, int?_ofInt] at numbers
  exact Int64.toInt_inj.mp (Option.some.inj numbers)

/-- The narrow encoding is taken wherever it has room. -/
theorem Bson.ofInt_eq_int32_iff (n : Int64) :
    (∃ narrow, ofInt n = .int32 narrow) ↔
      -2147483648 ≤ n.toInt ∧ n.toInt ≤ 2147483647 := by
  unfold ofInt
  split
  · next fits => exact ⟨fun _ => fits, fun _ => ⟨_, rfl⟩⟩
  · next wide => exact ⟨nofun, fun fits => absurd fits wide⟩

namespace Value

/-! ## Values without native parts -/

mutual

/-- No native value stands in it, at any depth. -/
def isPlain : Value → Bool
  | .native _ => false
  | .array items => allPlain items
  | _ => true

def allPlain : List Value → Bool
  | [] => true
  | v :: rest => v.isPlain && allPlain rest

end

/-- What sort of value it is. -/
inductive Kind where
  | null
  | bool
  | int
  | float
  | string
  | date
  | array
  | native

def kind : Value → Kind
  | .null => .null
  | .bool _ => .bool
  | .int _ => .int
  | .float _ => .float
  | .string _ => .string
  | .date _ => .date
  | .array _ => .array
  | .native _ => .native

/-- The kind of query value that is stored like this, if it is none of the store's own. -/
def kindOfStored : Bson → Kind
  | .null => .null
  | .bool _ => .bool
  | .int32 _ | .int64 _ => .int
  | .double _ => .float
  | .string _ => .string
  | .dateTime _ => .date
  | .array _ => .array
  | _ => .native

/-- A plain value shows its kind when it is stored. -/
theorem kind_coerce {v : Value} (plain : v.isPlain = true) : kindOfStored v.coerce = v.kind := by
  cases v with
  | native b => cases plain
  | int n =>
    show kindOfStored (Bson.ofInt n) = .int
    unfold Bson.ofInt
    split <;> rfl
  | _ => rfl

/-! ## What is lost -/

/-- The same value, but for dates that lie in one and the same millisecond. -/
inductive SameToMillis : Value → Value → Prop where
  | refl (v : Value) : SameToMillis v v
  | date {t u : Instant} (h : t.nanosecond / 1000000 = u.nanosecond / 1000000) :
    SameToMillis (.date t) (.date u)
  | array {vs ws : List Value} (h : List.Forall₂ SameToMillis vs ws) :
    SameToMillis (.array vs) (.array ws)

mutual

theorem SameToMillis.coerce_eq : ∀ {v w : Value}, SameToMillis v w → v.coerce = w.coerce
  | _, _, .refl _ => rfl
  | _, _, .date h => by
    rw [coerce, coerce, Instant.millis_eq_floor, Instant.millis_eq_floor, h]
  | _, _, .array h => by rw [coerce, coerce, SameToMillis.coerceAll_eq h]

theorem SameToMillis.coerceAll_eq :
    ∀ {vs ws : List Value}, List.Forall₂ SameToMillis vs ws → coerceAll vs = coerceAll ws
  | _, _, .nil => rfl
  | _, _, .cons first rest => by
    rw [coerceAll, coerceAll, SameToMillis.coerce_eq first, SameToMillis.coerceAll_eq rest]

end

mutual

theorem sameToMillis_of_coerce_eq : ∀ {v w : Value}, v.isPlain = true → w.isPlain = true →
    v.coerce = w.coerce → SameToMillis v w
  | v, w, plain, plain', stored => by
    have kinds : v.kind = w.kind := by
      rw [← kind_coerce plain, stored, kind_coerce plain']
    cases v with
    | native b => cases plain
    | null => cases w with
      | null => exact .refl _
      | _ => cases kinds
    | bool a => cases w with
      | bool b =>
        cases stored
        exact .refl _
      | _ => cases kinds
    | int m => cases w with
      | int n =>
        obtain rfl := Bson.ofInt_injective stored
        exact .refl _
      | _ => cases kinds
    | float x => cases w with
      | float y =>
        cases stored
        exact .refl _
      | _ => cases kinds
    | string s => cases w with
      | string t =>
        cases stored
        exact .refl _
      | _ => cases kinds
    | date t => cases w with
      | date u =>
        rw [coerce, coerce, Bson.dateTime.injEq] at stored
        have millis : t.millis = u.millis := by
          rw [← t.toInt_millis, ← u.toInt_millis, stored]
        rw [Instant.millis_eq_floor, Instant.millis_eq_floor] at millis
        exact .date millis
      | _ => cases kinds
    | array vs => cases w with
      | array ws =>
        rw [coerce, coerce, Bson.array.injEq] at stored
        exact .array (forall₂_of_coerceAll_eq plain plain' stored)
      | _ => cases kinds

theorem forall₂_of_coerceAll_eq : ∀ {vs ws : List Value}, allPlain vs = true →
    allPlain ws = true → coerceAll vs = coerceAll ws → List.Forall₂ SameToMillis vs ws
  | [], [], _, _, _ => .nil
  | [], _ :: _, _, _, stored => by cases stored
  | _ :: _, [], _, _, stored => by cases stored
  | v :: vs, w :: ws, plain, plain', stored => by
    rw [allPlain, Bool.and_eq_true] at plain plain'
    rw [coerceAll, coerceAll, List.cons.injEq] at stored
    exact .cons (sameToMillis_of_coerce_eq plain.1 plain'.1 stored.1)
      (forall₂_of_coerceAll_eq plain.2 plain'.2 stored.2)

end

end Value

/-- Values without native parts are stored alike, down to the bits of doubles, exactly if they are
    the same but for dates that lie in one and the same millisecond. An integer is stored with its
    number, in the narrow encoding wherever that has room, and what is stored of dates keeps their
    order. -/
theorem coercion_loses_only_small_digits_of_dates :
    (∀ v w : Value, v.isPlain = true → w.isPlain = true →
      (v.coerce = w.coerce ↔ v.SameToMillis w)) ∧
    (∀ n : Int64, (Value.int n).coerce.int? = some n.toInt ∧
      ((∃ narrow, (Value.int n).coerce = .int32 narrow) ↔
        -2147483648 ≤ n.toInt ∧ n.toInt ≤ 2147483647)) ∧
    ∀ t u : Instant, t.nanosecond ≤ u.nanosecond →
      ∃ m n : Int64, (Value.date t).coerce = .dateTime m ∧ (Value.date u).coerce = .dateTime n ∧
        m ≤ n := by
  refine ⟨?_, fun n => ⟨Bson.int?_ofInt n, Bson.ofInt_eq_int32_iff n⟩, ?_⟩
  · intro v w plain plain'
    exact ⟨Value.sameToMillis_of_coerce_eq plain plain', Value.SameToMillis.coerce_eq⟩
  · intro t u earlier
    refine ⟨_, _, rfl, rfl, ?_⟩
    rw [Int64.le_iff_toInt_le, t.toInt_millis, u.toInt_millis]
    exact Instant.millis_le_millis earlier

/-- Two moments shortly before 1970, one of them in a leap second, that were written in different
    offsets and lie in one millisecond. -/
theorem moments_of_one_millisecond_are_stored_alike :
    ∃ t u : Instant, t.nanosecond = -999999 ∧ u.nanosecond = -1 ∧ t.seconds ≠ u.seconds ∧
      t.offset ≠ u.offset ∧
      (Value.array [.int 5, .array [.date t]]).isPlain = true ∧
      (Value.array [.int 5, .array [.date u]]).isPlain = true ∧
      (Value.array [.int 5, .array [.date t]]).coerce =
        (Value.array [.int 5, .array [.date u]]).coerce ∧
      t.nanosecond ≤ u.nanosecond ∧
      ∃ m n : Int64, (Value.date t).coerce = .dateTime m ∧ (Value.date u).coerce = .dateTime n ∧
        m ≤ n := by
  obtain ⟨alike, _, ordered⟩ := coercion_loses_only_small_digits_of_dates
  refine ⟨⟨-2, 1999000001, 3600, by decide, by decide, by decide, by decide⟩,
    ⟨-1, 999999999, -28800, by decide, by decide, by decide, by decide⟩, rfl, rfl, by decide,
    by decide, rfl, rfl, ?_, by decide, ordered _ _ (by decide)⟩
  refine (alike _ _ rfl rfl).mpr (.array (.cons (.refl _) (.cons (.array ?_) .nil)))
  exact .cons (.date rfl) .nil

end DocQuery
