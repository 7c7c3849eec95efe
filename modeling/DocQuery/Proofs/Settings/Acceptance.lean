import DocQuery.Proofs.Settings.Members

/- Which JSON objects give settings, and which settings they give. That the members of an object
   describe settings is said without a reader (`Describes`): how often each field occurs, and with
   which values. A field meets no value or one value that fits (`Fills`), and all members can be
   taken exactly if this holds of each field (`foldlM_takeMember_eq_some_iff`). Main statement:
   `object_gives_settings_iff_described`. -/

namespace DocQuery

open Json (Padded StringText MemberText)

namespace Settings

/-! ## Objects that describe settings -/

/-- The values that the members have for a field. -/
def valuesOf (field : SettingsField) (members : List (String × Json.Value)) : List Json.Value :=
  (members.filter fun m => m.1 = field.key).map Prod.snd

/-- The value is a string of characters. -/
def IsText (v : Json.Value) (s : String) : Prop := v = .text (some s.toList)

/-- The value is a numeral without minus sign, point and exponent, for a number below 2^64. -/
def IsCount (v : Json.Value) (n : UInt64) : Prop :=
  ∃ digits, v = .numeral ⟨false, digits, none, none⟩ ∧
    Json.numberOf 0 digits ≤ 18446744073709551615 ∧ n = UInt64.ofNat (Json.numberOf 0 digits)

/-- The values of a field that can be left out: there is at most one, and null stands for none. -/
def IsOptional {α : Type} (fits : Json.Value → α → Prop) (values : List Json.Value) :
    Option α → Prop
  | none => values = [] ∨ values = [.null]
  | some a => ∃ v, values = [v] ∧ fits v a

/-- The members describe the settings: the collection occurs once, the other fields at most once,
    and all of them have fitting values. -/
@[mk_iff]
structure Describes (members : List (String × Json.Value)) (s : Settings) : Prop where
  collection : ∃ v, valuesOf .collection members = [v] ∧ IsText v s.collection
  timeLimit : IsOptional IsCount (valuesOf .timeLimit members) s.timeLimitMs
  comment : IsOptional IsText (valuesOf .comment members) s.comment

/-- The members whose keys are fields. -/
def known (members : List (String × Json.Value)) : List (String × Json.Value) :=
  members.filter fun m => (fieldOf? m.1.toList).isSome

theorem fieldOf?_eq_some_iff {key : String} {field : SettingsField} :
    fieldOf? key.toList = some field ↔ key = field.key := by
  constructor
  · intro found
    have same := List.find?_some found
    exact (String.toList_injective (eq_of_beq same)).symm
  · rintro rfl
    exact fieldOf?_key field

theorem valuesOf_known (field : SettingsField) (members : List (String × Json.Value)) :
    valuesOf field (known members) = valuesOf field members := by
  rw [valuesOf, valuesOf, known, List.filter_filter]
  congr 1
  refine List.filter_congr fun m _ => ?_
  by_cases isKey : m.1 = field.key
  · simp [isKey, fieldOf?_key]
  · simp [isKey]

/-- Neither the order of the members nor the unknown ones count. -/
theorem Describes.of_perm {members members' : List (String × Json.Value)} {s : Settings}
    (h : Describes members s) (same : (known members').Perm (known members)) :
    Describes members' s := by
  have values (field : SettingsField) :
      (valuesOf field members').Perm (valuesOf field members) := by
    rw [← valuesOf_known field members', ← valuesOf_known field members]
    exact (same.filter _).map _
  have optional {α : Type} {fits : Json.Value → α → Prop} {field : SettingsField} {a? : Option α}
      (optional : IsOptional fits (valuesOf field members) a?) :
      IsOptional fits (valuesOf field members') a? := by
    have perm := values field
    cases a? with
    | none =>
      obtain none | null := optional
      · exact .inl (by simpa [none] using perm)
      · exact .inr (by simpa [null] using perm)
    | some a =>
      obtain ⟨v, one, fits⟩ := optional
      exact ⟨v, by simpa [one] using perm, fits⟩
  obtain ⟨⟨v, one, fits⟩, timeLimit, comment⟩ := h
  have perm := values .collection
  exact ⟨⟨v, by simpa [one] using perm, fits⟩, optional timeLimit, optional comment⟩

/-! ## Values that fit -/

/-- Null is taken for an absent value, and everything else as it is. -/
theorem taken_acceptOption {α : Type} {accept : Found → Option (Except SettingsError α)}
    {v : Json.Value} {a? : Option α} (absent : accept .null = none) :
    taken (acceptOption accept) v = some a? ↔
      (v = .null ∧ a? = none) ∨ ∃ a, taken accept v = some a ∧ a? = some a := by
  have null : foundIn v = some .null ↔ v = .null := by
    cases v <;> simp [foundIn]
  cases stands : foundIn v with
  | none =>
    simp only [stands, reduceCtorEq, false_iff] at null
    simp [taken, stands, null]
  | some f =>
    rw [stands, Option.some.injEq] at null
    rw [taken, taken, stands, Option.bind_some, Option.bind_some, ← null]
    have other (h : f ≠ .null) : acceptOption accept f = (accept f).map (·.map some) := by
      cases f <;> first | rfl | exact absurd rfl h
    by_cases h : f = .null
    · subst h
      simp [acceptOption, absent, Except.toOption, eq_comm]
    · rw [other h]
      cases accept f with
      | none => simp [h]
      | some result => cases result <;> simp [h, Except.toOption, Except.map, eq_comm]

theorem taken_text {v : Json.Value} {s : String} :
    taken acceptText v = some s ↔ IsText v s := by
  have accepted (f : Found) : (acceptText f).bind Except.toOption = some s ↔ f = .text s := by
    cases f <;> simp [acceptText, Except.toOption]
  simp only [taken, Option.bind_eq_some_iff, accepted, exists_eq_right, IsText]
  cases v with
  | text content =>
    cases content with
    | none => simp [foundIn]
    | some chars =>
      simp only [foundIn, Option.map_some, Option.some.injEq, Found.text.injEq,
        Json.Value.text.injEq]
      constructor
      · rintro rfl
        exact String.toList_ofList.symm
      · rintro rfl
        exact String.ofList_toList
  | _ => simp [foundIn]

/-- Only an integer without a minus sign is a natural. -/
theorem number?_eq_natural_iff {n : Json.Numeral} {k : Nat} :
    n.number? = some (.natural k) ↔
      ∃ digits, n = ⟨false, digits, none, none⟩ ∧ Json.numberOf 0 digits < UInt64.size ∧
        k = Json.numberOf 0 digits := by
  obtain ⟨negative, whole, fraction, exponent⟩ := n
  constructor
  · intro natural
    unfold Json.Numeral.number? at natural
    dsimp only at natural
    split at natural
    · next unsigned =>
      simp only [Json.Numeral.isInteger, Bool.and_eq_true, Option.isNone_iff_eq_none,
        Bool.not_eq_true', decide_eq_true_eq] at unsigned
      obtain ⟨⟨⟨rfl, rfl⟩, rfl⟩, small⟩ := unsigned
      cases natural
      exact ⟨whole, rfl, small, rfl⟩
    · split at natural
      · cases natural
      · simp at natural
  · rintro ⟨digits, numeral, small, rfl⟩
    cases numeral
    simp [Json.Numeral.number?, Json.Numeral.isInteger, small]

theorem taken_count {v : Json.Value} {n : UInt64} :
    taken acceptCount v = some n ↔ IsCount v n := by
  have accepted (f : Found) : (acceptCount f).bind Except.toOption = some n ↔
      ∃ k, f = .number (.natural k) ∧ n = UInt64.ofNat k := by
    cases f with
    | number x => cases x <;> simp [acceptCount, Except.toOption, eq_comm]
    | _ => simp [acceptCount]
  have numbers (k : Nat) : foundIn v = some (.number (.natural k)) ↔
      ∃ numeral, v = .numeral numeral ∧ numeral.number? = some (.natural k) := by
    cases v <;> simp [foundIn]
  have bound (k : Nat) : k ≤ 18446744073709551615 ↔ k < UInt64.size := Nat.le_iff_lt_add_one
  simp only [taken, Option.bind_eq_some_iff, accepted, IsCount, bound]
  constructor
  · rintro ⟨_, natural, k, rfl, rfl⟩
    obtain ⟨numeral, rfl, number⟩ := (numbers k).mp natural
    obtain ⟨digits, rfl, small, rfl⟩ := number?_eq_natural_iff.mp number
    exact ⟨digits, rfl, small, rfl⟩
  · rintro ⟨digits, rfl, small, rfl⟩
    have number := number?_eq_natural_iff.mpr ⟨digits, rfl, small, rfl⟩
    exact ⟨_, (numbers _).mpr ⟨_, rfl, number⟩, _, rfl, rfl⟩

/-! ## Fields -/

section Filling

variable {α : Type} {accept : Found → Option (Except SettingsError α)}

/-- The place of a field before and after the values that the members have for it: it keeps what it
    holds, or it is empty and there is one value for it. -/
inductive Fills (accept : Found → Option (Except SettingsError α)) :
    Option α → List Json.Value → Option α → Prop
  | kept {slot : Option α} : Fills accept slot [] slot
  | filled {v : Json.Value} {a : α} : taken accept v = some a → Fills accept none [v] (some a)

@[simp] theorem fills_nil {slot slot' : Option α} :
    Fills accept slot [] slot' ↔ slot' = slot := by
  constructor
  · rintro ⟨⟩
    rfl
  · rintro rfl
    exact .kept

@[simp] theorem fills_singleton {slot slot' : Option α} {v : Json.Value} :
    Fills accept slot [v] slot' ↔ slot = none ∧ ∃ a, taken accept v = some a ∧ slot' = some a := by
  constructor
  · rintro (_ | fits)
    exact ⟨rfl, _, fits, rfl⟩
  · rintro ⟨rfl, a, fits, rfl⟩
    exact .filled fits

theorem fills_none_some {values : List Json.Value} {a : α} :
    Fills accept none values (some a) ↔ ∃ v, values = [v] ∧ taken accept v = some a := by
  constructor
  · rintro (_ | fits)
    exact ⟨_, rfl, fits⟩
  · rintro ⟨v, rfl, fits⟩
    exact .filled fits

/-- Values that come later find what the earlier ones have left. -/
theorem fills_append {slot slot'' : Option α} {values more : List Json.Value} :
    Fills accept slot (values ++ more) slot'' ↔
      ∃ slot', Fills accept slot values slot' ∧ Fills accept slot' more slot'' := by
  constructor
  · intro h
    generalize all : values ++ more = together at h
    cases h with
    | kept =>
      obtain ⟨rfl, rfl⟩ := List.append_eq_nil_iff.mp all
      exact ⟨_, .kept, .kept⟩
    | filled fits =>
      obtain ⟨rfl, rfl⟩ | ⟨rfl, rfl⟩ := List.append_eq_singleton_iff.mp all
      · exact ⟨_, .kept, .filled fits⟩
      · exact ⟨_, .filled fits, .kept⟩
  · rintro ⟨slot', _ | fits, second⟩
    · exact second
    · cases second with
      | kept => exact .filled fits

end Filling

/-- What the members do to each field of the draft. -/
@[mk_iff]
structure FillsDraft (members : List (String × Json.Value)) (d d' : Draft) : Prop where
  collection : Fills acceptText d.collection (valuesOf .collection members) d'.collection
  timeLimit : Fills (acceptOption acceptCount) d.timeLimitMs (valuesOf .timeLimit members)
    d'.timeLimitMs
  comment : Fills (acceptOption acceptText) d.comment (valuesOf .comment members) d'.comment

theorem valuesOf_key (field field' : SettingsField) (v : Json.Value) :
    valuesOf field [(field'.key, v)] = if field = field' then [v] else [] := by
  cases field <;> cases field' <;> rfl

theorem valuesOf_unknown {key : String} (unknown : fieldOf? key.toList = none)
    (field : SettingsField) (v : Json.Value) : valuesOf field [(key, v)] = [] := by
  have other : key ≠ field.key := fun isKey => by
    cases unknown.symm.trans (fieldOf?_eq_some_iff.mpr isKey)
  simp [valuesOf, other]

theorem valuesOf_cons (field : SettingsField) (m : String × Json.Value)
    (members : List (String × Json.Value)) :
    valuesOf field (m :: members) = valuesOf field [m] ++ valuesOf field members := by
  rw [valuesOf, valuesOf, valuesOf, ← List.map_append, ← List.filter_append,
    List.singleton_append]

/-- One member fills the field of its key. -/
theorem takeMember_eq_some_iff {d d' : Draft} {m : String × Json.Value} :
    takeMember d m = some d' ↔ FillsDraft [m] d d' := by
  obtain ⟨key, v⟩ := m
  obtain ⟨collection, timeLimit, comment⟩ := d
  obtain ⟨collection', timeLimit', comment'⟩ := d'
  rw [takeMember, fillsDraft_iff]
  cases isField : fieldOf? key.toList with
  | none =>
    simp only [valuesOf_unknown isField, fills_nil, Option.some.injEq, Draft.mk.injEq, eq_comm]
  | some field =>
    obtain rfl := fieldOf?_eq_some_iff.mp isField
    simp only [valuesOf_key]
    -- The other two fields keep what they hold.
    cases field with
    | collection =>
      cases collection <;> cases isTaken : taken acceptText v <;>
        simp [takeField, Draft.has, isTaken, eq_comm]
    | timeLimit =>
      cases timeLimit <;> cases isTaken : taken (acceptOption acceptCount) v <;>
        simp [takeField, Draft.has, isTaken, eq_comm]
    | comment =>
      cases comment <;> cases isTaken : taken (acceptOption acceptText) v <;>
        simp [takeField, Draft.has, isTaken, eq_comm]

/-- Members fill the draft one after the other. -/
theorem foldlM_takeMember_eq_some_iff {members : List (String × Json.Value)} {d d' : Draft} :
    members.foldlM takeMember d = some d' ↔ FillsDraft members d d' := by
  induction members generalizing d with
  | nil =>
    obtain ⟨collection, timeLimit, comment⟩ := d
    obtain ⟨collection', timeLimit', comment'⟩ := d'
    simp [fillsDraft_iff, valuesOf, eq_comm]
  | cons m members ih =>
    simp only [List.foldlM_cons, Option.bind_eq_bind, Option.bind_eq_some_iff, ih,
      takeMember_eq_some_iff, fillsDraft_iff, valuesOf_cons _ m members, fills_append]
    constructor
    · rintro ⟨d'', ⟨first, second, third⟩, first', second', third'⟩
      exact ⟨⟨_, first, first'⟩, ⟨_, second, second'⟩, ⟨_, third, third'⟩⟩
    · rintro ⟨⟨collection, first, first'⟩, ⟨timeLimit, second, second'⟩, ⟨comment, third, third'⟩⟩
      exact ⟨⟨collection, timeLimit, comment⟩, ⟨first, second, third⟩, first', second', third'⟩

/-- A field that can be left out is filled by fitting values, and null leaves it out. -/
theorem isOptional_iff {α : Type} {accept : Found → Option (Except SettingsError α)}
    {fits : Json.Value → α → Prop} (absent : accept .null = none)
    (fits_iff : ∀ v a, taken accept v = some a ↔ fits v a) (values : List Json.Value)
    (a? : Option α) :
    (∃ slot, Fills (acceptOption accept) none values slot ∧ slot.getD none = a?) ↔
      IsOptional fits values a? := by
  constructor
  · rintro ⟨_, _ | fitting, rfl⟩
    · exact .inl rfl
    · obtain ⟨rfl, rfl⟩ | ⟨a, isTaken, rfl⟩ := (taken_acceptOption absent).mp fitting
      · exact .inr rfl
      · exact ⟨_, rfl, (fits_iff _ a).mp isTaken⟩
  · intro optional
    cases a? with
    | none =>
      obtain rfl | rfl := optional
      · exact ⟨none, .kept, rfl⟩
      · exact ⟨some none, .filled ((taken_acceptOption absent).mpr (.inl ⟨rfl, rfl⟩)), rfl⟩
    | some a =>
      obtain ⟨v, rfl, fit⟩ := optional
      have isTaken := (taken_acceptOption absent).mpr (.inr ⟨a, (fits_iff v a).mpr fit, rfl⟩)
      exact ⟨some (some a), .filled isTaken, rfl⟩

theorem finish_eq_some_iff {d : Draft} {s : Settings} :
    d.finish.toOption = some s ↔ d.collection = some s.collection ∧
      d.timeLimitMs.getD none = s.timeLimitMs ∧ d.comment.getD none = s.comment := by
  obtain ⟨collection, timeLimit, comment⟩ := d
  obtain ⟨collection', timeLimit', comment'⟩ := s
  cases collection <;> simp [Draft.finish, Except.toOption]

/-- The members give the settings that they describe. -/
theorem gathered_eq_some_iff {members : List (String × Json.Value)} {s : Settings} :
    gathered members = some s ↔ Describes members s := by
  have collection : Fills acceptText none (valuesOf .collection members) (some s.collection) ↔
      ∃ v, valuesOf .collection members = [v] ∧ IsText v s.collection := by
    simp only [fills_none_some, taken_text]
  have timeLimit := isOptional_iff rfl (fun _ _ => taken_count) (valuesOf .timeLimit members)
    s.timeLimitMs
  have comment := isOptional_iff rfl (fun _ _ => taken_text) (valuesOf .comment members) s.comment
  rw [describes_iff, ← collection, ← timeLimit, ← comment]
  simp only [gathered, Option.bind_eq_some_iff, foldlM_takeMember_eq_some_iff, finish_eq_some_iff,
    fillsDraft_iff, Draft.empty]
  constructor
  · rintro ⟨d, ⟨first, second, third⟩, first', second', third'⟩
    exact ⟨first' ▸ first, ⟨_, second, second'⟩, _, third, third'⟩
  · rintro ⟨first, ⟨timeLimit, second, second'⟩, comment, third, third'⟩
    exact ⟨⟨_, timeLimit, comment⟩, ⟨first, second, third⟩, rfl, second', third'⟩

end Settings

open Settings

/-- The text of an object gives settings if its members describe them, and no other settings; if
    the members describe none, the text is refused. Members that differ in their order, in their
    spelling or by unknown ones give the same. -/
theorem object_gives_settings_iff_described {members : List (String × Json.Value)} {text : String}
    (written : ObjectText members text) :
    (∀ s, ofJson text = .ok s ↔ Describes members s) ∧
    ((∃ e, ofJson text = .error e) ↔ ¬∃ s, Describes members s) ∧
    ∀ members' text', ObjectText members' text' → (known members').Perm (known members) →
      ∀ s, ofJson text' = .ok s ↔ ofJson text = .ok s := by
  have gives {members : List (String × Json.Value)} {text : String}
      (written : ObjectText members text) (s : Settings) :
      ofJson text = .ok s ↔ Describes members s := by
    rw [← gathered_eq_some_iff, ← ofJson_toOption written]
    cases ofJson text <;> simp [Except.toOption]
  refine ⟨gives written, ?_, fun members' text' written' same s => ?_⟩
  · simp only [← gives written]
    cases ofJson text <;> simp
  · rw [gives written', gives written]
    exact ⟨fun h => h.of_perm same.symm, fun h => h.of_perm same⟩

/-- A key can be spelled by the number of a character, and an unknown value can be nested and hold
    half of a character. -/
theorem escaped_key_behind_unknown_member_is_read :
    ofJson " \x7b\"x\":[\"\\ud800\",\x7b\x7d], \"\\u0063omment\" :\"a\",\"collection\":\"\"\x7d" =
      .ok ⟨"", none, some "a"⟩ := by
  let members : List (String × Json.Value) := [("x", .array [.text none, .object []]),
    ("comment", .text (some ['a'])), ("collection", .text (some []))]
  have nothing : Json.Blank [] := List.forall_mem_nil _
  have space : Json.Blank [' '] := by simp [Json.Blank, Json.isSpace]
  have bare {written : List Char → Prop} {text : List Char} (h : written text) :
      Padded written text := ⟨[], text, [], nothing, h, nothing, by simp⟩
  have plain (s : List Char) : Padded (StringText (some s)) (Json.writeText s) :=
    bare (Json.stringText_writeText s)
  have half : StringText none "\"\\ud800\"".toList := by
    have unit : Json.PieceText (.unit 0xd800) ['\\', 'u', 'd', '8', '0', '0'] := .unit rfl
    refine ⟨_, _, ?_, .cons unit .nil, rfl⟩
    rintro s (_ | _ | whole)
    exact whole ⟨by decide, by decide⟩
  have key : StringText (some "comment".toList) "\"\\u0063omment\"".toList := by
    have unit : Json.PieceText (.unit 0x63) ['\\', 'u', '0', '0', '6', '3'] := .unit rfl
    have letter : ¬Json.IsHalf 0x63 := fun h => absurd h.1 (by decide)
    obtain ⟨pieces, denotes, spelled⟩ := Json.piecesText_flatMap_written "omment".toList
    exact ⟨_, _, .unit letter denotes, .cons unit spelled, rfl⟩
  have unknown : Json.Value.Written (.array [.text none, .object []])
      "[\"\\ud800\",\x7b\x7d]".toList := by
    have object : Json.Value.Written (.object []) ['\x7b', '\x7d'] := ⟨[], nothing, rfl⟩
    exact ⟨_, ⟨_, _, bare half, ⟨_, _, bare object, rfl, rfl⟩, rfl⟩, rfl⟩
  have written : ObjectText members
      " \x7b\"x\":[\"\\ud800\",\x7b\x7d], \"\\u0063omment\" :\"a\",\"collection\":\"\"\x7d" := by
    have first : MemberText _ _ _ := ⟨_, _, plain ['x'], bare unknown, rfl⟩
    have second : MemberText _ _ _ :=
      ⟨_, _, ⟨_, _, _, space, key, space, rfl⟩, plain ['a'], rfl⟩
    have third : MemberText _ _ _ := ⟨_, _, plain "collection".toList, plain [], rfl⟩
    exact ⟨_, _, _, space,
      ⟨_, ⟨_, _, first, ⟨_, _, second, ⟨_, _, third, rfl, rfl⟩, rfl⟩, rfl⟩, rfl⟩, nothing, rfl⟩
  refine ((object_gives_settings_iff_described written).1 _).mpr ?_
  exact ⟨⟨_, rfl, rfl⟩, .inl rfl, ⟨_, rfl, rfl⟩⟩

end DocQuery
