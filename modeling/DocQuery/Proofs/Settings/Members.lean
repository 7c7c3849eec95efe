import DocQuery.Proofs.Json.Skipping
import DocQuery.Proofs.Settings.RoundTrip

/- What is read from a JSON object, told from its members. An object can be written with blanks and
   escapes as one likes (`ObjectText`). Whether a value is taken for a field can be told from the
   value (`taken`), a member adds to the draft what its value gives (`takeMember`), and all members
   are read one after the other; which of several errors comes first is left open, so results are
   compared as options. Main statement: `ofJson_toOption`. -/

namespace DocQuery

open Json (Token Piece tokens Padded EndsNumeral StringText MemberText)

namespace Settings

/-- A reading that can be told from what it gives. -/
theorem ok_or_error_of_toOption {α : Type} {r : Reading α} {a? : Option α} {rest : List Token}
    (h : r.toOption = a?.map fun a => (a, rest)) :
    (∃ a, a? = some a ∧ r = .ok (a, rest)) ∨ (a? = none ∧ ∃ e, r = .error e) := by
  cases r with
  | error e =>
    cases a? with
    | none => exact .inr ⟨rfl, e, rfl⟩
    | some a => cases h
  | ok read =>
    cases a? with
    | none => cases h
    | some a =>
      cases h
      exact .inl ⟨a, rfl, rfl⟩

/-! ## Values -/

/-- What a value stands for where one of another kind is asked for. -/
def foundIn : Json.Value → Option Found
  | .null => some .null
  | .bool b => some (.bool b)
  | .numeral n => n.number?.map .number
  | .text content => content.map fun s => .text (String.ofList s)
  | .array _ => some .sequence
  | .object _ => some .map

theorem found_pieces {pieces : List Piece} {content : Option (List Char)}
    (h : Json.HasContent pieces content) :
    (found (.text pieces none)).toOption = foundIn (.text content) := by
  cases content with
  | some s =>
    rw [found_text (Json.joinPieces_eq_ok_iff.mpr h)]
    rfl
  | none =>
    cases joined : Json.joinPieces none pieces with
    | ok s => exact absurd (Json.joinPieces_eq_ok_iff.mp joined) (h s)
    | error fault =>
      rw [found, joined]
      rfl

/-- A value begins with a token that stands for what the value stands for, and only lists and
    objects go on behind it. -/
theorem tokens_value {v : Json.Value} {text rest : List Char} (written : Padded v.Written text)
    (ends : EndsNumeral rest) :
    ∃ token more, tokens (text ++ rest) = token :: more ∧ (found token).toOption = foundIn v ∧
      (foundIn v ≠ some .sequence → foundIn v ≠ some .map → more = tokens rest) := by
  obtain ⟨before, inner, after, blank, written, blank', rfl⟩ := written
  rw [List.append_assoc, List.append_assoc, Json.tokens_blank_append blank]
  have behind := Json.tokens_blank_append blank' rest
  cases v with
  | null =>
    obtain rfl : inner = _ := written
    exact ⟨_, _, Json.tokens_null _, rfl, fun _ _ => behind⟩
  | bool b =>
    cases b with
    | true =>
      obtain rfl : inner = _ := written
      exact ⟨_, _, Json.tokens_true _, rfl, fun _ _ => behind⟩
    | false =>
      obtain rfl : inner = _ := written
      exact ⟨_, _, Json.tokens_false _, rfl, fun _ _ => behind⟩
  | numeral n =>
    have scanned := Json.tokens_numeral written (Json.endsNumeral_blank_append blank' ends)
    refine ⟨_, _, scanned, ?_, fun _ _ => behind⟩
    rw [found, foundIn]
    cases n.number? <;> rfl
  | text content =>
    obtain ⟨pieces, hasContent, scanned⟩ := Json.tokens_stringText written
    exact ⟨_, _, scanned _, found_pieces hasContent, fun _ _ => behind⟩
  | array items =>
    obtain ⟨parts, _, rfl⟩ := written
    exact ⟨_, _, Json.tokens_openBracket _, rfl, fun other => absurd rfl other⟩
  | object members =>
    obtain ⟨parts, _, rfl⟩ := written
    exact ⟨_, _, Json.tokens_openBrace _, rfl, fun _ other => absurd rfl other⟩

section Taking

variable {α : Type} {accept : Found → Option (Except SettingsError α)}

/-- What is taken from a value. -/
def taken (accept : Found → Option (Except SettingsError α)) (v : Json.Value) : Option α :=
  (foundIn v).bind fun f => (accept f).bind Except.toOption

/-- Neither lists nor objects are accepted. -/
structure TakesScalars (accept : Found → Option (Except SettingsError α)) : Prop where
  sequence : accept .sequence = none
  map : accept .map = none

theorem takesScalars_text : TakesScalars acceptText := ⟨rfl, rfl⟩

theorem takesScalars_count : TakesScalars acceptCount := ⟨rfl, rfl⟩

theorem TakesScalars.option (h : TakesScalars accept) : TakesScalars (acceptOption accept) :=
  ⟨by simp [acceptOption, h.sequence], by simp [acceptOption, h.map]⟩

/-- A value is read as what is taken from it. -/
theorem readValue_toOption (scalars : TakesScalars accept) (expected : Expected) {v : Json.Value}
    {text rest : List Char} (written : Padded v.Written text) (ends : EndsNumeral rest) :
    (readValue expected accept (tokens (text ++ rest))).toOption =
      (taken accept v).map fun a => (a, tokens rest) := by
  obtain ⟨token, more, scanned, stands, behind⟩ := tokens_value written ends
  rw [scanned, readValue, valueOf, taken, ← stands]
  rw [← stands] at behind
  cases read : found token with
  | error e => rfl
  | ok f =>
    cases accepted : accept f with
    | none => simp [Except.toOption, Except.map, accepted]
    | some result =>
      have scalar : more = tokens rest := by
        refine behind ?_ ?_
        all_goals
          rw [read]
          rintro ⟨⟩
        · cases scalars.sequence.symm.trans accepted
        · cases scalars.map.symm.trans accepted
      cases result <;> simp [Except.toOption, Except.map, accepted, scalar]

end Taking

/-! ## Members -/

/-- Members as the grammar of values has them. -/
abbrev asMembers (members : List (String × Json.Value)) :
    List (Option (List Char) × Json.Value) :=
  members.map fun m => (some m.1.toList, m.2)

/-- The text is the object of the members. -/
def ObjectText (members : List (String × Json.Value)) (text : String) : Prop :=
  Padded (Json.Value.object (asMembers members)).Written text.toList

/-- What a value adds to the draft, if it fits the field. -/
def takeField (d : Draft) (v : Json.Value) : SettingsField → Option Draft
  | .collection => (taken acceptText v).map fun s => { d with collection := some s }
  | .timeLimit => (taken (acceptOption acceptCount) v).map fun n => { d with timeLimitMs := some n }
  | .comment => (taken (acceptOption acceptText) v).map fun s => { d with comment := some s }

/-- What a member adds to the draft, if it is unknown or comes first for its field and fits. -/
def takeMember (d : Draft) (m : String × Json.Value) : Option Draft :=
  match fieldOf? m.1.toList with
  | none => some d
  | some field => if d.has field then none else takeField d m.2 field

theorem onRead_toOption {α β : Type} (f : α → β) (r : Reading α) :
    (onRead f r).toOption = r.toOption.map fun read => (f read.1, read.2) := by
  cases r <;> rfl

theorem readField_toOption (d : Draft) (field : SettingsField) {v : Json.Value}
    {text rest : List Char} (written : Padded v.Written text) (ends : EndsNumeral rest) :
    (readField d field (tokens (text ++ rest))).toOption =
      (takeField d v field).map fun d' => (d', tokens rest) := by
  cases field
  all_goals
    simp only [readField, takeField, onRead_toOption, readText, readOptionalCount,
      readOptionalText, readValue_toOption takesScalars_text _ written ends,
      readValue_toOption takesScalars_text.option _ written ends,
      readValue_toOption takesScalars_count.option _ written ends, Option.map_map]
    rfl

theorem readMember_toOption (d : Draft) (m : String × Json.Value) {text rest : List Char}
    (written : MemberText (StringText (some m.1.toList)) m.2.Written text)
    (ends : EndsNumeral rest) :
    (readMember d (tokens (text ++ rest))).toOption =
      (takeMember d m).map fun d' => (d', tokens rest) := by
  obtain ⟨pieces, second, denotes, padded, scanned⟩ := Json.tokens_memberText written
  rw [scanned, readMember, readKey, Json.joinPieces_eq_ok_iff.mpr denotes]
  simp only [readColon, takeMember]
  cases fieldOf? m.1.toList with
  | none =>
    simp only [skipMember, Json.Value.Written.skipValue_eq padded ends]
    rfl
  | some field =>
    by_cases repeated : d.has field = true
    · simp only [if_pos repeated]
      rfl
    · simp only [if_neg repeated]
      exact readField_toOption d field padded ends

theorem readMembers_of_error {d : Draft} {ts : List Token} {e : SettingsError}
    (member : readMember d ts = .error e) : readMembers d ts = .error e := by
  rw [readMembers]
  split
  · next failed => exact failed.symm.trans member
  · next read => cases member.symm.trans read

/-- Members are read one after the other, up to the brace that closes the object. -/
theorem readMembers_toOption (members : List (String × Json.Value)) (d : Draft)
    (m : String × Json.Value) {first more : List Char}
    (member : MemberText (StringText (some m.1.toList)) m.2.Written first)
    (others : Json.MoreMembersText (asMembers members) more) (rest : List Char) :
    (readMembers d (tokens (first ++ (more ++ '}' :: rest)))).toOption =
      ((m :: members).foldlM takeMember d).map fun d' => (d', tokens rest) := by
  induction members generalizing d m first more with
  | nil =>
    obtain rfl : more = [] := others
    have ends : EndsNumeral ('}' :: rest) := Json.endsNumeral_cons (by decide) rest
    rw [List.nil_append, List.foldlM_cons]
    obtain ⟨d', accepted, read⟩ | ⟨refused, e, failed⟩ :=
      ok_or_error_of_toOption (readMember_toOption d m member ends)
    · rw [readMembers_of_ok read, Json.tokens_closeBrace, accepted]
      rfl
    · rw [readMembers_of_error failed, refused]
      rfl
  | cons m' members ih =>
    obtain ⟨second, more, member', others, rfl⟩ := others
    have ends : EndsNumeral (',' :: (second ++ (more ++ '}' :: rest))) :=
      Json.endsNumeral_cons (by decide) _
    rw [List.cons_append, List.append_assoc, List.foldlM_cons]
    obtain ⟨d', accepted, read⟩ | ⟨refused, e, failed⟩ :=
      ok_or_error_of_toOption (readMember_toOption d m member ends)
    · rw [readMembers_of_ok read, Json.tokens_comma, accepted]
      exact ih d' m' member' others
    · rw [readMembers_of_error failed, refused]
      rfl

/-- The settings that come out of the members, if all of them can be taken. -/
def gathered (members : List (String × Json.Value)) : Option Settings :=
  (members.foldlM takeMember .empty).bind fun d => d.finish.toOption

/-- An object is read from behind its opening brace as what its members give. -/
theorem readObject_toOption {members : List (String × Json.Value)} {inner : List Char}
    (written : Json.MembersText (asMembers members) inner) (rest : List Char) :
    (readObject (tokens (inner ++ '}' :: rest))).toOption =
      (gathered members).map fun s => (s, tokens rest) := by
  cases members with
  | nil =>
    rw [Json.tokens_blank_append written, Json.tokens_closeBrace]
    rfl
  | cons m members =>
    obtain ⟨first, more, member, others, rfl⟩ := written
    have all := readMembers_toOption members .empty m member others rest
    obtain ⟨pieces, _, _, _, scanned⟩ := Json.tokens_memberText member
    rw [scanned] at all
    rw [List.append_assoc, scanned, readObject, gathered]
    · obtain ⟨d, accepted, read⟩ | ⟨refused, e, failed⟩ := ok_or_error_of_toOption all
      · rw [read, accepted]
        simp only [Option.bind_some]
        cases d.finish <;> rfl
      · rw [failed, refused]
        rfl
    · exact fun _ brace => by cases brace

/-- The text of an object is read as what its members give. -/
theorem ofJson_toOption {members : List (String × Json.Value)} {text : String}
    (written : ObjectText members text) : (ofJson text).toOption = gathered members := by
  obtain ⟨before, _, after, blank, ⟨inner, object, rfl⟩, blank', split⟩ := written
  have nothing : tokens after = [] := by
    simpa using Json.tokens_blank_append blank' []
  rw [ofJson, split, Json.tokens_blank_append blank, List.cons_append, List.append_assoc,
    Json.tokens_openBrace, ofTokens, readSettings, List.singleton_append]
  obtain ⟨s, given, read⟩ | ⟨refused, e, failed⟩ := ok_or_error_of_toOption
    (readObject_toOption object after)
  · rw [read, given, nothing]
    rfl
  · rw [failed, refused]
    rfl

end Settings

end DocQuery
