import DocQuery.Proofs.Json.Spelling
import DocQuery.Settings.Reader
import DocQuery.Settings.Writer

/- Settings that are written as JSON and read again. The tokens of each written value are read as
   that value, whatever comes after them (`readText_writeText` and its like), so each member sets
   its own field of the draft and leaves the text behind it alone (`readMember_writeMember`). Main
   statement: `settings_read_back_as_written`. -/

namespace DocQuery

open Json (Token Piece tokens)

namespace Settings

/-! ## Values -/

/-- A token that stands for something acceptable. -/
theorem readValue_cons {α : Type} {expected : Expected}
    {accept : Found → Option (Except SettingsError α)} {token : Token} {f : Found} {a : α}
    (stands : found token = .ok f) (accepted : accept f = some (.ok a)) (rest : List Token) :
    readValue expected accept (token :: rest) = .ok (a, rest) := by
  rw [readValue, valueOf, stands]
  simp only [accepted, Except.map]

theorem found_text {pieces : List Piece} {s : List Char}
    (joined : Json.joinPieces none pieces = .ok s) :
    found (.text pieces none) = .ok (.text (String.ofList s)) := by
  rw [found, joined]

/-- The digits of a count of 64 bits stand for it; they never take the way through a double. -/
theorem found_digitsOf (n : UInt64) :
    found (.numeral (.ok ⟨false, (Decimal.digitsOf n.toNat).map Json.digitValue, none, none⟩)) =
      .ok (.number (.natural n.toNat)) := by
  simp [found, Json.Numeral.number?, Json.Numeral.isInteger, Json.numberOf_digitsOf,
    n.toNat_lt_size]

theorem readText_writeText (s : String) (rest : List Char) :
    readText (tokens (Json.writeText s.toList ++ rest)) = .ok (s, tokens rest) := by
  obtain ⟨pieces, joined, scanned⟩ := Json.tokens_writeText s.toList
  rw [scanned]
  exact readValue_cons (found_text joined) (by simp [acceptText]) _

theorem readOptionalText_writeOption (s? : Option String) (rest : List Char) :
    readOptionalText (tokens (writeOption (fun s => Json.writeText s.toList) s? ++ rest)) =
      .ok (s?, tokens rest) := by
  cases s? with
  | none =>
    rw [writeOption]
    simp only [List.cons_append, List.nil_append, Json.tokens_null]
    exact readValue_cons rfl rfl _
  | some s =>
    obtain ⟨pieces, joined, scanned⟩ := Json.tokens_writeText s.toList
    rw [writeOption, scanned]
    exact readValue_cons (found_text joined) (by simp [acceptOption, acceptText, Except.map]) _

theorem readOptionalCount_writeOption (n? : Option UInt64) {rest : List Char}
    (ends : Json.EndsNumeral rest) :
    readOptionalCount
        (tokens (writeOption (fun n : UInt64 => Decimal.digitsOf n.toNat) n? ++ rest)) =
      .ok (n?, tokens rest) := by
  cases n? with
  | none =>
    rw [writeOption]
    simp only [List.cons_append, List.nil_append, Json.tokens_null]
    exact readValue_cons rfl rfl _
  | some n =>
    rw [writeOption, Json.tokens_whole (Json.isWhole_digitsOf n.toNat) ends]
    exact readValue_cons (found_digitsOf n) (by simp [acceptOption, acceptCount, Except.map]) _

/-! ## Members -/

theorem fieldOf?_key (field : SettingsField) : fieldOf? field.key.toList = some field := by
  cases field <;> decide

/-- A written member is read as its value is read into the field. -/
theorem readMember_writeMember {d : Draft} (field : SettingsField) (absent : d.has field = false)
    (value rest : List Char) :
    readMember d (tokens (writeMember field.key value ++ rest)) =
      readField d field (tokens (value ++ rest)) := by
  obtain ⟨pieces, joined, scanned⟩ := Json.tokens_writeText field.key.toList
  rw [writeMember, List.append_assoc, List.cons_append, scanned, Json.tokens_colon, readMember]
  simp [readKey, joined, fieldOf?_key, absent, readColon]

theorem readMember_collection {d : Draft} (absent : d.collection = none) (s : String)
    (rest : List Char) :
    readMember d (tokens (writeMember "collection" (Json.writeText s.toList) ++ rest)) =
      .ok ({ d with collection := some s }, tokens rest) := by
  refine (readMember_writeMember .collection (by simp [Draft.has, absent]) _ _).trans ?_
  rw [readField, readText_writeText]
  rfl

theorem readMember_timeLimit {d : Draft} (absent : d.timeLimitMs = none) (n? : Option UInt64)
    {rest : List Char} (ends : Json.EndsNumeral rest) :
    readMember d (tokens (writeMember "max_time_ms"
        (writeOption (fun n : UInt64 => Decimal.digitsOf n.toNat) n?) ++ rest)) =
      .ok ({ d with timeLimitMs := some n? }, tokens rest) := by
  refine (readMember_writeMember .timeLimit (by simp [Draft.has, absent]) _ _).trans ?_
  rw [readField, readOptionalCount_writeOption n? ends]
  rfl

theorem readMember_comment {d : Draft} (absent : d.comment = none) (s? : Option String)
    (rest : List Char) :
    readMember d (tokens (writeMember "comment"
        (writeOption (fun s => Json.writeText s.toList) s?) ++ rest)) =
      .ok ({ d with comment := some s? }, tokens rest) := by
  refine (readMember_writeMember .comment (by simp [Draft.has, absent]) _ _).trans ?_
  rw [readField, readOptionalText_writeOption]
  rfl

/-- What comes after a member that could be read decides how the object goes on. -/
theorem readMembers_of_ok {d d' : Draft} {ts rest : List Token} :
    readMember d ts = .ok (d', rest) →
    readMembers d ts =
      match rest with
      | [] => .error (.fault .cutOff)
      | .closeBrace :: after => .ok (d', after)
      | .comma :: more => readMembers d' more
      | _ :: _ => .error (.fault .malformed) := by
  intro member
  rw [readMembers]
  split
  · next failed => cases member.symm.trans failed
  · next read =>
    cases member.symm.trans read
    cases rest with
    | nil => rfl
    | cons token more => cases token <;> rfl

/-- An object with members. -/
theorem readObject_of_readMembers {d : Draft} {ts after : List Token}
    (members : readMembers .empty ts = .ok (d, after)) :
    readObject ts = d.finish.map fun s => (s, after) := by
  unfold readObject
  split
  · next rest =>
    rw [readMembers] at members
    cases members
  · rw [members]

end Settings

open Settings

/-- Settings that are written as JSON are read back as they were. -/
theorem settings_read_back_as_written (s : Settings) : ofJson s.toJson = .ok s := by
  obtain ⟨collection, timeLimitMs, comment⟩ := s
  let first := writeMember "collection" (Json.writeText collection.toList)
  let second := writeMember "max_time_ms"
    (writeOption (fun n : UInt64 => Decimal.digitsOf n.toNat) timeLimitMs)
  let third := writeMember "comment" (writeOption (fun c => Json.writeText c.toList) comment)
  have comma (rest : List Char) : Json.EndsNumeral (',' :: rest) := by
    rintro _ ⟨⟩
    decide
  -- Each member is read into its own field of the draft.
  have members :=
    calc readMembers .empty (tokens (first ++ ',' :: (second ++ ',' :: (third ++ ['}']))))
      _ = readMembers ⟨some collection, none, none⟩
            (tokens (second ++ ',' :: (third ++ ['}']))) := by
        rw [readMembers_of_ok (readMember_collection rfl collection _), Json.tokens_comma]
        rfl
      _ = readMembers ⟨some collection, some timeLimitMs, none⟩ (tokens (third ++ ['}'])) := by
        rw [readMembers_of_ok (readMember_timeLimit rfl timeLimitMs (comma _)),
          Json.tokens_comma]
      _ = .ok (⟨some collection, some timeLimitMs, some comment⟩, []) := by
        rw [readMembers_of_ok (readMember_comment rfl comment _), Json.tokens_closeBrace,
          Json.tokens_nil]
  have object : (toJson ⟨collection, timeLimitMs, comment⟩).toList =
      '{' :: (first ++ ',' :: (second ++ ',' :: (third ++ ['}']))) := by
    simp [toJson, first, second, third]
  rw [ofJson, object, Json.tokens_openBrace, ofTokens, readSettings,
    readObject_of_readMembers members]
  rfl

example : ofJson (toJson ⟨"\x1f\\\"\u00e9", some 18446744073709551615, some ""⟩) =
    .ok ⟨"\x1f\\\"\u00e9", some 18446744073709551615, some ""⟩ := by decide +kernel

end DocQuery
