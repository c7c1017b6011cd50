import AccessNotices.Lookup.Basic
import AccessNotices.Proofs.Caller.Canonical
import AccessNotices.Proofs.Caller.Fields
import AccessNotices.Proofs.Uuid.Hyphenated
/-!
Which identifiers a caller may have, and what the store is asked for.

An identifier is a number or a hyphenated text, and nothing else (`UserId.ofValue_eq_ok_iff`). It is
kept as it was sent and can always be read again (`UserId.read_text`); the store gets it in lower
case. Main statement: `Caller.identifier_accepted_kept_and_bound`.
-/

namespace AccessNotices

open Validation Text

namespace UserId

/-- The identifiers that may be sent, each with the text that it is kept as: a number is kept as its
canonical text, and a hyphenated text as it is. -/
inductive Sent : Value → String → Prop where
  | number (u : Uuid) : Sent (.uuid u) u.toString
  | text {s : String} : Uuid.IsHyphenated s.toList → Sent (.text s) s

theorem sent_uuid_iff (u : Uuid) (kept : String) : Sent (.uuid u) kept ↔ kept = u.toString := by
  constructor
  · intro sent
    cases sent
    rfl
  · rintro rfl
    exact .number u

theorem sent_text_iff (s kept : String) :
    Sent (.text s) kept ↔ kept = s ∧ Uuid.IsHyphenated s.toList := by
  constructor
  · intro sent
    cases sent with
    | text hyphenated => exact ⟨rfl, hyphenated⟩
  · rintro ⟨rfl, hyphenated⟩
    exact .text hyphenated

/-! ### Identifiers and their texts -/

theorem isHyphenated (id : UserId) : Uuid.IsHyphenated id.text.toList :=
  id.uuid.isHyphenated_text.of_map_toLower ((id.uuid.lower_eq_text_iff _).mp id.spelled.symm)

/-- In an identifier only letters of ASCII can change when it is put into lower case. -/
theorem lower_text (id : UserId) : lower id.text.toList = id.text.toList.map Char.toLower := by
  rw [(id.uuid.lower_eq_text_iff _).mp id.spelled.symm, id.spelled]

/-- The text of an identifier can be read, and gives its number. -/
theorem read_text (id : UserId) : Uuid.read id.text.toList = .ok id.uuid := by
  obtain ⟨u, read, text⟩ := Uuid.isHyphenated_iff.mp id.isHyphenated
  rw [read, Uuid.text_injective (text.trans id.spelled.symm)]

/-- A text is taken as the one identifier whose text it is, if there is one. -/
theorem ofText?_eq_some_iff {s : String} {id : UserId} : ofText? s = some id ↔ id.text = s := by
  constructor
  · intro found
    unfold ofText? at found
    split at found
    · split at found
      · cases found
        rfl
      · cases found
    · cases found
  · rintro rfl
    unfold ofText?
    simp only [id.read_text, dif_pos id.spelled]

/-- The texts of identifiers are exactly the hyphenated ones. -/
theorem exists_text_eq_iff (s : String) :
    (∃ id : UserId, id.text = s) ↔ Uuid.IsHyphenated s.toList := by
  constructor
  · rintro ⟨id, rfl⟩
    exact id.isHyphenated
  · intro hyphenated
    obtain ⟨u, -, text⟩ := Uuid.isHyphenated_iff.mp hyphenated
    exact ⟨⟨s, u, text⟩, rfl⟩

/-- The text of a role is no identifier. -/
theorem ofText?_role (r : Role) : ofText? r.text = none := by
  cases found : ofText? r.text with
  | none => rfl
  | some id =>
    -- All these texts have an r, which is neither a digit nor a hyphen.
    have letter : 'r' ∈ r.text.toList := by
      cases r <;> decide
    rw [← ofText?_eq_some_iff.mp found] at letter
    rcases id.isHyphenated.isHexDigit_or_hyphen 'r' letter with hex | hyphen
    · cases hex
    · cases hyphen

/-- An identifier that is sent as a text keeps it as it is. -/
theorem ofValue_text_eq_ok_iff (s : String) (id : UserId) :
    ofValue (.text s) = .ok id ↔ id.text = s := by
  rw [← ofText?_eq_some_iff]
  unfold ofValue
  dsimp only
  cases ofText? s with
  | none => simp
  | some other => simp

/-- One that is sent as a number gets the canonical text. -/
theorem ofValue_uuid_eq_ok_iff (u : Uuid) (id : UserId) :
    ofValue (.uuid u) = .ok id ↔ id.text = u.toString := by
  rw [← ofText?_eq_some_iff]
  unfold ofValue
  dsimp only
  cases ofText? u.toString with
  | none => simp
  | some other => simp

/-- What is accepted as an identifier, and what it is kept as. -/
theorem ofValue_eq_ok_iff {v : Value} {id : UserId} : ofValue v = .ok id ↔ Sent v id.text := by
  cases v with
  | uuid u => rw [ofValue_uuid_eq_ok_iff, sent_uuid_iff]
  | text s =>
    rw [ofValue_text_eq_ok_iff, sent_text_iff]
    constructor
    · rintro rfl
      exact ⟨rfl, id.isHyphenated⟩
    · exact And.left
  | role r =>
    unfold ofValue
    dsimp only
    rw [ofText?_role]
    exact iff_of_false nofun nofun
  | _ => exact iff_of_false nofun nofun

theorem exists_ofValue_iff (v : Value) :
    (∃ id, ofValue v = .ok id) ↔
      (∃ u, v = .uuid u) ∨ ∃ s, v = .text s ∧ Uuid.IsHyphenated s.toList := by
  simp only [ofValue_eq_ok_iff]
  constructor
  · rintro ⟨id, sent⟩
    generalize id.text = kept at sent
    cases sent with
    | number u => exact .inl ⟨u, rfl⟩
    | text hyphenated => exact .inr ⟨_, rfl, hyphenated⟩
  · rintro (⟨u, rfl⟩ | ⟨s, rfl, hyphenated⟩)
    · exact ⟨ofUuid u, .number u⟩
    · obtain ⟨id, rfl⟩ := (exists_text_eq_iff s).mpr hyphenated
      exact ⟨id, .text hyphenated⟩

end UserId

/-! ### Callers -/

namespace Caller

def requester (c : Caller) (statements : Statements) : String :=
  (Lookup.queryFor c statements).parameters.value .requesterId

/-- A query names the caller in small letters. -/
theorem requester_eq (c : Caller) (statements : Statements) :
    c.requester statements = String.ofList (c.id.text.toList.map Char.toLower) := by
  change c.id.uuid.toString = _
  rw [c.id.toString_uuid, c.id.lower_text]

/-- **Identifiers of callers.** A caller is accepted exactly when its identifier is a number or a
hyphenated text and the other fields can be read. The identifier of an accepted caller is kept as
it was sent, also as a party; it can be read again; and every query binds it with the letters of
ASCII in lower case. So two callers are bound as the same requester exactly when their identifiers
are the same up to the case of these letters. -/
theorem identifier_accepted_kept_and_bound :
    (∀ entries key v, pick? "userId" "user_id" entries = some (key, v) →
      ((∃ c, ofEntries entries = .ok c) ↔
        ((∃ u, v = .uuid u) ∨ ∃ s, v = .text s ∧ Uuid.IsHyphenated s.toList) ∧
          ∃ c, ReadsOthers entries c)) ∧
    (∀ entries key v c, pick? "userId" "user_id" entries = some (key, v) →
      ofEntries entries = .ok c → UserId.Sent v c.id.text) ∧
    (∀ c : Caller, c.party.id = some c.id.text ∧ Uuid.read c.id.text.toList = .ok c.id.uuid ∧
      ∀ statements,
        c.requester statements = String.ofList (c.id.text.toList.map Char.toLower)) ∧
    ∀ (c d : Caller) (statements : Statements),
      c.requester statements = d.requester statements ↔
        c.id.text.toList.map Char.toLower = d.id.text.toList.map Char.toLower := by
  refine ⟨?_, ?_, ?_, ?_⟩
  · intro entries key v given
    rw [← UserId.exists_ofValue_iff]
    constructor
    · rintro ⟨c, accepted⟩
      obtain ⟨id, others⟩ := ofEntries_eq_ok_iff.mp accepted
      exact ⟨⟨c.id, (required_of_given given).mp id⟩, c, others⟩
    · rintro ⟨⟨id, read⟩, c, others⟩
      refine ⟨{ c with id := id }, ofEntries_eq_ok_iff.mpr ⟨(required_of_given given).mpr read, ?_⟩⟩
      exact ⟨others.firstName_eq, others.lastName_eq, others.email_eq, others.url_eq,
        others.role_eq⟩
  · intro entries key v c given accepted
    obtain ⟨id, -⟩ := ofEntries_eq_ok_iff.mp accepted
    exact UserId.ofValue_eq_ok_iff.mp ((required_of_given given).mp id)
  · exact fun c => ⟨rfl, c.id.read_text, c.requester_eq⟩
  · intro c d statements
    rw [requester_eq, requester_eq, String.ofList_inj]

/-- An identifier that is sent in mixed case is kept so; it is bound as the requester of the number
that it spells. -/
theorem mixed_case_accepted_kept_and_bound :
    ∃ c, ofEntries (sentEntries (.text "6F1c2D4e-8a7b-4C3d-9e0f-1a2b3c4d5E6f") (.role .consumer)) =
        .ok c ∧
      c.party.id = some "6F1c2D4e-8a7b-4C3d-9e0f-1a2b3c4d5E6f" ∧
      c.requester .builtIn = consumerCaller.requester .builtIn := by
  obtain ⟨accepted, kept, asParty, bound⟩ := identifier_accepted_kept_and_bound
  have sameLetters : "6F1c2D4e-8a7b-4C3d-9e0f-1a2b3c4d5E6f".toList.map Char.toLower =
      consumerCaller.id.uuid.text := by
    decide +kernel
  have hyphenated : Uuid.IsHyphenated "6F1c2D4e-8a7b-4C3d-9e0f-1a2b3c4d5E6f".toList :=
    consumerCaller.id.uuid.isHyphenated_text.of_map_toLower sameLetters
  have role : roleOf (.role .consumer) = .ok (.role .consumer) := rfl
  obtain ⟨c, given⟩ := (accepted _ _ _ (pick?_userId_sentEntries _ _)).mpr
    ⟨.inr ⟨_, rfl, hyphenated⟩, _, readsOthers_sentEntries _ consumerCaller.id role⟩
  obtain ⟨text, -⟩ := (UserId.sent_text_iff _ _).mp
    (kept _ _ _ c (pick?_userId_sentEntries _ _) given)
  refine ⟨c, given, ?_, (bound c consumerCaller .builtIn).mpr ?_⟩
  · rw [(asParty c).1, text]
  · rw [text, sameLetters]
    decide +kernel

end Caller

end AccessNotices
