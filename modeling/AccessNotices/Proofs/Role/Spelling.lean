import AccessNotices.Naming
import AccessNotices.Proofs.Caller.Canonical
import AccessNotices.Proofs.Caller.Identifier
import AccessNotices.Proofs.Text.Blank
import AccessNotices.Proofs.Text.Case
/-!
Which texts name a role, and what a caller's role is kept as.

A text names a role when, without the blanks at its ends, it is the role's own text up to the case
of the letters of ASCII (`Role.named?_eq_some_iff`). A caller's role is read once when the caller is
built and once more when it is classified; both readings put the caller on the same side
(`Caller.classify_of_roleOf`). Main statement: `Caller.role_named_classified_and_kept`.
-/

namespace AccessNotices

open Validation Text

namespace Text

/-- A text spells a word of small letters: without the blanks at its ends it is the word, up to the
case of the letters of ASCII. -/
def Spells (s word : String) : Prop :=
  ∃ t, Trims isBlank s.toList t ∧ t.map Char.toLower = word.toList

theorem spells_iff {s word : String} :
    Spells s word ↔ (trim s.toList).map Char.toLower = word.toList := by
  constructor
  · rintro ⟨t, trims, same⟩
    rwa [trim, trimBy_eq_iff.mpr trims]
  · exact fun same => ⟨trim s.toList, trims_trimBy isBlank s.toList, same⟩

instance (s word : String) : Decidable (Spells s word) :=
  decidable_of_iff _ spells_iff.symm

/-- A text that spells a word of ASCII has no other characters than those of ASCII and blanks. -/
theorem isAscii_of_spells {s word : String} (spells : Spells s word)
    (plain : ∀ c ∈ word.toList, isAscii c = true) {c : Char} (mem : c ∈ s.toList)
    (notBlank : isBlank c = false) : isAscii c = true := by
  obtain ⟨t, ⟨⟨before, after, whole, leading, trailing⟩, -, -⟩, same⟩ := spells
  rw [whole, List.mem_append, List.mem_append] at mem
  rcases mem with (mem | mem) | mem
  · exact absurd (leading c mem) (Bool.eq_false_iff.mp notBlank)
  · refine isAscii_of_isAscii_toLower (plain c.toLower ?_)
    rw [← same]
    exact List.mem_map_of_mem mem
  · exact absurd (trailing c mem) (Bool.eq_false_iff.mp notBlank)

end Text

namespace Role

variable {s : String} {r : Role}

theorem ofText?_eq_some_iff : ofText? s = some r ↔ r.text = s := by
  constructor
  · exact fun found => beq_iff_eq.mp (List.find?_some (p := fun r : Role => r.text == s) found)
  · rintro rfl
    exact ofText?_text r

/-- The texts of roles are of ASCII and have no `k`, so no character outside of ASCII has a part of
one for its lower case. -/
theorem plain_text (r : Role) : ∀ c ∈ r.text.toList, isAscii c = true ∧ c ≠ 'k' := by
  have all : (r.text.toList.all fun c => isAscii c && c != 'k') = true := by
    cases r <;> decide
  intro c mem
  simpa using List.all_eq_true.mp all c mem

theorem spells_text (r : Role) : Spells r.text r.text := by
  cases r <;> decide

/-- A text names a role exactly when it spells it. -/
theorem named?_eq_some_iff : named? s = some r ↔ Spells s r.text := by
  rw [named?, ofText?_eq_some_iff, spells_iff, ← lower_eq_iff r.plain_text]
  constructor
  · intro same
    rw [same, String.toList_ofList]
  · intro same
    rw [same, String.ofList_toList]

/-- A text names no role exactly when it spells none. -/
theorem named?_eq_none_iff : named? s = none ↔ ∀ m : Role, ¬ Spells s m.text := by
  rw [Option.eq_none_iff_forall_ne_some]
  exact forall_congr' fun m => not_congr named?_eq_some_iff

/-- A text with halves of characters names no role. -/
theorem named?_shown (t : HalvedText) : named? t.shown = none := by
  rw [named?_eq_none_iff]
  intro m spells
  obtain ⟨c, mem, far⟩ := t.exists_mem_shown
  have notBlank : isBlank c = false := by
    rw [Bool.eq_false_iff]
    intro blank
    have near := toNat_le_of_isBlank blank
    omega
  have ascii := isAscii_of_spells spells (fun c mem => (m.plain_text c mem).1) mem notBlank
  have near : c.toNat < 0x80 := of_decide_eq_true ascii
  omega

theorem named?_text (r : Role) : named? r.text = some r :=
  named?_eq_some_iff.mpr r.spells_text

theorem ofValue_text_eq_ok_iff : ofValue (.text s) = .ok r ↔ Spells s r.text := by
  rw [← named?_eq_some_iff]
  unfold ofValue
  dsimp only
  cases named? s with
  | none => simp
  | some m => simp

theorem ofValue_text_of_none (none : ∀ m : Role, ¬ Spells s m.text) :
    ofValue (.text s) = .error (.role (.text s)) := by
  unfold ofValue
  dsimp only
  rw [named?_eq_none_iff.mpr none]

end Role

namespace Perspective

/-- How whatever stands for a role is looked up: the side, and the statement that shows it. -/
def view (v : Value) : Perspective × Selector :=
  (classify v, (classify v).selector)

/-- Two roles are on the side of the consumer. -/
theorem ofRole_eq_consumer_iff (r : Role) :
    ofRole r = consumer ↔ r = .consumer ∨ r = .consumerDelegate := by
  cases r <;> decide

/-- A role is classified like its text. -/
theorem classify_role (r : Role) : classify (.role r) = classify (.text r.text) := by
  unfold classify
  dsimp only
  rw [r.named?_text]

/-- The texts of consumers are the spellings of their two roles. -/
theorem classify_text_eq_consumer_iff (s : String) :
    classify (.text s) = consumer ↔ Spells s "consumer" ∨ Spells s "consumer_delegate" := by
  have isConsumer : Role.named? s = some .consumer ↔ Spells s "consumer" :=
    Role.named?_eq_some_iff
  have isDelegate : Role.named? s = some .consumerDelegate ↔ Spells s "consumer_delegate" :=
    Role.named?_eq_some_iff
  rw [← isConsumer, ← isDelegate]
  unfold classify
  dsimp only
  cases Role.named? s with
  | none => simp
  | some r => simp [ofRole_eq_consumer_iff]

/-- What is no text is on the side of the provider. -/
theorem classify_of_no_text {v : Value} (none : v.asText? = none) : classify v = provider := by
  cases v with
  | text s => cases none
  | role r => cases none
  | _ => rfl

theorem view_of_consumer {v : Value} (side : classify v = consumer) :
    view v = (consumer, .consumerNotifications) := by
  rw [view, side]
  rfl

theorem view_of_provider {v : Value} (side : classify v ≠ consumer) :
    view v = (provider, .providerNotifications) := by
  unfold view
  cases found : classify v with
  | consumer => exact absurd found side
  | provider => rfl

end Perspective

namespace Caller

open Perspective

/-- A role read from a text stands on the side of the text, if the text names it. -/
theorem classify_roleOrText {found : Option Role} {s : String}
    (names : ∀ r, found = some r → Role.named? s = some r) :
    classify (roleOrText found s) = classify (.text s) := by
  cases found with
  | none => rfl
  | some r =>
    unfold classify roleOrText
    dsimp only
    rw [names r rfl]

/-- Whatever a role is given as, what is kept for it stands on the same side as its text. -/
theorem classify_of_roleOf {v role : Value} (read : roleOf v = .ok role) :
    ∃ s, textOf v = .ok s ∧ classify role = classify (.text s) := by
  cases v with
  | role r =>
    cases read
    exact ⟨r.text, rfl, classify_role r⟩
  | text s =>
    have kept : roleOrText (Role.named? s) s = role := Except.ok.inj read
    rw [← kept]
    exact ⟨s, rfl, classify_roleOrText fun r named => named⟩
  | codes t =>
    cases read
    refine ⟨t.shown, rfl, ?_⟩
    unfold classify
    dsimp only
    rw [Role.named?_shown]
  | bytes b =>
    -- Bytes are compared by the letter, and a role's text by the letter names the role.
    change (textOf (.bytes b)).map (fun s => roleOrText (Role.ofText? s) s) = .ok role at read
    cases decoded : textOf (.bytes b) with
    | error cause =>
      rw [decoded] at read
      cases read
    | ok s =>
      rw [decoded] at read
      cases read
      refine ⟨s, rfl, classify_roleOrText fun r named => ?_⟩
      rw [← Role.ofText?_eq_some_iff.mp named, r.named?_text]
  | _ => cases read

/-- What is kept for a role that is given as a text: the role that the text names, and the text
itself if it names none. -/
structure KeepsRole (s : String) (role : Value) : Prop where
  named : ∀ m : Role, Spells s m.text → role = .role m
  other : (∀ m : Role, ¬ Spells s m.text) → role = .text s

/-- What is kept for a role is the role that the text spells, or else the text. -/
theorem keepsRole_of_roleOf {s : String} {role : Value} (read : roleOf (.text s) = .ok role) :
    KeepsRole s role := by
  have kept : roleOrText (Role.named? s) s = role := Except.ok.inj read
  constructor
  · intro m spells
    rw [← kept, Role.named?_eq_some_iff.mpr spells]
    rfl
  · intro none
    rw [← kept, Role.named?_eq_none_iff.mpr none]
    rfl

/-- **Roles and the texts that name them.** A text is read as a role exactly when it spells the
role's text, and refused when it spells none. It is looked up as a consumer's exactly when it spells
the text of a consumer or of a consumer's delegate; every other text, and all that is no text, is
looked up as a provider's. Building a caller does not change this: an accepted caller stands on the
side of the text of the role that was given, which is kept as the role that it names, or as it is if
it names none. -/
theorem role_named_classified_and_kept :
    (∀ s m, Role.ofValue (.text s) = .ok m ↔ Spells s m.text) ∧
    (∀ s, (∀ m : Role, ¬ Spells s m.text) → Role.ofValue (.text s) = .error (.role (.text s))) ∧
    (∀ s, view (.text s) =
      if Spells s "consumer" ∨ Spells s "consumer_delegate" then (.consumer, .consumerNotifications)
      else (.provider, .providerNotifications)) ∧
    (∀ v : Value, v.asText? = none → view v = (.provider, .providerNotifications)) ∧
    (∀ m : Role, view (.role m) = view (.text m.text)) ∧
    ∀ entries c, ofEntries entries = .ok c →
      ∃ v s, Value.field? entries "role" = some v ∧ textOf v = .ok s ∧
        view c.role = view (.text s) ∧ (v = .text s → KeepsRole s c.role) := by
  refine ⟨?_, ?_, ?_, ?_, ?_, ?_⟩
  · exact fun s m => Role.ofValue_text_eq_ok_iff
  · exact fun s => Role.ofValue_text_of_none
  · intro s
    split
    · rename_i spells
      exact view_of_consumer ((classify_text_eq_consumer_iff s).mpr spells)
    · rename_i other
      exact view_of_provider (mt (classify_text_eq_consumer_iff s).mp other)
  · intro v none
    exact view_of_provider (by rw [classify_of_no_text none]; decide)
  · intro m
    rw [view, view, classify_role]
  · intro entries c accepted
    obtain ⟨-, others⟩ := ofEntries_eq_ok_iff.mp accepted
    obtain ⟨v, given, read⟩ := roleField_eq_ok_iff.mp others.role_eq
    obtain ⟨s, text, side⟩ := classify_of_roleOf read
    refine ⟨v, s, given, text, by rw [view, view, side], ?_⟩
    rintro rfl
    exact keepsRole_of_roleOf read

/-- A role in capital letters between blanks is read, and kept as the role. -/
theorem padded_role_named_classified_and_kept :
    ∃ c, ofEntries (sentEntries (.uuid consumerCaller.id.uuid) (.text " Consumer\n")) = .ok c ∧
      c.role = .role .consumer ∧ view c.role = (.consumer, .consumerNotifications) := by
  obtain ⟨-, -, side, -, -, kept⟩ := role_named_classified_and_kept
  have spells : Spells " Consumer\n" "consumer" := by decide +kernel
  have id : UserId.ofValue (.uuid consumerCaller.id.uuid) = .ok consumerCaller.id :=
    (UserId.ofValue_uuid_eq_ok_iff _ _).mpr rfl
  have accepted : ofEntries (sentEntries (.uuid consumerCaller.id.uuid) (.text " Consumer\n")) =
      .ok (sentBy consumerCaller.id (roleOrText (Role.named? " Consumer\n") " Consumer\n")) :=
    ofEntries_eq_ok_iff.mpr ⟨(required_of_given (pick?_userId_sentEntries _ _)).mpr id,
      readsOthers_sentEntries _ _ rfl⟩
  obtain ⟨v, s, given, text, viewed, keeps⟩ := kept _ _ accepted
  cases given
  cases text
  refine ⟨_, accepted, (keeps rfl).named .consumer spells, ?_⟩
  rw [viewed, side, if_pos (.inl spells)]

end Caller

end AccessNotices
