import AccessNotices.Proofs.Caller.Report
import Mathlib.Data.List.Forall2
/-!
Which mappings are accepted as callers.

A caller that is accepted has in each field what the field is given (`ofEntries_eq_ok_iff_forall`).
It does not matter which of its two names a field is given under (`ofEntries_respelled`), nor what
else the mapping holds (`ofEntries_congr`). Main statement:
`fields_accepted_respelled_and_reported`.
-/

namespace AccessNotices

open Validation Text

namespace Caller

variable {entries entries' : List (Value × Value)} {f : Field} {key : String} {v : Value}
  {c : Caller}

/-! ### Accepted callers -/

namespace Field

/-- The reader of a field gives what the caller has in it. -/
def IsReadAs (entries : List (Value × Value)) (c : Caller) : Field → Prop
  | id => required "userId" "user_id" UserId.ofValue entries = .ok c.id
  | firstName => optional "firstName" "first_name" optionalTextOf entries = .ok c.firstName
  | lastName => optional "lastName" "last_name" optionalTextOf entries = .ok c.lastName
  | email => optional "emailId" "email_id" optionalTextOf entries = .ok c.email
  | resourceServerUrl =>
    required "resourceServerUrl" "resource_server_url" textOf entries = .ok c.resourceServerUrl
  | role => roleField entries = .ok c.role

/-- A field is read as it is filled. -/
theorem isReadAs_iff : f.IsReadAs entries c ↔ f.FilledFrom entries c := by
  have must {α : Type} {read : Value → Except Cause α} {a : α}
      (fills : ∀ v, read v = .ok a ↔ f.Fills v c) (never : ¬ f.IsEmptyIn c) :
      required f.name f.otherName read entries = .ok a ↔ f.FilledFrom entries c := by
    simp only [required_eq_ok_iff, pick?_eq_some_iff, fills, FilledFrom, never, and_false, or_false]
  have may {read : Value → Except Cause (Option String)} {a : Option String}
      (fills : ∀ v, read v = .ok a ↔ f.Fills v c) (empty : a = none ↔ f.IsEmptyIn c) :
      Validation.optional f.name f.otherName read entries = .ok a ↔ f.FilledFrom entries c := by
    simp only [optional_eq_ok_iff, pick?_eq_some_iff, pick?_eq_none_iff, fills, empty, FilledFrom]
  cases f with
  | id => exact must (fun v => UserId.ofValue_eq_ok_iff) nofun
  | firstName | lastName | email => exact may (fun v => Value.optionalTextOf_eq_ok_iff) Iff.rfl
  | resourceServerUrl => exact must (fun v => Value.textOf_eq_ok_iff) nofun
  | role =>
    have never : ¬ role.IsEmptyIn c := nofun
    simp only [IsReadAs, roleField_eq_ok_iff, FilledFrom, never, and_false, or_false, roleOf_eq_ok_iff,
      gives_role_iff, Fills]
    constructor
    · rintro ⟨v, here, kept⟩
      exact ⟨_, v, ⟨rfl, here⟩, kept⟩
    · rintro ⟨key, v, ⟨-, here⟩, kept⟩
      exact ⟨v, here, kept⟩

end Field

/-- A caller is accepted with what its fields are given, and with nothing else. -/
theorem ofEntries_eq_ok_iff_forall :
    ofEntries entries = .ok c ↔ ∀ f : Field, f.FilledFrom entries c := by
  simp only [← Field.isReadAs_iff]
  rw [ofEntries_eq_ok_iff]
  constructor
  · rintro ⟨id, others⟩ f
    cases f with
    | id => exact id
    | firstName => exact others.firstName_eq
    | lastName => exact others.lastName_eq
    | email => exact others.email_eq
    | resourceServerUrl => exact others.url_eq
    | role => exact others.role_eq
  · intro read
    exact ⟨read .id, read .firstName, read .lastName, read .email, read .resourceServerUrl,
      read .role⟩

/-! ### Keys -/

namespace Field

def isNamed (f : Field) (key : Value) : Bool :=
  key.isKey f.name || key.isKey f.otherName

theorem isNamed_of_isKey_name {k : Value} (isKey : k.isKey f.name) : f.isNamed k :=
  Bool.or_eq_true_iff.mpr (.inl isKey)

theorem isNamed_of_isKey_otherName {k : Value} (isKey : k.isKey f.otherName) : f.isNamed k :=
  Bool.or_eq_true_iff.mpr (.inr isKey)

/-- The values that the entries have for a field, under either name. -/
def valuesIn (f : Field) (entries : List (Value × Value)) : List Value :=
  (entries.filter fun e => f.isNamed e.1).map Prod.snd

/-- No key is the name of two fields. -/
theorem eq_of_isNamed {f g : Field} {key : Value} (named : f.isNamed key) (also : g.isNamed key) :
    f = g := by
  have isName {h : Field} (named : h.isNamed key) :
      key.asAnyText? = some (.whole h.name) ∨ key.asAnyText? = some (.whole h.otherName) := by
    simpa [isNamed, Value.isKey] using named
  have same : f.name = g.name ∨ f.name = g.otherName ∨ f.otherName = g.name ∨
      f.otherName = g.otherName := by
    rcases isName named with here | here <;> rcases isName also with there | there <;>
      simp [AnyText.whole.inj (Option.some.inj (here.symm.trans there))]
  revert same
  cases f <;> cases g <;> decide

/-- What is given for a field is among the values under its names. -/
theorem mem_valuesIn_of_gives (given : f.Gives entries key v) : v ∈ f.valuesIn entries := by
  have mem {name : String} (named : ∀ k : Value, k.isKey name → f.isNamed k)
      (here : Value.field? entries name = some v) : v ∈ f.valuesIn entries := by
    obtain ⟨e, found, rfl⟩ := Option.map_eq_some_iff.mp here
    have isKey := List.find?_some found
    exact List.mem_map.mpr
      ⟨e, List.mem_filter.mpr ⟨List.mem_of_find?_eq_some found, named e.1 isKey⟩, rfl⟩
  cases given with
  | first here => exact mem (fun _ => isNamed_of_isKey_name) here
  | other missing here => exact mem (fun _ => isNamed_of_isKey_otherName) here

/-- If there is a value under a name of the field, the field is given one. -/
theorem exists_gives_of_mem_valuesIn (mem : v ∈ f.valuesIn entries) :
    ∃ key v', f.Gives entries key v' := by
  obtain ⟨e, listed, -⟩ := List.mem_map.mp mem
  obtain ⟨listed, named⟩ := List.mem_filter.mp listed
  have here {name : String} (isKey : e.1.isKey name) :
      ∃ v', Value.field? entries name = some v' := by
    have found : (entries.find? fun e => e.1.isKey name).isSome :=
      List.find?_isSome.mpr ⟨e, listed, isKey⟩
    obtain ⟨e', found⟩ := Option.isSome_iff_exists.mp found
    exact ⟨e'.2, Option.map_eq_some_iff.mpr ⟨e', found, rfl⟩⟩
  cases first : Value.field? entries f.name with
  | some v' => exact ⟨_, v', .first first⟩
  | none =>
    rcases Bool.or_eq_true_iff.mp named with isFirst | isOther
    · obtain ⟨v', found⟩ := here isFirst
      cases first.symm.trans found
    · obtain ⟨v', found⟩ := here isOther
      exact ⟨_, v', .other first found⟩

/-- A field that is not given twice is given the one value under its names. -/
theorem exists_gives_iff (once : (f.valuesIn entries).length ≤ 1) :
    (∃ key, f.Gives entries key v) ↔ f.valuesIn entries = [v] := by
  constructor
  · rintro ⟨key, given⟩
    have mem := mem_valuesIn_of_gives given
    cases values : f.valuesIn entries with
    | nil =>
      rw [values] at mem
      cases mem
    | cons first others =>
      rw [values, List.length_cons, Nat.succ_le_succ_iff, Nat.le_zero,
        List.length_eq_zero_iff] at once
      rw [values, once, List.mem_singleton] at mem
      rw [once, mem]
  · intro values
    obtain ⟨key, v', given⟩ := exists_gives_of_mem_valuesIn (values ▸ List.mem_singleton_self v)
    have same := mem_valuesIn_of_gives given
    rw [values, List.mem_singleton] at same
    exact ⟨key, same ▸ given⟩

/-- What a caller has in a field depends on the value only, and not on the name. -/
theorem filledFrom_congr
    (same : ∀ v, (∃ key, f.Gives entries' key v) ↔ ∃ key, f.Gives entries key v) :
    f.FilledFrom entries' c ↔ f.FilledFrom entries c := by
  have given (l : List (Value × Value)) : (∃ key v, f.Gives l key v ∧ f.Fills v c) ↔
      ∃ v, (∃ key, f.Gives l key v) ∧ f.Fills v c := by
    rw [exists_comm]
    exact exists_congr fun v => exists_and_right
  have leftOut (l : List (Value × Value)) :
      f.IsLeftOut l ↔ ∀ v, ¬ ∃ key, f.Gives l key v := by
    rw [IsLeftOut, forall_comm]
    exact forall_congr' fun v => not_exists.symm
  simp only [FilledFrom, given, leftOut, same]

end Field

/-- Two keys are the same, or names of one field. -/
def SameField (k k' : Value) : Prop :=
  k = k' ∨ ∃ f : Field, f.isNamed k ∧ f.isNamed k'

/-- The entries under other names of their fields, in any order. -/
def IsRespelling (entries entries' : List (Value × Value)) : Prop :=
  ∃ respelled, List.Forall₂ (fun e e' => SameField e.1 e'.1 ∧ e.2 = e'.2) entries respelled ∧
    respelled.Perm entries'

/-- No field is given twice. -/
def NoneTwice (entries : List (Value × Value)) : Prop :=
  ∀ f : Field, (f.valuesIn entries).length ≤ 1

/-- Two names of one field are names of the same fields. -/
theorem isNamed_congr {k k' : Value} (same : SameField k k') : f.isNamed k = f.isNamed k' := by
  rcases same with rfl | ⟨g, named, named'⟩
  · rfl
  · rw [Bool.eq_iff_iff]
    constructor
    · intro isF
      rwa [Field.eq_of_isNamed isF named]
    · intro isF
      rwa [Field.eq_of_isNamed isF named']

/-- Spelling keys differently or in another order keeps what a field is given. -/
theorem valuesIn_perm (respelling : IsRespelling entries entries') :
    (f.valuesIn entries).Perm (f.valuesIn entries') := by
  obtain ⟨respelled, each, reordered⟩ := respelling
  have same : f.valuesIn entries = f.valuesIn respelled := by
    -- Entry by entry, a key is a name of the field after exactly if it was one before.
    clear reordered
    induction each with
    | nil => rfl
    | @cons e e' rest rest' first _ ih =>
      obtain ⟨keys, values⟩ := first
      unfold Field.valuesIn at ih ⊢
      rw [List.filter_cons, List.filter_cons, isNamed_congr keys]
      split
      · rw [List.map_cons, List.map_cons, ih, values]
      · exact ih
  rw [same]
  exact (reordered.filter _).map _

/-- Which of its names a field is given under makes no difference to the caller. -/
theorem ofEntries_respelled (once : NoneTwice entries)
    (respelling : IsRespelling entries entries') :
    ofEntries entries' = .ok c ↔ ofEntries entries = .ok c := by
  rw [ofEntries_eq_ok_iff_forall, ofEntries_eq_ok_iff_forall]
  refine forall_congr' fun f => Field.filledFrom_congr fun v => ?_
  have perm := valuesIn_perm (f := f) respelling
  rw [Field.exists_gives_iff (once f), Field.exists_gives_iff (perm.length_eq ▸ once f)]
  constructor
  · intro values
    rw [values] at perm
    exact List.perm_singleton.mp perm
  · intro values
    rw [values] at perm
    exact List.perm_singleton.mp perm.symm

/-- What comes of a mapping follows from what it gives for the fields. -/
theorem ofEntries_congr
    (same : ∀ (f : Field) key v, f.Gives entries' key v ↔ f.Gives entries key v) :
    ofEntries entries' = ofEntries entries := by
  -- What the fields are given decides both what a caller has in them and what is reported.
  have issues (f : Field) : f.issuesIn entries' = f.issuesIn entries :=
    Field.issuesIn_congr (same f)
  cases accepted : ofEntries entries with
  | ok c =>
    rw [ofEntries_eq_ok_iff_forall] at accepted ⊢
    intro f
    exact (Field.filledFrom_congr fun v => exists_congr fun key => same f key v).mpr (accepted f)
  | error report =>
    cases also : ofEntries entries' with
    | ok c =>
      have nothing (f : Field) : f.issuesIn entries = [] :=
        (issues f).symm.trans (exists_ofEntries_iff.mp ⟨c, also⟩ f)
      obtain ⟨c', accepted'⟩ := exists_ofEntries_iff.mpr nothing
      cases accepted.symm.trans accepted'
    | error report' =>
      rw [eq_of_ofEntries_eq_error accepted, eq_of_ofEntries_eq_error also, funext issues]

def isKnown (key : Value) : Bool :=
  Field.all.any fun f => f.isNamed key

/-- Keys that are no names of fields give nothing. -/
theorem gives_filter_iff :
    f.Gives (entries.filter fun e => isKnown e.1) key v ↔ f.Gives entries key v := by
  have same {name : String} (named : ∀ k : Value, k.isKey name → f.isNamed k) :
      Value.field? (entries.filter fun e => isKnown e.1) name = Value.field? entries name := by
    have known (e : Value × Value) : isKnown e.1 ∧ e.1.isKey name ↔ e.1.isKey name :=
      and_iff_right_of_imp fun isKey => List.any_eq_true.mpr ⟨f, f.mem_all, named e.1 isKey⟩
    simp only [Value.field?, List.find?_filter, known, Bool.decide_eq_true]
  rw [← Field.pick?_eq_some_iff, ← Field.pick?_eq_some_iff, pick?, pick?,
    same fun _ => Field.isNamed_of_isKey_name, same fun _ => Field.isNamed_of_isKey_otherName]

/-- What a mapping holds under other keys makes no difference. -/
theorem ofEntries_filter :
    ofEntries (entries.filter fun e => isKnown e.1) = ofEntries entries :=
  ofEntries_congr fun _ _ _ => gives_filter_iff

/-! ### Main statement -/

/-- **Fields of callers.** A mapping is accepted as a caller exactly when each field is given a
value that it accepts, or is left out and may be; then the caller has in each field what the field
is given. Other keys make no difference, and if no field is given twice it makes none which of its
names a field is given under. Otherwise the report has, in the order of the fields, what each of
them contributes on its own: the same as if nothing were wrong with the others. -/
theorem fields_accepted_respelled_and_reported (entries : List (Value × Value)) :
    ((∃ c, ofEntries entries = .ok c) ↔ ∀ f : Field, f.IsMet entries) ∧
    (∀ c, ofEntries entries = .ok c ↔ ∀ f : Field, f.FilledFrom entries c) ∧
    (∀ entries', (entries'.filter fun e => isKnown e.1) = (entries.filter fun e => isKnown e.1) →
      ofEntries entries' = ofEntries entries) ∧
    (NoneTwice entries → ∀ entries' c, IsRespelling entries entries' →
      (ofEntries entries' = .ok c ↔ ofEntries entries = .ok c)) ∧
    ∀ report, ofEntries entries = .error report →
      ∃ each : Field → List Issue, report = ⟨"User", Field.all.flatMap each⟩ ∧
        (∀ f issues, f.Reports entries issues ↔ each f = issues) ∧
        ∀ f entries', (∀ key v, f.Gives entries' key v ↔ f.Gives entries key v) →
          (∀ g, g ≠ f → g.IsMet entries') → each f ≠ [] →
            ofEntries entries' = .error ⟨"User", each f⟩ := by
  refine ⟨?_, fun c => ofEntries_eq_ok_iff_forall, ?_, ?_, ?_⟩
  · rw [exists_ofEntries_iff]
    exact forall_congr' fun f => Field.isMet_iff.symm
  · intro entries' same
    rw [← ofEntries_filter, same, ofEntries_filter]
  · exact fun once entries' c respelling => ofEntries_respelled once respelling
  · intro report failed
    refine ⟨Field.issuesIn entries, eq_of_ofEntries_eq_error failed,
      fun f issues => Field.reports_iff, ?_⟩
    intro f entries' same others offends
    have alike := Field.issuesIn_congr same
    cases also : ofEntries entries' with
    | ok c =>
      have nothing := exists_ofEntries_iff.mp ⟨c, also⟩ f
      exact absurd (alike.symm.trans nothing) offends
    | error report' =>
      rw [eq_of_ofEntries_eq_error also,
        Field.flatMap_all_eq fun g other => Field.isMet_iff.mp (others g other), alike]

/-- The entries of a consumer under the second names, the last one first. -/
def respelledEntries : List (Value × Value) :=
  [(.text "role", .role .consumer), (.text "resource_server_url", .text "rs://a"),
    (.text "user_id", .uuid consumerCaller.id.uuid)]

/-- Entries with a number for an identifier, no server, and no role. -/
def spoiltEntries : List (Value × Value) :=
  [(.text "user_id", .int 7), (.text "colour", .text "red"), (.text "role", .null)]

/-- The same identifier with a server and a role. -/
def mendedEntries : List (Value × Value) :=
  [(.text "user_id", .int 7), (.text "resourceServerUrl", .text "rs://a"),
    (.text "role", .role .consumer)]

/-- The entries of a consumer for a server whose address is half of a character. -/
def halvedEntries : List (Value × Value) :=
  [(.text "userId", .uuid consumerCaller.id.uuid),
    (.text "resourceServerUrl", .codes ⟨[0xD800], rfl⟩), (.text "role", .role .consumer)]

/-- A consumer is the same caller under the second names, and an address that is half of a character
is accepted. Three fields of the spoilt entries are reported, and the identifier alone if the others
are mended. -/
theorem respelled_accepted_and_spoilt_reported :
    ofEntries respelledEntries = .ok (sentBy consumerCaller.id (.role .consumer)) ∧
    (∃ c, ofEntries halvedEntries = .ok c) ∧
    ofEntries spoiltEntries = .error ⟨"User", [
      ⟨[.field "user_id"], .notIdentifier (.int 7)⟩,
      ⟨[.field "resourceServerUrl"], .missing⟩,
      ⟨[.field "role", .field "str-enum[Role]"], .notRole⟩,
      ⟨[.field "role", .field "str"], .notText⟩]⟩ ∧
    ofEntries mendedEntries =
      .error ⟨"User", [⟨[.field "user_id"], .notIdentifier (.int 7)⟩]⟩ := by
  have leftOut {l : List (Value × Value)} {f : Field}
      (none : pick? f.name f.otherName l = .none) : f.IsLeftOut l := Field.pick?_eq_none_iff.mp none
  refine ⟨?_, ?_, ?_⟩
  · obtain ⟨-, filled, -, respelled, -⟩ := fields_accepted_respelled_and_reported
      (sentEntries (.uuid consumerCaller.id.uuid) (.role .consumer))
    have once : NoneTwice (sentEntries (.uuid consumerCaller.id.uuid) (.role .consumer)) := by
      intro f
      cases f <;> decide
    have respelling : IsRespelling
        (sentEntries (.uuid consumerCaller.id.uuid) (.role .consumer)) respelledEntries := by
      refine ⟨respelledEntries.reverse, ?_, List.reverse_perm _⟩
      exact .cons ⟨.inr ⟨.id, by decide⟩, rfl⟩ (.cons ⟨.inr ⟨.resourceServerUrl, by decide⟩, rfl⟩
        (.cons ⟨.inl rfl, rfl⟩ .nil))
    refine (respelled once _ _ respelling).mpr ((filled _).mpr ?_)
    intro f
    cases f with
    | id => exact .inl ⟨_, _, .first rfl, .number consumerCaller.id.uuid⟩
    | resourceServerUrl => exact .inl ⟨_, _, .first rfl, .text "rs://a"⟩
    | role => exact .inl ⟨_, _, .first rfl, .role .consumer⟩
    | _ => exact .inr ⟨leftOut rfl, rfl⟩
  · refine (fields_accepted_respelled_and_reported halvedEntries).1.mpr ?_
    intro f
    cases f with
    | id => exact .inl ⟨_, _, .first rfl, .inl ⟨_, rfl⟩⟩
    | resourceServerUrl => exact .inl ⟨_, _, .first rfl, _, .halved _⟩
    | role => exact .inl ⟨_, _, .first rfl, _, .role .consumer⟩
    | _ => exact .inr ⟨leftOut rfl, rfl⟩
  · obtain ⟨met, -, -, -, reported⟩ := fields_accepted_respelled_and_reported spoiltEntries
    have noServer : Field.resourceServerUrl.IsLeftOut spoiltEntries := leftOut rfl
    have noIdentifier : ¬ Field.Accepts .id (.int 7) := by
      rintro (⟨u, same⟩ | ⟨s, same, -⟩) <;> cases same
    have noRole : ¬ Field.Accepts .role .null := by
      rintro ⟨s, text⟩
      cases text
    cases failed : ofEntries spoiltEntries with
    | ok c =>
      rcases met.mp ⟨c, failed⟩ .resourceServerUrl with ⟨key, v, given, -⟩ | ⟨-, optional⟩
      · exact absurd given (noServer key v)
      · cases optional
    | error report =>
      obtain ⟨each, rfl, what, alone⟩ := reported report failed
      have id := (what .id _).mp (.refused (.other rfl rfl) noIdentifier)
      have firstName := (what .firstName _).mp (.omitted (leftOut rfl) rfl)
      have lastName := (what .lastName _).mp (.omitted (leftOut rfl) rfl)
      have email := (what .email _).mp (.omitted (leftOut rfl) rfl)
      have url := (what .resourceServerUrl _).mp (.missing noServer rfl)
      have role := (what .role _).mp (.refused (.first rfl) noRole)
      constructor
      · simp only [Field.all, List.flatMap_cons, id, firstName, lastName, email, url, role]
        rfl
      · have same (key : String) (v : Value) :
            Field.Gives mendedEntries .id key v ↔ Field.Gives spoiltEntries .id key v := by
          rw [← Field.pick?_eq_some_iff, ← Field.pick?_eq_some_iff]
          rfl
        rw [alone .id mendedEntries same ?_ ?_, id]
        · rfl
        · intro g other
          cases g with
          | id => exact absurd rfl other
          | resourceServerUrl => exact .inl ⟨_, _, .first rfl, "rs://a", .text _⟩
          | role => exact .inl ⟨_, _, .first rfl, _, .role .consumer⟩
          | _ => exact .inr ⟨leftOut rfl, rfl⟩
        · rw [id]
          exact List.cons_ne_nil _ _

end Caller

end AccessNotices
