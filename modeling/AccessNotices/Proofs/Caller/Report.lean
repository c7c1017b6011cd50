import AccessNotices.Proofs.Caller.Fields
import AccessNotices.Proofs.Caller.Schema
/-!
What is reported about a mapping that is no caller.

What is reported about a field follows from what the field is given (`Field.reports_iff`), and a
report has the issues of all fields one after another (`eq_of_ofEntries_eq_error`). So nothing that
is wrong with a field hides or alters what is reported about another.
-/

namespace AccessNotices

open Validation Text

/-! ### Reports on single fields -/

namespace Validation

variable {α : Type} {name other key : String} {read : Value → Except Cause α}
  {readOptional : Value → Except Cause (Option α)} {entries : List (Value × Value)} {v : Value}

/-- The issues of a value that is read under a name. -/
def issuesUnder (refusal : Cause → List Issue) : Except Cause α → List Issue
  | .ok _ => []
  | .error cause => refusal cause

theorem issuesOf_required_of_given (given : pick? name other entries = some (key, v)) :
    issuesOf (required name other read entries) =
      issuesUnder (fun cause => [⟨[.field key], cause⟩]) (read v) := by
  cases result : read v <;> simp only [required, given, result, issuesOf, issuesUnder]

theorem issuesOf_optional_of_given (given : pick? name other entries = some (key, v)) :
    issuesOf (optional name other readOptional entries) =
      issuesUnder (fun cause => [⟨[.field key], cause⟩]) (readOptional v) := by
  cases result : readOptional v <;> simp only [optional, given, result, issuesOf, issuesUnder]

theorem issuesUnder_map {β : Type} (refusal : Cause → List Issue) (x : Except Cause α)
    (g : α → β) : issuesUnder refusal (x.map g) = issuesUnder refusal x := by
  cases x <;> rfl

/-- What fails has something to report. -/
theorem exists_ok_of_issuesOf {x : Except (List Issue) α} (reported : x ≠ .error [])
    (none : issuesOf x = []) : ∃ a, x = .ok a := by
  cases x with
  | ok a => exact ⟨a, rfl⟩
  | error issues =>
    cases none
    exact absurd rfl reported

/-- A field that must be there is never refused without an issue. -/
theorem required_ne_error_nil {read : Value → Except Cause α} :
    required name other read entries ≠ .error [] := by
  unfold required
  split
  · nofun
  · split <;> nofun

/-- Nor is a field that may be missing. -/
theorem optional_ne_error_nil {read : Value → Except Cause (Option α)} :
    optional name other read entries ≠ .error [] := by
  unfold optional
  split
  · nofun
  · split <;> nofun

end Validation

namespace Caller

variable {entries : List (Value × Value)} {f : Field} {key : String} {v : Value} {c : Caller}

namespace Field

/-- What the reader of a field reports. -/
def issuesIn (entries : List (Value × Value)) : Field → List Issue
  | id => issuesOf (required "userId" "user_id" UserId.ofValue entries)
  | firstName => issuesOf (optional "firstName" "first_name" optionalTextOf entries)
  | lastName => issuesOf (optional "lastName" "last_name" optionalTextOf entries)
  | email => issuesOf (optional "emailId" "email_id" optionalTextOf entries)
  | resourceServerUrl =>
    issuesOf (required "resourceServerUrl" "resource_server_url" textOf entries)
  | role => issuesOf (roleField entries)

/-- The two names of a role are the same. -/
theorem gives_role_iff :
    Gives entries role key v ↔ key = "role" ∧ Value.field? entries "role" = some v := by
  constructor
  · intro given
    cases given with
    | first here => exact ⟨rfl, here⟩
    | other missing here =>
      have same : Value.field? entries "role" = none := missing
      exact absurd (same.symm.trans here) (by simp)
  · rintro ⟨rfl, here⟩
    exact .first here

/-- A field that is given is reported on by what is given for it. -/
theorem issuesIn_of_gives (given : f.Gives entries key v) :
    f.issuesIn entries = issuesUnder (f.refusal key) (f.check v) := by
  have picked := pick?_eq_some_iff.mpr given
  cases f with
  | id => exact (issuesOf_required_of_given picked).trans (issuesUnder_map _ _ _).symm
  | firstName => exact (issuesOf_optional_of_given picked).trans (issuesUnder_map _ _ _).symm
  | lastName => exact (issuesOf_optional_of_given picked).trans (issuesUnder_map _ _ _).symm
  | email => exact (issuesOf_optional_of_given picked).trans (issuesUnder_map _ _ _).symm
  | resourceServerUrl =>
    exact (issuesOf_required_of_given picked).trans (issuesUnder_map _ _ _).symm
  | role =>
    obtain ⟨-, here⟩ := gives_role_iff.mp given
    rw [check, issuesUnder_map]
    cases result : roleOf v <;> simp only [issuesIn, roleField, here, result, issuesOf, issuesUnder,
      refusal]

/-- A field that is left out is missing if it must be there. -/
theorem issuesIn_of_isLeftOut (none : f.IsLeftOut entries) :
    f.issuesIn entries = if f.isRequired then [⟨[.field f.name], .missing⟩] else [] := by
  have picked := pick?_eq_none_iff.mpr none
  have missing {α : Type} {name other : String} (read : Value → Except Cause α)
      (none : pick? name other entries = .none) :
      issuesOf (required name other read entries) = [⟨[.field name], .missing⟩] := by
    simp only [required, none, issuesOf]
  have omitted {α : Type} {name other : String} (read : Value → Except Cause (Option α))
      (none : pick? name other entries = .none) :
      issuesOf (optional name other read entries) = [] := by
    simp only [Validation.optional, none, issuesOf]
  cases f with
  | id => exact missing _ picked
  | firstName | lastName | email => exact omitted _ picked
  | resourceServerUrl => exact missing _ picked
  | role =>
    have missing : Value.field? entries "role" = .none := by
      rw [Option.eq_none_iff_forall_ne_some]
      exact fun v here => none "role" v (.first here)
    rw [issuesIn, roleField, missing]
    rfl

/-- What is reported about a field follows from what it is given. -/
theorem reports_iff {issues : List Issue} :
    f.Reports entries issues ↔ f.issuesIn entries = issues := by
  have accepted {key : String} {v : Value} (given : f.Gives entries key v)
      (accepts : f.Accepts v) : f.issuesIn entries = [] := by
    rw [issuesIn_of_gives given, check_eq_ok_iff.mpr accepts]
    rfl
  have refused {key : String} {v : Value} (given : f.Gives entries key v)
      (refuses : ¬ f.Accepts v) : f.issuesIn entries = f.refusal key (f.cause v) := by
    rw [issuesIn_of_gives given]
    cases checked : f.check v with
    | ok _ => exact absurd (check_eq_ok_iff.mp checked) refuses
    | error reason =>
      rw [eq_cause checked]
      rfl
  constructor
  · intro reports
    cases reports with
    | accepted given accepts => exact accepted given accepts
    | omitted none optional => rw [issuesIn_of_isLeftOut none, optional]; rfl
    | missing none required => rw [issuesIn_of_isLeftOut none, required]; rfl
    | refused given refuses => exact refused given refuses
  · rintro rfl
    by_cases none : f.IsLeftOut entries
    · rw [issuesIn_of_isLeftOut none]
      cases required : f.isRequired with
      | true => exact .missing none required
      | false => exact .omitted none required
    · simp only [IsLeftOut, not_forall, not_not] at none
      obtain ⟨key, v, given⟩ := none
      by_cases accepts : f.Accepts v
      · rw [accepted given accepts]
        exact .accepted given accepts
      · rw [refused given accepts]
        exact .refused given accepts

theorem refusal_ne_nil (reason : Cause) : f.refusal key reason ≠ [] := by
  cases f <;> exact List.cons_ne_nil _ _

/-- Nothing is reported about the fields that are as they should be, and about no others. -/
theorem isMet_iff : f.IsMet entries ↔ f.issuesIn entries = [] := by
  constructor
  · rintro (⟨key, v, given, accepts⟩ | ⟨none, optional⟩)
    · exact reports_iff.mp (.accepted given accepts)
    · exact reports_iff.mp (.omitted none optional)
  · intro nothing
    generalize issues : ([] : List Issue) = reported at nothing
    cases reports_iff.mpr nothing with
    | accepted given accepts => exact .inl ⟨_, _, given, accepts⟩
    | omitted none optional => exact .inr ⟨none, optional⟩
    | missing => cases issues
    | refused => exact absurd issues.symm (refusal_ne_nil _)

/-- Fields that are given the same are reported alike. -/
theorem reports_congr {entries' : List (Value × Value)} {issues : List Issue}
    (same : ∀ key v, f.Gives entries' key v ↔ f.Gives entries key v)
    (reports : f.Reports entries issues) : f.Reports entries' issues := by
  have sameNone : f.IsLeftOut entries' ↔ f.IsLeftOut entries :=
    forall₂_congr fun key v => not_congr (same key v)
  cases reports with
  | accepted given accepts => exact .accepted ((same _ _).mpr given) accepts
  | omitted none optional => exact .omitted (sameNone.mpr none) optional
  | missing none required => exact .missing (sameNone.mpr none) required
  | refused given refuses => exact .refused ((same _ _).mpr given) refuses

/-- What a field reports depends on nothing but what is given for it. -/
theorem issuesIn_congr {entries' : List (Value × Value)}
    (same : ∀ key v, f.Gives entries' key v ↔ f.Gives entries key v) :
    f.issuesIn entries' = f.issuesIn entries :=
  reports_iff.mp (reports_congr same (reports_iff.mpr rfl))

/-- If all other fields have nothing to report, the report is that of one field. -/
theorem flatMap_all_eq {each : Field → List Issue} (others : ∀ g, g ≠ f → each g = []) :
    all.flatMap each = each f := by
  cases f <;> simp [all, others]

end Field

/-! ### Reports on callers -/

/-- **The report**: the issues of all fields, in the order of the fields. -/
theorem eq_of_ofEntries_eq_error {report : Report} (failed : ofEntries entries = .error report) :
    report = ⟨"User", Field.all.flatMap (Field.issuesIn entries)⟩ := by
  unfold ofEntries at failed
  dsimp only at failed
  split at failed
  case h_1 => cases failed
  case h_2 =>
    cases failed
    simp [Field.all, Field.issuesIn]

theorem roleField_ne_error_nil : roleField entries ≠ .error [] := by
  unfold roleField
  split
  · nofun
  · split <;> nofun

/-- A caller is accepted exactly when nothing is reported about any of its fields. -/
theorem exists_ofEntries_iff :
    (∃ c, ofEntries entries = .ok c) ↔ ∀ f : Field, f.issuesIn entries = [] := by
  constructor
  · rintro ⟨c, accepted⟩ f
    obtain ⟨id, others⟩ := ofEntries_eq_ok_iff.mp accepted
    cases f with
    | id => rw [Field.issuesIn, id, issuesOf]
    | firstName => rw [Field.issuesIn, others.firstName_eq, issuesOf]
    | lastName => rw [Field.issuesIn, others.lastName_eq, issuesOf]
    | email => rw [Field.issuesIn, others.email_eq, issuesOf]
    | resourceServerUrl => rw [Field.issuesIn, others.url_eq, issuesOf]
    | role => rw [Field.issuesIn, others.role_eq, issuesOf]
  · intro nothing
    obtain ⟨id, idRead⟩ :=
      exists_ok_of_issuesOf required_ne_error_nil (nothing .id)
    obtain ⟨firstName, firstNameRead⟩ :=
      exists_ok_of_issuesOf optional_ne_error_nil (nothing .firstName)
    obtain ⟨lastName, lastNameRead⟩ :=
      exists_ok_of_issuesOf optional_ne_error_nil (nothing .lastName)
    obtain ⟨email, emailRead⟩ :=
      exists_ok_of_issuesOf optional_ne_error_nil (nothing .email)
    obtain ⟨url, urlRead⟩ :=
      exists_ok_of_issuesOf required_ne_error_nil (nothing .resourceServerUrl)
    obtain ⟨role, roleRead⟩ :=
      exists_ok_of_issuesOf roleField_ne_error_nil (nothing .role)
    exact ⟨⟨id, firstName, lastName, email, url, role⟩, ofEntries_eq_ok_iff.mpr
      ⟨idRead, firstNameRead, lastNameRead, emailRead, urlRead, roleRead⟩⟩

end Caller

end AccessNotices
