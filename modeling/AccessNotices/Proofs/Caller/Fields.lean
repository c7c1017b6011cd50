import AccessNotices.Caller
/-!
The fields of a caller.

Each field is read on its own from the entries, and a caller is accepted exactly when all of them
are read (`Caller.ofEntries_eq_ok_iff`). The identifier and the role are required, so a caller that
is accepted was given both (`Validation.required_eq_ok_iff`, `Caller.roleField_eq_ok_iff`).
-/

namespace AccessNotices

open Validation

namespace Validation

variable {α : Type} {name other key : String} {read : Value → Except Cause α}
  {entries : List (Value × Value)} {v : Value} {a : α}

/-- A required field that is given is read as its value is. -/
theorem required_of_given (given : pick? name other entries = some (key, v)) :
    required name other read entries = .ok a ↔ read v = .ok a := by
  unfold required
  rw [given]
  cases result : read v with
  | ok b => simp [result]
  | error cause => simp [result]

theorem required_eq_ok_iff :
    required name other read entries = .ok a ↔
      ∃ key v, pick? name other entries = some (key, v) ∧ read v = .ok a := by
  cases given : pick? name other entries with
  | none => simp [required, given]
  | some field =>
    obtain ⟨key, v⟩ := field
    rw [required_of_given given]
    constructor
    · exact fun ok => ⟨key, v, rfl, ok⟩
    · rintro ⟨key', v', same, ok⟩
      cases same
      exact ok

/-- A field that may be missing is read as its value is, or as nothing. -/
theorem optional_eq_ok_iff {read : Value → Except Cause (Option α)} {a : Option α} :
    optional name other read entries = .ok a ↔
      (∃ key v, pick? name other entries = some (key, v) ∧ read v = .ok a) ∨
        pick? name other entries = none ∧ a = none := by
  cases given : pick? name other entries with
  | none => simp [optional, given, eq_comm]
  | some field =>
    obtain ⟨key, v⟩ := field
    have alone : (∃ key' v', some (key, v) = some (key', v') ∧ read v' = .ok a) ↔
        read v = .ok a := by
      constructor
      · rintro ⟨key', v', same, ok⟩
        cases same
        exact ok
      · exact fun ok => ⟨key, v, rfl, ok⟩
    rw [alone, or_iff_left (by simp)]
    cases result : read v <;> simp [optional, given, result]

end Validation

namespace Caller

/-- The fields of some entries other than the identifier can be read, as those of a given caller. -/
structure ReadsOthers (entries : List (Value × Value)) (c : Caller) : Prop where
  firstName_eq : optional "firstName" "first_name" optionalTextOf entries = .ok c.firstName
  lastName_eq : optional "lastName" "last_name" optionalTextOf entries = .ok c.lastName
  email_eq : optional "emailId" "email_id" optionalTextOf entries = .ok c.email
  url_eq : required "resourceServerUrl" "resource_server_url" textOf entries =
    .ok c.resourceServerUrl
  role_eq : roleField entries = .ok c.role

/-- A caller is accepted exactly when each of its fields is read. -/
theorem ofEntries_eq_ok_iff {entries : List (Value × Value)} {c : Caller} :
    ofEntries entries = .ok c ↔
      required "userId" "user_id" UserId.ofValue entries = .ok c.id ∧ ReadsOthers entries c := by
  constructor
  · intro accepted
    simp only [ofEntries] at accepted
    split at accepted
    · rename_i id firstName lastName email url role
      cases accepted
      exact ⟨id, firstName, lastName, email, url, role⟩
    · cases accepted
  · rintro ⟨id, firstName, lastName, email, url, role⟩
    simp only [ofEntries, id, firstName, lastName, email, url, role]

theorem roleField_eq_ok_iff {entries : List (Value × Value)} {role : Value} :
    roleField entries = .ok role ↔
      ∃ v, Value.field? entries "role" = some v ∧ roleOf v = .ok role := by
  unfold roleField
  cases Value.field? entries "role" with
  | none => simp
  | some v =>
    cases read : roleOf v with
    | ok role' => simp [read]
    | error cause => simp [read]

/-! ### Entries for instances -/

/-- The entries of a caller with an identifier and a role, and nothing else that can be left out. -/
def sentEntries (id role : Value) : List (Value × Value) :=
  [(.text "userId", id), (.text "resourceServerUrl", .text "rs://a"), (.text "role", role)]

/-- The caller of such entries. -/
def sentBy (id : UserId) (role : Value) : Caller :=
  ⟨id, none, none, none, "rs://a", role⟩

theorem pick?_userId_sentEntries (id role : Value) :
    pick? "userId" "user_id" (sentEntries id role) = some ("userId", id) := rfl

theorem readsOthers_sentEntries (sent : Value) (id : UserId) {role read : Value}
    (roleRead : roleOf role = .ok read) : ReadsOthers (sentEntries sent role) (sentBy id read) where
  firstName_eq := rfl
  lastName_eq := rfl
  email_eq := rfl
  url_eq := rfl
  role_eq := roleField_eq_ok_iff.mpr ⟨role, rfl, roleRead⟩

end Caller

end AccessNotices
