import AccessNotices.Proofs.Role.Spelling
import AccessNotices.Proofs.Traversal
/-!
The schema of a caller: its fields, their names, and what they may hold.

Each field has two names, of which the first counts if both are there (`Field.Gives`), a class of
values that it accepts (`Field.Accepts`), and a cause for refusing any other (`Field.cause`). What a
field contributes to a report follows from the value that it is given and from nothing else
(`Field.Reports`), and so does what it puts into a caller (`Field.Fills`). The readers accept what
the schema says (`Field.check_eq_ok_iff`) and refuse the rest for the reason it gives
(`Field.eq_cause`).
-/

namespace AccessNotices

open Validation Text

/-! ### Texts -/

namespace Value

/-- What values are taken for as texts: a text is itself, one with halves of characters has
replacements for them, a role is its own text, and a byte string the text that it encodes. -/
inductive IsText : Value → String → Prop where
  | text (s : String) : IsText (.text s) s
  | halved (t : HalvedText) : IsText (.codes t) t.shown
  | role (r : Role) : IsText (.role r) r.text
  | bytes {b : List UInt8} {s : List Char} (decoded : Utf8.decode? b = some s) :
      IsText (.bytes b) (String.ofList s)

/-- A byte string is a text exactly when it decodes to it. -/
theorem decodeBytes_eq_ok_iff {b : List UInt8} {s : String} :
    decodeBytes b = .ok s ↔ (Value.bytes b).IsText s := by
  constructor
  · intro ok
    unfold decodeBytes at ok
    split at ok
    case h_1 decoded =>
      cases ok
      exact .bytes decoded
    case h_2 => cases ok
  · intro encodes
    cases encodes with
    | bytes decoded =>
      unfold decodeBytes
      rw [decoded]

/-- A field for a text takes exactly the texts. -/
theorem textOf_eq_ok_iff {v : Value} {s : String} : textOf v = .ok s ↔ v.IsText s := by
  cases v with
  | text t =>
    constructor
    · rintro ⟨⟩
      exact .text s
    · rintro ⟨⟩
      rfl
  | codes t =>
    constructor
    · rintro ⟨⟩
      exact .halved t
    · rintro ⟨⟩
      rfl
  | role r =>
    constructor
    · rintro ⟨⟩
      exact .role r
    · rintro ⟨⟩
      rfl
  | bytes b =>
    rw [← decodeBytes_eq_ok_iff, textOf]
    cases decodeBytes b <;> simp
  | _ => exact iff_of_false nofun nofun

/-- A field for a text that may be missing takes a null as well. -/
theorem optionalTextOf_eq_ok_iff {v : Value} {s : Option String} :
    optionalTextOf v = .ok s ↔ v = .null ∧ s = none ∨ ∃ t, v.IsText t ∧ s = some t := by
  unfold optionalTextOf
  split
  case h_1 =>
    constructor
    · rintro ⟨⟩
      exact .inl ⟨rfl, rfl⟩
    · rintro (⟨-, rfl⟩ | ⟨t, text, -⟩)
      · rfl
      · cases text
  case h_2 notNull =>
    simp only [map_eq_ok_iff, textOf_eq_ok_iff]
    constructor
    · rintro ⟨t, text, rfl⟩
      exact .inr ⟨t, text, rfl⟩
    · rintro (⟨null, -⟩ | ⟨t, text, rfl⟩)
      · exact absurd null notNull
      · exact ⟨t, text, rfl⟩

/-- Why a value is no text: a byte string because it is not UTF-8, any other by its kind. -/
def textCause : Value → Cause
  | bytes _ => .notUnicode
  | _ => .notText

/-- What is no text is refused for one cause. -/
theorem eq_textCause {v : Value} {cause : Cause} (failed : textOf v = .error cause) :
    cause = v.textCause := by
  cases v with
  | text s => cases failed
  | codes t => cases failed
  | role r => cases failed
  | bytes b =>
    rw [textOf] at failed
    split at failed
    · cases failed
    · cases failed
      rfl
  | _ =>
    cases failed
    rfl

end Value

/-! ### Fields -/

namespace Caller

/-- The fields of a caller. -/
inductive Field where
  | id
  | firstName
  | lastName
  | email
  | resourceServerUrl
  | role
  deriving DecidableEq, Repr

namespace Field

/-- The fields in the order in which they are reported. -/
def all : List Field := [id, firstName, lastName, email, resourceServerUrl, role]

theorem mem_all (f : Field) : f ∈ all := by
  cases f <;> decide

/-- The name that counts if both are there. -/
def name : Field → String
  | id => "userId"
  | firstName => "firstName"
  | lastName => "lastName"
  | email => "emailId"
  | resourceServerUrl => "resourceServerUrl"
  | role => "role"

def otherName : Field → String
  | id => "user_id"
  | firstName => "first_name"
  | lastName => "last_name"
  | email => "email_id"
  | resourceServerUrl => "resource_server_url"
  | role => "role"

def isRequired : Field → Bool
  | id | resourceServerUrl | role => true
  | firstName | lastName | email => false

/-- The values that a field accepts: an identifier is a number or a hyphenated text, the other
required fields are texts, and those that may be left out may also be null. -/
def Accepts : Field → Value → Prop
  | id, v => (∃ u, v = .uuid u) ∨ ∃ s, v = .text s ∧ Uuid.IsHyphenated s.toList
  | resourceServerUrl, v | role, v => ∃ s, v.IsText s
  | firstName, v | lastName, v | email, v => v = .null ∨ ∃ s, v.IsText s

/-- Why a field refuses a value that it does not accept. -/
def cause : Field → Value → Cause
  | id, v => .notIdentifier v
  | _, v => v.textCause

/-- The issues of a value that is refused under a name. A role is an issue on both counts, that of a
role and that of a text. -/
def refusal : Field → String → Cause → List Issue
  | role, _, cause =>
    [⟨[.field "role", .field "str-enum[Role]"], .notRole⟩,
     ⟨[.field "role", .field "str"], cause⟩]
  | _, key, cause => [⟨[.field key], cause⟩]

/-- The entries give the field a value under a name: under the first one if that is there, else
under the other. -/
inductive Gives (entries : List (Value × Value)) (f : Field) : String → Value → Prop where
  | first {v : Value} (here : Value.field? entries f.name = some v) : Gives entries f f.name v
  | other {v : Value} (missing : Value.field? entries f.name = none)
      (here : Value.field? entries f.otherName = some v) : Gives entries f f.otherName v

/-- The entries leave the field out. -/
def IsLeftOut (entries : List (Value × Value)) (f : Field) : Prop :=
  ∀ key v, ¬ f.Gives entries key v

/-- What a field contributes to a report on some entries. -/
inductive Reports (entries : List (Value × Value)) (f : Field) : List Issue → Prop where
  | accepted {key : String} {v : Value} (given : f.Gives entries key v) (accepts : f.Accepts v) :
      Reports entries f []
  | omitted (none : f.IsLeftOut entries) (optional : f.isRequired = false) : Reports entries f []
  | missing (none : f.IsLeftOut entries) (required : f.isRequired = true) :
      Reports entries f [⟨[.field f.name], .missing⟩]
  | refused {key : String} {v : Value} (given : f.Gives entries key v) (refuses : ¬ f.Accepts v) :
      Reports entries f (f.refusal key (f.cause v))

/-- The field is as it should be: it is given a value that it accepts, or it is left out and may
be. -/
def IsMet (entries : List (Value × Value)) (f : Field) : Prop :=
  (∃ key v, f.Gives entries key v ∧ f.Accepts v) ∨ f.IsLeftOut entries ∧ f.isRequired = false

end Field

/-! ### Values of fields -/

/-- What is kept for a role: the role, or the role that a text names, or the text if it names none.
A byte string names a role only by the role's own text, and a text with halves of characters
never. -/
inductive KeepsAs : Value → Value → Prop where
  | role (r : Role) : KeepsAs (.role r) (.role r)
  | halved (t : HalvedText) : KeepsAs (.codes t) (.codes t)
  | named {s : String} {r : Role} (spells : Spells s r.text) : KeepsAs (.text s) (.role r)
  | unnamed {s : String} (none : ∀ r : Role, ¬ Spells s r.text) : KeepsAs (.text s) (.text s)
  | encoded {b : List UInt8} {r : Role} (decoded : (Value.bytes b).IsText r.text) :
      KeepsAs (.bytes b) (.role r)
  | foreign {b : List UInt8} {s : String} (decoded : (Value.bytes b).IsText s)
      (none : ∀ r : Role, r.text ≠ s) : KeepsAs (.bytes b) (.text s)

namespace Field

/-- What a value becomes in a caller when it is read for a field. -/
def Fills : Field → Value → Caller → Prop
  | id, v, c => UserId.Sent v c.id.text
  | firstName, v, c => v = .null ∧ c.firstName = none ∨ ∃ s, v.IsText s ∧ c.firstName = some s
  | lastName, v, c => v = .null ∧ c.lastName = none ∨ ∃ s, v.IsText s ∧ c.lastName = some s
  | email, v, c => v = .null ∧ c.email = none ∨ ∃ s, v.IsText s ∧ c.email = some s
  | resourceServerUrl, v, c => v.IsText c.resourceServerUrl
  | role, v, c => KeepsAs v c.role

/-- What a caller has in a field that is left out, if it may be. -/
def IsEmptyIn : Field → Caller → Prop
  | firstName, c => c.firstName = none
  | lastName, c => c.lastName = none
  | email, c => c.email = none
  | id, _ | resourceServerUrl, _ | role, _ => False

/-- The caller has in the field what the entries give for it. -/
def FilledFrom (entries : List (Value × Value)) (c : Caller) (f : Field) : Prop :=
  (∃ key v, f.Gives entries key v ∧ f.Fills v c) ∨ f.IsLeftOut entries ∧ f.IsEmptyIn c

end Field

/-! ### Readers -/

variable {entries : List (Value × Value)} {f : Field} {key : String} {v : Value} {c : Caller}

namespace Field

/-- What is picked for a field is what the entries give for it. -/
theorem pick?_eq_some_iff :
    pick? f.name f.otherName entries = some (key, v) ↔ f.Gives entries key v := by
  unfold pick?
  constructor
  · intro picked
    split at picked
    case h_1 here =>
      cases picked
      exact .first here
    case h_2 missing =>
      obtain ⟨v', here, same⟩ := Option.map_eq_some_iff.mp picked
      cases same
      exact .other missing here
  · intro given
    cases given with
    | first here => rw [here]
    | other missing here => rw [missing, here]; rfl

/-- Nothing is picked exactly when the field is left out. -/
theorem pick?_eq_none_iff : pick? f.name f.otherName entries = none ↔ f.IsLeftOut entries := by
  rw [Option.eq_none_iff_forall_ne_some, Prod.forall]
  exact forall₂_congr fun key v => not_congr pick?_eq_some_iff

end Field

theorem roleOrText_eq_iff {found : Option Role} {s : String} {role : Value} :
    roleOrText found s = role ↔
      (∃ r, found = some r ∧ role = .role r) ∨ found = none ∧ role = .text s := by
  cases found <;> simp [roleOrText, eq_comm]

/-- What is kept for a role is what the schema says. -/
theorem roleOf_eq_ok_iff {role : Value} : roleOf v = .ok role ↔ KeepsAs v role := by
  cases v with
  | role r =>
    constructor
    · rintro ⟨⟩
      exact .role r
    · rintro ⟨⟩
      rfl
  | text s =>
    rw [roleOf, Except.ok.injEq, roleOrText_eq_iff, Role.named?_eq_none_iff]
    simp only [Role.named?_eq_some_iff]
    constructor
    · rintro (⟨r, spells, rfl⟩ | ⟨none, rfl⟩)
      · exact .named spells
      · exact .unnamed none
    · intro kept
      cases kept with
      | named spells => exact .inl ⟨_, spells, rfl⟩
      | unnamed none => exact .inr ⟨none, rfl⟩
  | codes t =>
    constructor
    · rintro ⟨⟩
      exact .halved t
    · rintro ⟨⟩
      rfl
  | bytes b =>
    -- The text of a byte string is compared with the texts of the roles as it is.
    have kept (s : String) : roleOrText (Role.ofText? s) s = role ↔
        (∃ r : Role, r.text = s ∧ role = .role r) ∨ (∀ r : Role, r.text ≠ s) ∧ role = .text s := by
      rw [roleOrText_eq_iff, Option.eq_none_iff_forall_ne_some]
      simp only [ne_eq, Role.ofText?_eq_some_iff]
    simp only [roleOf, map_eq_ok_iff, Value.textOf_eq_ok_iff, kept]
    constructor
    · rintro ⟨s, decoded, ⟨r, rfl, rfl⟩ | ⟨none, rfl⟩⟩
      · exact .encoded decoded
      · exact .foreign decoded none
    · intro kept
      cases kept with
      | encoded decoded => exact ⟨_, decoded, .inl ⟨_, rfl, rfl⟩⟩
      | foreign decoded none => exact ⟨_, decoded, .inr ⟨none, rfl⟩⟩
  | _ => exact iff_of_false nofun nofun

/-- A role is kept for every text and for nothing else. -/
theorem exists_keepsAs_iff (v : Value) : (∃ role, KeepsAs v role) ↔ ∃ s, v.IsText s := by
  constructor
  · rintro ⟨role, kept⟩
    cases kept with
    | role r => exact ⟨_, .role r⟩
    | halved t => exact ⟨_, .halved t⟩
    | named | unnamed => exact ⟨_, .text _⟩
    | encoded decoded | foreign decoded => exact ⟨_, decoded⟩
  · rintro ⟨s, text⟩
    obtain ⟨role, read⟩ : ∃ role, roleOf v = .ok role := by
      cases text with
      | text s => exact ⟨_, rfl⟩
      | halved t => exact ⟨_, rfl⟩
      | role r => exact ⟨_, rfl⟩
      | bytes decoded =>
        have read := Value.textOf_eq_ok_iff.mpr (.bytes decoded)
        exact ⟨_, map_eq_ok_iff.mpr ⟨_, read, rfl⟩⟩
    exact ⟨role, roleOf_eq_ok_iff.mp read⟩

namespace Field

/-- How a value is read for a field, without what comes of it. -/
def check : Field → Value → Except Cause Unit
  | id, v => (UserId.ofValue v).map fun _ => ()
  | firstName, v | lastName, v | email, v => (optionalTextOf v).map fun _ => ()
  | resourceServerUrl, v => (textOf v).map fun _ => ()
  | role, v => (roleOf v).map fun _ => ()

/-- A check passes exactly what the field accepts. -/
theorem check_eq_ok_iff : f.check v = .ok () ↔ f.Accepts v := by
  have isOk {α : Type} (x : Except Cause α) :
      (x.map fun _ => ()) = .ok () ↔ ∃ a, x = .ok a := by
    simp [map_eq_ok_iff]
  have optional : (∃ s, optionalTextOf v = .ok s) ↔ v = .null ∨ ∃ s, v.IsText s := by
    simp only [Value.optionalTextOf_eq_ok_iff]
    constructor
    · rintro ⟨s, ⟨null, -⟩ | ⟨t, text, -⟩⟩
      · exact .inl null
      · exact .inr ⟨t, text⟩
    · rintro (null | ⟨t, text⟩)
      · exact ⟨none, .inl ⟨null, rfl⟩⟩
      · exact ⟨some t, .inr ⟨t, text, rfl⟩⟩
  cases f with
  | id => exact (isOk _).trans (UserId.exists_ofValue_iff v)
  | firstName | lastName | email => exact (isOk _).trans optional
  | resourceServerUrl => exact (isOk _).trans (exists_congr fun s => Value.textOf_eq_ok_iff)
  | role =>
    exact (isOk _).trans ((exists_congr fun role => roleOf_eq_ok_iff).trans (exists_keepsAs_iff v))

/-- A check fails for the one cause that its field has for the value. -/
theorem eq_cause {reason : Cause} (failed : f.check v = .error reason) : reason = f.cause v := by
  have optional (failed : optionalTextOf v = .error reason) : reason = v.textCause := by
    unfold optionalTextOf at failed
    split at failed
    · cases failed
    · exact Value.eq_textCause (map_eq_error_iff.mp failed)
  cases f with
  | id =>
    have failed := map_eq_error_iff.mp failed
    unfold UserId.ofValue at failed
    dsimp only at failed
    split at failed
    · cases failed
    · exact (Except.error.inj failed).symm
  | firstName | lastName | email => exact optional (map_eq_error_iff.mp failed)
  | resourceServerUrl => exact Value.eq_textCause (map_eq_error_iff.mp failed)
  | role =>
    have failed := map_eq_error_iff.mp failed
    unfold roleOf at failed
    split at failed
    · cases failed
    · cases failed
    · cases failed
    · exact Value.eq_textCause (map_eq_error_iff.mp failed)

end Field

end Caller

end AccessNotices
