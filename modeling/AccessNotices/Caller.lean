import AccessNotices.Party
/-!
Callers: who asks, for which resource server, and in what role.

A caller is built from a mapping whose keys are spelled in one of two ways. The identifier of a user
is kept as it was sent, together with the number that it spells; no other spelling than the
hyphenated one is taken. A role that is not known is kept as it came.
-/

namespace AccessNotices

open Validation Text

/-- The identifier of a user: a text that is canonical up to the case of its letters. -/
structure UserId where
  text : String
  uuid : Uuid
  spelled : uuid.text = lower text.toList

namespace UserId

def ofText? (s : String) : Option UserId :=
  match Uuid.read s.toList with
  | .ok u => if h : u.text = lower s.toList then some ⟨s, u, h⟩ else none
  | .error _ => none

/-- The identifier of a value: a number in its canonical text, or a text. -/
def ofValue (v : Value) : Except Cause UserId :=
  let found := match v with
    | .uuid u => ofText? u.toString
    | .text s => ofText? s
    | .role r => ofText? r.text
    | _ => none
  match found with
  | some id => .ok id
  | none => .error (.notIdentifier v)

end UserId

/-- Someone who asks for notices. The role is a role, or whatever stands in its place. -/
structure Caller where
  id : UserId
  firstName : Option String
  lastName : Option String
  email : Option String
  resourceServerUrl : String
  role : Value

namespace Caller

/-- A role, if there is one, else the text that stands in its place. -/
def roleOrText (r : Option Role) (s : String) : Value :=
  match r with
  | some r => .role r
  | none => .text s

/-- A role as a caller keeps it: the role that a text names, else the text itself. A byte string is
taken by the letter. -/
def roleOf (v : Value) : Except Cause Value :=
  match v with
  | .role r => .ok (.role r)
  | .text s => .ok (roleOrText (Role.named? s) s)
  | .codes t => .ok (.codes t)
  | v => (textOf v).map fun s => roleOrText (Role.ofText? s) s

/-- The role field. What is neither a role nor a text is an issue on both counts. -/
def roleField (entries : List (Value × Value)) : Except (List Issue) Value :=
  match Value.field? entries "role" with
  | none => .error [⟨[.field "role"], .missing⟩]
  | some v =>
    match roleOf v with
    | .ok role => .ok role
    | .error cause =>
      .error [⟨[.field "role", .field "str-enum[Role]"], .notRole⟩,
              ⟨[.field "role", .field "str"], cause⟩]

/-- The caller of a mapping; all issues of all fields if there are any. -/
def ofEntries (entries : List (Value × Value)) : Except Report Caller :=
  let id := required "userId" "user_id" UserId.ofValue entries
  let firstName := optional "firstName" "first_name" optionalTextOf entries
  let lastName := optional "lastName" "last_name" optionalTextOf entries
  let email := optional "emailId" "email_id" optionalTextOf entries
  let url := required "resourceServerUrl" "resource_server_url" textOf entries
  let role := roleField entries
  match id, firstName, lastName, email, url, role with
  | .ok id, .ok firstName, .ok lastName, .ok email, .ok url, .ok role =>
    .ok ⟨id, firstName, lastName, email, url, role⟩
  | _, _, _, _, _, _ =>
    .error ⟨"User", issuesOf id ++ issuesOf firstName ++ issuesOf lastName ++ issuesOf email ++
      issuesOf url ++ issuesOf role⟩

def ofValue : Value → Except Report Caller
  | .map entries => ofEntries entries
  | _ => .error ⟨"User", [⟨[], .notModel "User"⟩]⟩

def textValue : Option String → Value
  | some s => .text s
  | none => .null

def party (c : Caller) : Party :=
  ⟨textValue c.email, textValue c.firstName, textValue c.lastName, some c.id.text⟩

/-- It is the party with these names, this identifier and this email. -/
theorem of_eq_party (c : Caller) :
    Party.of (textValue c.firstName) (textValue c.lastName) (.text c.id.text) (textValue c.email) =
      .ok c.party :=
  rfl

end Caller

end AccessNotices
