import AccessNotices.Validation
/-!
Parties: the identity objects that a record carries for its consumer and its provider.

The names and the email pass through as they came; the identifier is the plain text of whatever was
given, if that can be written. A party is written as an object and can be read back from one.
-/

namespace AccessNotices

open Validation

structure Party where
  email : Value
  firstName : Value
  lastName : Value
  id : Option String

namespace Party

def idText : Value → Except WritingError (Option String)
  | .null => .ok none
  | v => v.write.map some

def of (firstName lastName id email : Value) : Except WritingError Party :=
  (idText id).map fun id => ⟨email, firstName, lastName, id⟩

/-- The party about which nothing is known. -/
def unknown : Party := ⟨.null, .null, .null, none⟩

def idJson : Option String → Json
  | some s => .string s
  | none => .null

def toJson (p : Party) : Except WritingError Json := do
  let email ← p.email.toJson
  let firstName ← p.firstName.toJson
  let lastName ← p.lastName.toJson
  .ok (.object
    [("email", email),
     ("name", .object [("firstName", firstName), ("lastName", lastName)]),
     ("id", idJson p.id)])

/-- The names of a party: of nothing if the field is missing, else of a mapping. -/
def namesOf : Option Value → Except (List Issue) (Value × Value)
  | none => .ok (.null, .null)
  | some (.map entries) =>
    let name (first second : String) := ((pick? first second entries).map Prod.snd).getD .null
    .ok (name "firstName" "first_name", name "lastName" "last_name")
  | some _ => .error [⟨[.field "name"], .notModel "PersonName"⟩]

def ofValue : Value → Except Report Party
  | .map entries =>
    let email := (Value.field? entries "email").getD .null
    let names := namesOf (Value.field? entries "name")
    let id := optional "id" "id" optionalTextOf entries
    match names, id with
    | .ok (firstName, lastName), .ok id => .ok ⟨email, firstName, lastName, id⟩
    | names, id => .error ⟨"PartyInfo", issuesOf names ++ issuesOf id⟩
  | _ => .error ⟨"PartyInfo", [⟨[], .notModel "PartyInfo"⟩]⟩

end Party

end AccessNotices
