import AccessNotices.Number.Binary64
/-!
JSON values. An object is a list of members in order; a number is an integer without bound or a
finite floating-point number, so a value that JSON cannot write does not exist.
-/

namespace AccessNotices

open Number

inductive Json where
  | null
  | bool (b : Bool)
  | int (n : Int)
  | float (x : Finite64)
  | string (s : String)
  | array (items : List Json)
  | object (members : List (String × Json))

namespace Json

instance : Inhabited Json := ⟨null⟩

def member? (key : String) : Json → Option Json
  | object members => members.lookup key
  | _ => none

/-- Members with a value for a key: in the place of the key if it is there, else at the end. -/
def putMember (key : String) (value : Json) : List (String × Json) → List (String × Json)
  | [] => [(key, value)]
  | (k, v) :: rest => if k = key then (k, value) :: rest else (k, v) :: putMember key value rest

def ofMembers (members : List (String × Json)) : Json :=
  .object (members.foldl (fun done m => putMember m.1 m.2 done) [])

end Json

end AccessNotices
