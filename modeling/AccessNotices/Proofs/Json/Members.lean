import AccessNotices.Json.Basic
import AccessNotices.Proofs.OrderedMap
/-!
Objects whose members have names of their own.

Members are put into an object as entries are put into a mapping that remembers their order
(`ofMembers_eq`), so an object never gets two members of one name. Main statements: members of
different names make an object as they stand (`ofMembers_of_nodup`), and whatever the names, an
object of proper values is proper (`isProper_ofMembers`).
-/

namespace AccessNotices.Json

open Number

variable {members : List (String × Json)}

theorem putMember_eq_putEntry (key : String) (value : Json) (members : List (String × Json)) :
    putMember key value members = OrderedMap.putEntry key value members := by
  induction members with
  | nil => rfl
  | cons m rest ih => rw [putMember, OrderedMap.putEntry, ih]

/-- An object is made of the entries of a mapping. -/
theorem ofMembers_eq (members : List (String × Json)) :
    ofMembers members = .object (OrderedMap.ofList members).entries := by
  have step (m : OrderedMap String Json) (rest : List (String × Json)) :
      rest.foldl (fun done m => putMember m.1 m.2 done) m.entries =
        (rest.foldl (fun m e => m.insert e.1 e.2) m).entries := by
    induction rest generalizing m with
    | nil => rfl
    | cons e rest ih => rw [List.foldl_cons, List.foldl_cons, putMember_eq_putEntry, ← ih]; rfl
  exact congrArg object (step OrderedMap.empty members)

/-- Members of different names make an object as they stand. -/
theorem ofMembers_of_nodup (distinct : (members.map Prod.fst).Nodup) :
    ofMembers members = .object members := by
  rw [ofMembers_eq, OrderedMap.entries_ofList distinct]

/-- No object in the value has two members of one name. -/
inductive IsProper : Json → Prop where
  | null : IsProper .null
  | bool (b : Bool) : IsProper (.bool b)
  | int (n : Int) : IsProper (.int n)
  | float (x : Finite64) : IsProper (.float x)
  | string (s : String) : IsProper (.string s)
  | array {items : List Json} (inside : ∀ v ∈ items, IsProper v) : IsProper (.array items)
  | object {members : List (String × Json)} (distinct : (members.map Prod.fst).Nodup)
      (inside : ∀ m ∈ members, IsProper m.2) : IsProper (.object members)

/-- An object made of members with proper values is proper, whatever their names. -/
theorem isProper_ofMembers (inside : ∀ m ∈ members, IsProper m.2) :
    (ofMembers members).IsProper := by
  rw [ofMembers_eq]
  exact .object (OrderedMap.nodup _) fun m mem => inside m (OrderedMap.mem_of_mem_ofList mem)

end AccessNotices.Json
