import AccessNotices.Statement
/-!
The texts of the built-in statements.

The two texts are the same up to what they call the first name of the other party, and differ there;
so each of them is found by its text (`ofSql?_builtIn`).
-/

namespace AccessNotices.Select

theorem sql_of_groups (s : Select) {g h : List (Column × String)} (outputs : s.outputs = [g, h]) :
    ∃ rest, s.sql = "\nSELECT " ++ (groupSql g ++ ("\n," ++ (groupSql h ++ rest))) := by
  unfold sql
  rw [outputs, List.map_cons, List.map_cons, List.map_nil, String.intercalate_cons_cons,
    String.intercalate_singleton]
  simp only [String.append_assoc]
  exact ⟨_, rfl⟩

theorem groupSql_partyOutputs (firstName lastName email : String) :
    ∃ rest, groupSql (partyOutputs firstName lastName email) =
      "\n    U.first_name AS \"" ++ (firstName ++ rest) := by
  unfold groupSql partyOutputs
  rw [List.map_cons, List.map_cons, String.intercalate_cons_cons]
  have first : outputSql (⟨.account, "first_name"⟩, firstName) =
      "U.first_name AS \"" ++ (firstName ++ "\"") := by
    unfold outputSql columnSql
    simp only [String.append_assoc]
    rfl
  rw [first]
  simp only [String.append_assoc]
  exact ⟨_, rfl⟩

/-- Lookups for a party have the same text up to what the first name is called. -/
theorem sql_lookup : ∃ start, ∀ own other firstName lastName email, ∃ rest,
    (lookup own other (partyOutputs firstName lastName email)).sql =
      start ++ (firstName ++ rest) := by
  refine ⟨"\nSELECT " ++ (groupSql requestOutputs ++ ("\n," ++ "\n    U.first_name AS \"")), ?_⟩
  intro own other firstName lastName email
  obtain ⟨inner, group⟩ := groupSql_partyOutputs firstName lastName email
  obtain ⟨outer, text⟩ :=
    (lookup own other (partyOutputs firstName lastName email)).sql_of_groups rfl
  refine ⟨inner ++ outer, ?_⟩
  rw [text, group]
  simp only [String.append_assoc]

/-- The built-in statements have different texts. -/
theorem sql_builtIn_ne :
    (builtIn .consumerNotifications).sql ≠ (builtIn .providerNotifications).sql := by
  obtain ⟨start, agree⟩ := sql_lookup
  obtain ⟨rest, consumer⟩ :=
    agree consumerColumn ownerColumn "ownerFirstName" "ownerLastName" "ownerEmailId"
  obtain ⟨rest', provider⟩ :=
    agree ownerColumn consumerColumn "consumerFirstName" "consumerLastName" "consumerEmailId"
  intro same
  have texts : "ownerFirstName" ++ rest = "consumerFirstName" ++ rest' :=
    (String.append_right_inj start).mp (consumer.symm.trans (same.trans provider))
  -- The whole texts are too long to be compared by computation; the next character settles it.
  have chars := congrArg (fun s => s.toList.head?) texts
  rw [String.toList_append, String.toList_append] at chars
  cases chars

/-- A built-in statement is found by its text. -/
theorem ofSql?_builtIn (selector : Selector) :
    ofSql? (.whole (builtIn selector).sql) = some (builtIn selector) := by
  unfold ofSql?
  cases selector with
  | consumerNotifications => exact List.find?_cons_of_pos (beq_self_eq_true _)
  | providerNotifications =>
    refine (List.find?_cons_of_neg ?_).trans (List.find?_cons_of_pos (beq_self_eq_true _))
    rw [beq_iff_eq]
    exact fun same => sql_builtIn_ne (Text.AnyText.whole.inj same)

end AccessNotices.Select
