import AccessNotices.Proofs.Json.Members
import AccessNotices.Proofs.Json.Number
import AccessNotices.Proofs.Json.Quoted
/-!
Texts that are read as JSON values.

`Reads` says that a text is read as a value wherever it stands, and `ReadsItems` and `ReadsMembers`
say it of what stands between brackets. Each way in which texts are put together has one rule
(`Reads.array`, `ReadsItems.cons` and so on), with blanks allowed wherever JSON allows them, so a
printer is correct if it keeps to the rules, whatever its layout. Main statements: both printers do
(`reads_encode`, `reads_indented`), and so a value is read back from its text if no object in it has
two members of one name (`read?_compact`, `read?_pretty`).
-/

namespace AccessNotices.Json

open Number Text

/-! ### Blanks -/

/-- The text is made of the blanks that may stand between tokens. -/
def IsBlank (s : List Char) : Prop :=
  ∀ c ∈ s, isSpace c = true

/-- Blanks are skipped. -/
theorem skipSpace_append {blank : List Char} (h : IsBlank blank) (rest : List Char) :
    skipSpace (blank ++ rest) = skipSpace rest :=
  List.dropWhile_append_of_pos h

theorem skipSpace_cons {c : Char} (h : isSpace c = false) (rest : List Char) :
    skipSpace (c :: rest) = c :: rest := by
  rw [skipSpace, List.dropWhile_cons, h, if_neg Bool.false_ne_true]

theorem skipSpace_skipSpace (s : List Char) : skipSpace (skipSpace s) = skipSpace s :=
  dropWhile_eq_self fun c head => by
    have notSpace := List.head?_dropWhile_not isSpace s
    rw [show (s.dropWhile isSpace).head? = some c from head] at notSpace
    exact notSpace

theorem isBlank_lineBreak (depth : Nat) : IsBlank (lineBreak depth) := by
  intro c mem
  rcases List.mem_cons.mp mem with rfl | space
  · rfl
  · rw [List.eq_of_mem_replicate space]
    rfl

/-- A value may have blanks in front. -/
theorem readValue_skipSpace (fuel : Nat) (s : List Char) :
    readValue fuel (skipSpace s) = readValue fuel s := by
  cases fuel with
  | zero => rw [readValue, readValue]
  | succ fuel => rw [readValue, readValue, skipSpace_skipSpace]

/-- Items may have blanks in front. -/
theorem readItems_skipSpace (fuel : Nat) (s : List Char) :
    readItems fuel (skipSpace s) = readItems fuel s := by
  cases fuel with
  | zero => rw [readItems, readItems]
  | succ fuel => rw [readItems, readItems, readValue_skipSpace]

/-- Members may have blanks in front. -/
theorem readMembers_skipSpace (fuel : Nat) (s : List Char) :
    readMembers fuel (skipSpace s) = readMembers fuel s := by
  cases fuel with
  | zero => rw [readMembers, readMembers]
  | succ fuel => rw [readMembers, readMembers, skipSpace_skipSpace]

/-- No number goes on with a blank, a comma or a bracket. -/
theorem endsNumber_append {blank : List Char} (h : IsBlank blank) {rest : List Char}
    (ends : EndsNumber rest) : EndsNumber (blank ++ rest) := by
  cases blank with
  | nil => exact ends
  | cons c blank =>
    have space := h c List.mem_cons_self
    intro d head
    cases head
    simp only [isSpace, Bool.or_eq_true, beq_iff_eq] at space
    rcases space with ((rfl | rfl) | rfl) | rfl <;> decide

/-! ### Texts of values -/

/-- The text is read as the value, whatever follows that is no part of a number. A step of the
reader takes one unit of fuel and one character at least, or nothing but a comma. -/
def Reads (text : List Char) (j : Json) : Prop :=
  ∀ fuel rest, 2 * text.length + 1 ≤ fuel → EndsNumber rest →
    readValue fuel (text ++ rest) = some (j, rest)

/-- The text in front of a closing bracket is read as the items. -/
def ReadsItems (text : List Char) (items : List Json) : Prop :=
  ∀ fuel rest, 2 * text.length + 2 ≤ fuel →
    readItems fuel (text ++ ']' :: rest) = some (items, rest)

/-- The text in front of a closing brace is read as the members. -/
def ReadsMembers (text : List Char) (members : List (String × Json)) : Prop :=
  ∀ fuel rest, 2 * text.length + 2 ≤ fuel →
    readMembers fuel (text ++ '}' :: rest) = some (members, rest)

section Rules

variable {text blank : List Char} {j : Json} {items : List Json}
  {members : List (String × Json)}

/-- A text that is read may have blanks in front. -/
theorem Reads.of_blank (h : Reads text j) (isBlank : IsBlank blank) : Reads (blank ++ text) j := by
  intro fuel rest enough ends
  rw [List.length_append] at enough
  rw [List.append_assoc, ← readValue_skipSpace, skipSpace_append isBlank, readValue_skipSpace]
  exact h fuel rest (by omega) ends

/-- A single item, with blanks behind it. -/
theorem ReadsItems.single (h : Reads text j) (isBlank : IsBlank blank) :
    ReadsItems (text ++ blank) [j] := by
  intro fuel rest enough
  rw [List.length_append] at enough
  obtain ⟨fuel, rfl⟩ := Nat.exists_eq_add_one_of_ne_zero (show fuel ≠ 0 by omega)
  have value := h fuel (blank ++ ']' :: rest) (by omega)
    (endsNumber_append isBlank (by simp [EndsNumber]))
  have closing : skipSpace (blank ++ ']' :: rest) = ']' :: rest := by
    rw [skipSpace_append isBlank, skipSpace_cons (by decide)]
  rw [readItems, List.append_assoc, value]
  simp only [Option.bind_eq_bind, Option.bind_some, closing]

/-- An item in front of others. -/
theorem ReadsItems.cons (h : Reads text j) {others : List Char} (hs : ReadsItems others items) :
    ReadsItems (text ++ ',' :: others) (j :: items) := by
  intro fuel rest enough
  rw [List.length_append, List.length_cons] at enough
  obtain ⟨fuel, rfl⟩ := Nat.exists_eq_add_one_of_ne_zero (show fuel ≠ 0 by omega)
  have value := h fuel (',' :: (others ++ ']' :: rest)) (by omega) (by simp [EndsNumber])
  have comma : skipSpace (',' :: (others ++ ']' :: rest)) = ',' :: (others ++ ']' :: rest) :=
    skipSpace_cons (by decide) _
  rw [readItems, List.append_assoc, List.cons_append, value]
  simp only [Option.bind_eq_bind, Option.bind_some, comma, hs fuel rest (by omega)]

theorem ReadsItems.of_blank (h : ReadsItems text items) (isBlank : IsBlank blank) :
    ReadsItems (blank ++ text) items := by
  intro fuel rest enough
  rw [List.length_append] at enough
  rw [List.append_assoc, ← readItems_skipSpace, skipSpace_append isBlank, readItems_skipSpace]
  exact h fuel rest (by omega)

theorem encodeString_append (key : String) (rest : List Char) :
    encodeString key ++ rest = '\x22' :: (encodeString key ++ rest).tail := rfl

/-- A single member, with blanks behind it. -/
theorem ReadsMembers.single (h : Reads text j) (isBlank : IsBlank blank) (key : String) :
    ReadsMembers (encodeString key ++ ':' :: text ++ blank) [(key, j)] := by
  intro fuel rest enough
  simp only [List.length_append, List.length_cons] at enough
  obtain ⟨fuel, rfl⟩ := Nat.exists_eq_add_one_of_ne_zero (show fuel ≠ 0 by omega)
  have value := h fuel (blank ++ '}' :: rest) (by omega)
    (endsNumber_append isBlank (by simp [EndsNumber]))
  have colon : skipSpace (':' :: (text ++ (blank ++ '}' :: rest))) =
      ':' :: (text ++ (blank ++ '}' :: rest)) := skipSpace_cons (by decide) _
  have closing : skipSpace (blank ++ '}' :: rest) = '}' :: rest := by
    rw [skipSpace_append isBlank, skipSpace_cons (by decide)]
  rw [List.append_assoc, List.append_assoc, List.cons_append, encodeString_append, readMembers,
    skipSpace_cons (by decide)]
  simp only [readString_encodeString, Option.bind_eq_bind, Option.bind_some, colon, value, closing]

/-- A member in front of others. -/
theorem ReadsMembers.cons (h : Reads text j) {others : List Char}
    (hs : ReadsMembers others members) (key : String) :
    ReadsMembers (encodeString key ++ ':' :: text ++ ',' :: others) ((key, j) :: members) := by
  intro fuel rest enough
  simp only [List.length_append, List.length_cons] at enough
  obtain ⟨fuel, rfl⟩ := Nat.exists_eq_add_one_of_ne_zero (show fuel ≠ 0 by omega)
  have value := h fuel (',' :: (others ++ '}' :: rest)) (by omega) (by simp [EndsNumber])
  have colon : skipSpace (':' :: (text ++ ',' :: (others ++ '}' :: rest))) =
      ':' :: (text ++ ',' :: (others ++ '}' :: rest)) := skipSpace_cons (by decide) _
  have comma : skipSpace (',' :: (others ++ '}' :: rest)) = ',' :: (others ++ '}' :: rest) :=
    skipSpace_cons (by decide) _
  rw [List.append_assoc, List.append_assoc, List.cons_append, List.cons_append, encodeString_append,
    readMembers, skipSpace_cons (by decide)]
  simp only [readString_encodeString, Option.bind_eq_bind, Option.bind_some, colon, value, comma,
    hs fuel rest (by omega)]

theorem ReadsMembers.of_blank (h : ReadsMembers text members) (isBlank : IsBlank blank) :
    ReadsMembers (blank ++ text) members := by
  intro fuel rest enough
  rw [List.length_append] at enough
  rw [List.append_assoc, ← readMembers_skipSpace, skipSpace_append isBlank, readMembers_skipSpace]
  exact h fuel rest (by omega)

/-! ### Arrays and objects -/

/-- No item starts with the bracket that ends an array. -/
theorem readItems_bracket (fuel : Nat) (rest : List Char) :
    readItems fuel (']' :: rest) = none := by
  cases fuel with
  | zero => rw [readItems]
  | succ fuel =>
    have noValue : readValue fuel (']' :: rest) = none := by
      cases fuel with
      | zero => rw [readValue]
      | succ fuel =>
        rw [readValue, skipSpace_cons (by decide)]
        rfl
    rw [readItems, noValue]
    rfl

/-- No member starts with the brace that ends an object. -/
theorem readMembers_brace (fuel : Nat) (rest : List Char) :
    readMembers fuel ('}' :: rest) = none := by
  cases fuel with
  | zero => rw [readMembers]
  | succ fuel =>
    rw [readMembers, skipSpace_cons (by decide)]
    rfl

theorem Reads.emptyArray : Reads ['[', ']'] (.array []) := by
  intro fuel rest enough _
  obtain ⟨fuel, rfl⟩ := Nat.exists_eq_add_one_of_ne_zero (show fuel ≠ 0 by omega)
  have inside : skipSpace (']' :: rest) = ']' :: rest := skipSpace_cons (by decide) rest
  rw [List.cons_append, List.cons_append, List.nil_append, readValue, skipSpace_cons (by decide)]
  simp only [inside]

/-- Items between brackets are read as an array. -/
theorem Reads.array (h : ReadsItems text items) : Reads ('[' :: text ++ [']']) (.array items) := by
  intro fuel rest enough _
  simp only [List.length_append, List.length_cons] at enough
  obtain ⟨fuel, rfl⟩ := Nat.exists_eq_add_one_of_ne_zero (show fuel ≠ 0 by omega)
  have inside : readItems fuel (skipSpace (text ++ ']' :: rest)) = some (items, rest) := by
    rw [readItems_skipSpace]
    exact h fuel rest (by omega)
  rw [List.append_assoc, List.cons_append, List.singleton_append, readValue,
    skipSpace_cons (by decide)]
  simp only
  split
  case h_1 bracket =>
    rw [bracket, readItems_bracket] at inside
    cases inside
  case h_2 => rw [inside, Option.map_some]

theorem Reads.emptyObject : Reads ['{', '}'] (.object []) := by
  intro fuel rest enough _
  obtain ⟨fuel, rfl⟩ := Nat.exists_eq_add_one_of_ne_zero (show fuel ≠ 0 by omega)
  have inside : skipSpace ('}' :: rest) = '}' :: rest := skipSpace_cons (by decide) rest
  rw [List.cons_append, List.cons_append, List.nil_append, readValue, skipSpace_cons (by decide)]
  simp only [inside]

/-- Members with different names between braces are read as an object. -/
theorem Reads.object (h : ReadsMembers text members) (distinct : (members.map Prod.fst).Nodup) :
    Reads ('{' :: text ++ ['}']) (.object members) := by
  intro fuel rest enough _
  simp only [List.length_append, List.length_cons] at enough
  obtain ⟨fuel, rfl⟩ := Nat.exists_eq_add_one_of_ne_zero (show fuel ≠ 0 by omega)
  have inside : readMembers fuel (skipSpace (text ++ '}' :: rest)) = some (members, rest) := by
    rw [readMembers_skipSpace]
    exact h fuel rest (by omega)
  rw [List.append_assoc, List.cons_append, List.singleton_append, readValue,
    skipSpace_cons (by decide)]
  simp only
  split
  case h_1 brace =>
    rw [brace, readMembers_brace] at inside
    cases inside
  case h_2 => rw [inside, Option.map_some, ofMembers_of_nodup distinct]

end Rules

/-! ### Values without parts -/

theorem Reads.null : Reads "null".toList .null := by
  intro fuel rest enough _
  obtain ⟨fuel, rfl⟩ := Nat.exists_eq_add_one_of_ne_zero (show fuel ≠ 0 by omega)
  rfl

theorem Reads.bool (b : Bool) : Reads (if b then "true".toList else "false".toList) (.bool b) := by
  intro fuel rest enough _
  obtain ⟨fuel, rfl⟩ := Nat.exists_eq_add_one_of_ne_zero (show fuel ≠ 0 by omega)
  cases b <;> rfl

/-- A text is read back as it was encoded. -/
theorem Reads.string (s : String) : Reads (encodeString s) (.string s) := by
  intro fuel rest enough _
  obtain ⟨fuel, rfl⟩ := Nat.exists_eq_add_one_of_ne_zero (show fuel ≠ 0 by omega)
  rw [encodeString_append, readValue, skipSpace_cons (by decide)]
  simp only [readString_encodeString, Option.map_some]

/-- A number starts with a sign or a digit. -/
theorem head_of_readNumber {s : List Char} {read : Json × List Char}
    (h : readNumber s = some read) :
    ∃ c rest, s = c :: rest ∧ (c = '-' ∨ c.isDigit = true) := by
  cases s with
  | nil => cases h
  | cons c rest =>
    refine ⟨c, rest, rfl, ?_⟩
    by_cases sign : c = '-'
    · exact .inl sign
    · refine .inr (by_contra fun noDigit => ?_)
      have nothing : takeDigits (c :: rest) = none := by
        rw [takeDigits, List.takeWhile_cons, if_neg noDigit]
        rfl
      unfold readNumber at h
      split at h
      case h_1 same => exact sign (List.cons.inj same).1
      case h_2 =>
        rw [readMagnitude, nothing] at h
        cases h

theorem readValue_of_readNumber {s : List Char} {read : Json × List Char}
    (h : readNumber s = some read) (fuel : Nat) : readValue (fuel + 1) s = some read := by
  obtain ⟨c, rest, rfl, first⟩ := head_of_readNumber h
  have noSpace : isSpace c = false := by
    by_contra space
    rw [Bool.not_eq_false] at space
    simp only [isSpace, Bool.or_eq_true, beq_iff_eq] at space
    rcases space with ((rfl | rfl) | rfl) | rfl <;> exact absurd first (by decide)
  rw [readValue, skipSpace_cons noSpace]
  -- No other kind of value starts as a number does.
  split
  case h_7 => exact h
  all_goals
    rename_i same
    cases same
    exact absurd first (by decide)

/-- An integer is read back as it was written. -/
theorem Reads.int (n : Int) : Reads (intText n) (.int n) := by
  intro fuel rest enough ends
  obtain ⟨fuel, rfl⟩ := Nat.exists_eq_add_one_of_ne_zero (show fuel ≠ 0 by omega)
  exact readValue_of_readNumber (readNumber_intText n ends) fuel

/-- A floating-point number is read back from its shortest text. -/
theorem Reads.float (x : Finite64) : Reads (Shortest.finiteText x) (.float x) := by
  intro fuel rest enough ends
  obtain ⟨fuel, rfl⟩ := Nat.exists_eq_add_one_of_ne_zero (show fuel ≠ 0 by omega)
  exact readValue_of_readNumber (readNumber_finiteText x ends) fuel

/-! ### Printers

A layout is given by what stands behind the commas and by what stands in front of the closing
bracket; any blanks will do. -/

theorem isBlank_nil : IsBlank [] :=
  fun _ mem => absurd mem List.not_mem_nil

theorem isBlank_space : IsBlank [' '] := by
  simp [IsBlank, isSpace]

section Layout

variable (print : Json → List Char) {gap blank : List Char} {items : List Json}
  {members : List (String × Json)}

/-- Items that are joined by commas are read as what they were printed from. -/
theorem readsItems_of_joined (join : List Json → List Char) (single : ∀ v, join [v] = print v)
    (cons : ∀ v w rest, join (v :: w :: rest) = print v ++ ',' :: (gap ++ join (w :: rest)))
    (isGap : IsBlank gap) (isBlank : IsBlank blank) (ne_nil : items ≠ [])
    (h : ∀ v ∈ items, Reads (print v) v) : ReadsItems (join items ++ blank) items := by
  induction items with
  | nil => exact absurd rfl ne_nil
  | cons v items ih =>
    have first : Reads (print v) v := h v List.mem_cons_self
    cases items with
    | nil =>
      rw [single]
      exact .single first isBlank
    | cons w items =>
      have others := ih (List.cons_ne_nil w items) fun u mem => h u (List.mem_cons_of_mem v mem)
      rw [cons, List.append_assoc, List.cons_append, List.append_assoc]
      exact .cons first (others.of_blank isGap)

/-- Members that are joined by commas are read as what they were printed from. -/
theorem readsMembers_of_joined (join : List (String × Json) → List Char)
    (single : ∀ k v, join [(k, v)] = encodeString k ++ ':' :: ' ' :: print v)
    (cons : ∀ k v m rest, join ((k, v) :: m :: rest) =
      encodeString k ++ ':' :: ' ' :: print v ++ ',' :: (gap ++ join (m :: rest)))
    (isGap : IsBlank gap) (isBlank : IsBlank blank) (ne_nil : members ≠ [])
    (h : ∀ m ∈ members, Reads (print m.2) m.2) : ReadsMembers (join members ++ blank) members := by
  induction members with
  | nil => exact absurd rfl ne_nil
  | cons m members ih =>
    obtain ⟨k, v⟩ := m
    have first : Reads (' ' :: print v) v := (h (k, v) List.mem_cons_self).of_blank isBlank_space
    cases members with
    | nil =>
      rw [single]
      exact .single first isBlank k
    | cons m members =>
      have others := ih (List.cons_ne_nil m members) fun n mem => h n (List.mem_cons_of_mem _ mem)
      have whole := ReadsMembers.cons first (others.of_blank isGap) k
      rw [cons]
      simpa only [List.append_assoc, List.cons_append] using whole

end Layout

/-- **The compact text** of a proper value is read as the value. -/
theorem reads_encode {j : Json} (proper : j.IsProper) : Reads (encode j) j := by
  induction proper with
  | null => exact .null
  | bool b => exact .bool b
  | int n => exact .int n
  | float x => exact .float x
  | string s => exact .string s
  | @array items _ ih =>
    cases items with
    | nil => exact .emptyArray
    | cons v items =>
      have inside := readsItems_of_joined encode encodeItems (fun _ => rfl) (fun _ _ _ => rfl)
        isBlank_space isBlank_nil (List.cons_ne_nil v items) ih
      rw [List.append_nil] at inside
      exact .array inside
  | @object members distinct _ ih =>
    cases members with
    | nil => exact .emptyObject
    | cons m members =>
      have inside := readsMembers_of_joined encode encodeMembers (fun _ _ => rfl)
        (fun _ _ _ _ => by simp [encodeMembers]) isBlank_space isBlank_nil
        (List.cons_ne_nil m members) ih
      rw [List.append_nil] at inside
      exact .object inside distinct

/-- **The indented text** of a proper value is read as the value. -/
theorem reads_indented {j : Json} (proper : j.IsProper) (depth : Nat) :
    Reads (indented depth j) j := by
  induction proper generalizing depth with
  | null => exact .null
  | bool b => exact .bool b
  | int n => exact .int n
  | float x => exact .float x
  | string s => exact .string s
  | @array items _ ih =>
    cases items with
    | nil => exact .emptyArray
    | cons v items =>
      have inside := readsItems_of_joined (indented (depth + 1)) (indentedItems (depth + 1))
        (fun _ => rfl) (fun _ _ _ => by simp [indentedItems]) (isBlank_lineBreak (depth + 1))
        (isBlank_lineBreak depth) (List.cons_ne_nil v items) fun w mem => ih w mem (depth + 1)
      have text : indented depth (.array (v :: items)) = '[' :: (lineBreak (depth + 1) ++
          (indentedItems (depth + 1) (v :: items) ++ lineBreak depth)) ++ [']'] := by
        simp [indented]
      rw [text]
      exact .array (inside.of_blank (isBlank_lineBreak (depth + 1)))
  | @object members distinct _ ih =>
    cases members with
    | nil => exact .emptyObject
    | cons m members =>
      have inside := readsMembers_of_joined (indented (depth + 1)) (indentedMembers (depth + 1))
        (fun _ _ => rfl) (fun _ _ _ _ => by simp [indentedMembers]) (isBlank_lineBreak (depth + 1))
        (isBlank_lineBreak depth) (List.cons_ne_nil m members) fun n mem => ih n mem (depth + 1)
      have text : indented depth (.object (m :: members)) = '{' :: (lineBreak (depth + 1) ++
          (indentedMembers (depth + 1) (m :: members) ++ lineBreak depth)) ++ ['}'] := by
        simp [indented]
      rw [text]
      exact .object (inside.of_blank (isBlank_lineBreak (depth + 1))) distinct

/-- A text that is read as a value is the text of that value, also with blanks behind it. -/
theorem Reads.readChars? {text blank : List Char} {j : Json} (h : Reads text j)
    (isBlank : IsBlank blank) : readChars? (text ++ blank) = some j := by
  have ends : EndsNumber blank := by
    rw [← List.append_nil blank]
    exact endsNumber_append isBlank (by simp [EndsNumber])
  have nothing : skipSpace blank = [] := by
    rw [← List.append_nil blank, skipSpace_append isBlank]
    rfl
  rw [Json.readChars?, h _ blank (by rw [List.length_append]; omega) ends]
  simp only [nothing, List.isEmpty_nil, if_true]

/-- A value is read back from its text on one line. -/
theorem read?_compact {j : Json} (proper : j.IsProper) : read? j.compact = some j := by
  have whole := (reads_encode proper).readChars? isBlank_nil
  rw [List.append_nil] at whole
  rw [read?, compact, String.toList_ofList, whole]

/-- A value is read back from its indented text with the line end behind it. -/
theorem read?_pretty {j : Json} (proper : j.IsProper) : read? (j.pretty ++ "\n") = some j := by
  have text : (j.pretty ++ "\n").toList = indented 0 j ++ ['\n'] := by
    rw [String.toList_append, pretty, String.toList_ofList]
    rfl
  rw [read?, text]
  exact (reads_indented proper 0).readChars? (isBlank_lineBreak 0)

end AccessNotices.Json
