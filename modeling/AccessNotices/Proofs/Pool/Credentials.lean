import AccessNotices.Proofs.Pool.Redaction
/-!
What a log shows of an address.

An address is shown as it is, or with stars for all that stands between its first mark and the last
'@' behind it (`Shows`). So the credentials in an address leave no trace in what is shown, however
many marks and '@' they hold, and what is shown is not changed by hiding it again. Main statement:
`credentials_hidden`.
-/

namespace AccessNotices.Pool

open Text

/-- The address with a text for a user, and a password if there is one, behind its scheme. -/
def addressOf (scheme user tail : List Char) : List Char :=
  scheme ++ "://".toList ++ user ++ "@".toList ++ tail

/-- The address with stars behind its scheme. -/
def starredOf (scheme tail : List Char) : List Char :=
  scheme ++ "://***@".toList ++ tail

theorem starredOf_eq (scheme tail : List Char) :
    starredOf scheme tail = addressOf scheme "***".toList tail := by
  simp [starredOf, addressOf]

/-- What is shown of an address. -/
inductive Shows : List Char → List Char → Prop where
  | plain {url : List Char} (bare : '@' ∉ url ∨ ¬ schemeMark <:+: url) : Shows url url
  | starred {scheme tail : List Char} (user : List Char) (noMark : ¬ schemeMark <:+: scheme)
      (noAt : '@' ∉ tail) : Shows (addressOf scheme user tail) (starredOf scheme tail)

/-! ### Redaction -/

variable {url shown scheme user tail : List Char}

/-- The scheme ends at the first mark and the tail begins behind the last '@', whatever stands
between them. -/
theorem redact_addressOf (noMark : ¬ schemeMark <:+: scheme) (noAt : '@' ∉ tail) :
    redact (addressOf scheme user tail) = .ok (starredOf scheme tail) := by
  have parts : addressOf scheme user tail = scheme ++ schemeMark ++ (user ++ '@' :: tail) := by
    simp [addressOf, schemeMark]
  have first : cutFirst? schemeMark (scheme ++ schemeMark ++ (user ++ '@' :: tail)) =
      some (scheme, user ++ '@' :: tail) :=
    cutFirst?_append (by decide) noMark
  have last : cutLast? '@' (user ++ '@' :: tail) = some (user, tail) := cutLast?_append_cons noAt
  have hasAt : '@' ∈ scheme ++ schemeMark ++ (user ++ '@' :: tail) := by simp
  rw [parts, redact, if_pos (List.contains_iff_mem.mpr hasAt), first]
  dsimp only
  rw [last]
  simp [starredOf, schemeMark]

theorem redact_of_bare (bare : '@' ∉ url ∨ ¬ schemeMark <:+: url) : redact url = .ok url := by
  rw [redact]
  split
  case isFalse => rfl
  case isTrue hasAt =>
    have unmarked := bare.resolve_left (not_not_intro (List.contains_iff_mem.mp hasAt))
    rw [cutFirst?_eq_none_iff.mpr unmarked]

theorem redact_eq_ok_iff : redact url = .ok shown ↔ Shows url shown := by
  constructor
  · intro redacted
    rw [redact] at redacted
    split at redacted
    case isFalse noAt =>
      cases redacted
      exact .plain (.inl fun mem => noAt (List.contains_iff_mem.mpr mem))
    case isTrue =>
      split at redacted
      case h_1 unmarked =>
        cases redacted
        exact .plain (.inr (cutFirst?_eq_none_iff.mp unmarked))
      case h_2 scheme rest first =>
        split at redacted
        case h_2 => cases redacted
        case h_1 user tail last =>
          have whole : url = addressOf scheme user tail := by
            rw [cutFirst?_eq_some first, cutLast?_eq_some last]
            simp [addressOf, schemeMark]
          have same : shown = starredOf scheme tail := by
            rw [← Except.ok.inj redacted]
            simp [starredOf, schemeMark]
          rw [whole, same]
          exact .starred user (not_infix_of_cutFirst? (by decide) first) (not_mem_of_cutLast? last)
  · rintro (bare | ⟨user, noMark, noAt⟩)
    · exact redact_of_bare bare
    · exact redact_addressOf noMark noAt

/-- Stars are shown as they are. -/
theorem Shows.again (shows : Shows url shown) : Shows shown shown := by
  cases shows with
  | plain bare => exact .plain bare
  | starred user noMark noAt =>
    have stars := Shows.starred "***".toList noMark noAt
    rwa [← starredOf_eq] at stars

/-! ### The log -/

section Log

variable {part : List (Value × Value)} {address : Value} {text : String}

/-- A text with an '@' in it is displayed as it is: it is not the text of a role. -/
theorem display_of_asText (isText : address.asText? = some text) (hasAt : '@' ∈ text.toList) :
    address.display = text := by
  cases address with
  | text s => exact Option.some.inj isText
  | codes cs => exact Option.some.inj isText
  | role r =>
    cases isText
    cases r <;> exact absurd hasAt (by decide)
  | _ => cases isText

/-- The log shows stars for the credentials of an address, also where they are stars themselves. -/
theorem plan_of_addressOf (given : Value.field? part "url" = some address)
    (isText : address.asText? = some (String.ofList (addressOf scheme user tail)))
    (noMark : ¬ schemeMark <:+: scheme) (noAt : '@' ∉ tail) :
    plan (.map part) = .ok (planFor part address (String.ofList (addressOf scheme user tail)),
      ⟨.debug, .pool,
        "Creating connection pool for " ++ String.ofList (starredOf scheme tail)⟩) := by
  have hasAt : '@' ∈ (String.ofList (addressOf scheme user tail)).toList := by simp [addressOf]
  rw [plan_of_url given isText, String.toList_ofList, redact_addressOf noMark noAt]
  change Except.ok (_, shownEntry _ _ _) = _
  rw [shownEntry, String.toList_ofList, display_of_asText isText hasAt]
  -- The address stands in the log as it was given if its user is already three stars.
  split
  case isTrue same => rw [same]
  case isFalse => rfl

end Log

/-- **Credentials are hidden, once and for all.** Take a scheme without a mark, a tail without an
'@', and any two texts for a user. What is shown of the two addresses is the same, the scheme and
the tail with stars between them; and pools are planned for settings with either address, and what
is logged about them is the same. What is shown of any address is shown as it is. -/
theorem credentials_hidden :
    (∀ scheme tail : List Char, ¬ "://".toList <:+: scheme → '@' ∉ tail →
      ∀ user user' : List Char,
        redact (addressOf scheme user tail) = redact (addressOf scheme user' tail) ∧
        redact (addressOf scheme user' tail) = .ok (scheme ++ "://***@".toList ++ tail) ∧
        ∀ part address part' address',
          Value.field? part "url" = some address →
          address.asText? = some (String.ofList (addressOf scheme user tail)) →
          Value.field? part' "url" = some address' →
          address'.asText? = some (String.ofList (addressOf scheme user' tail)) →
          ∃ made made' entry, plan (.map part) = .ok (made, entry) ∧
            plan (.map part') = .ok (made', entry) ∧
            entry.message = "Creating connection pool for " ++
              String.ofList (scheme ++ "://***@".toList ++ tail)) ∧
    ∀ url shown : List Char, redact url = .ok shown → redact shown = .ok shown := by
  refine ⟨fun scheme tail noMark noAt user user' => ⟨?_, ?_, ?_⟩, fun url shown redacted => ?_⟩
  · rw [redact_addressOf noMark noAt, redact_addressOf noMark noAt]
  · exact redact_addressOf noMark noAt
  · intro part address part' address' given isText given' isText'
    exact ⟨_, _, _, plan_of_addressOf given isText noMark noAt,
      plan_of_addressOf given' isText' noMark noAt, rfl⟩
  · exact redact_eq_ok_iff.mpr (redact_eq_ok_iff.mp redacted).again

/-- A password with an '@' and marks in it leaves no trace, and neither does its absence. -/
theorem credentials_hidden_of_crowded_password :
    redact "db://a:p@ss://x:/@h:1/d".toList = .ok "db://***@h:1/d".toList ∧
    (∃ made made' entry,
      plan (.map [(.text "url", .text "db://a:p@ss://x:/@h:1/d")]) = .ok (made, entry) ∧
      plan (.map [(.text "url", .text "db://@h:1/d"), (.text "echo", .int 1)]) =
        .ok (made', entry) ∧
      entry.message = "Creating connection pool for db://***@h:1/d") ∧
    redact "db://***@h:1/d".toList = .ok "db://***@h:1/d".toList := by
  obtain ⟨hidden, settled⟩ := credentials_hidden
  obtain ⟨same, shown, logged⟩ := hidden "db".toList "h:1/d".toList (by decide) (by decide)
    "a:p@ss://x:/".toList []
  have both := logged [(.text "url", .text "db://a:p@ss://x:/@h:1/d")] _
    [(.text "url", .text "db://@h:1/d"), (.text "echo", .int 1)] _ rfl rfl rfl rfl
  exact ⟨same.trans shown, both, settled _ _ (same.trans shown)⟩

end AccessNotices.Pool
