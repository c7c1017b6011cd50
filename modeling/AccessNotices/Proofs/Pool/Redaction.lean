import AccessNotices.Pool
import AccessNotices.Proofs.Text.Split
import AccessNotices.Proofs.Traversal
/-!
When there is a plan for a pool.

The kind of the pool can be told for every address, but the address has to be shown in a log, and
its credentials are looked for between a scheme mark and an '@'. There are none to be hidden in an
address that has a mark, and an '@' only in front of it, and nothing comes of such an address
(`Misleading`). Main statement: `plan_made_exactly`.
-/

namespace AccessNotices.Pool

open Text

/-! ### Redaction -/

/-- An address that looks as if it had credentials and has none: there are an '@' and a mark behind
a scheme, and no '@' stands behind any such mark. -/
structure Misleading (url : List Char) : Prop where
  at_mem : '@' ∈ url
  marked : schemeMark <:+: url
  before_mark : ∀ before after, url = before ++ schemeMark ++ after → '@' ∉ after

variable {url scheme rest : List Char}

/-- Only what follows the first mark counts. -/
theorem misleading_iff_of_cut (cut : cutFirst? schemeMark url = some (scheme, rest)) :
    Misleading url ↔ '@' ∈ url ∧ '@' ∉ rest := by
  have whole := cutFirst?_eq_some cut
  constructor
  · intro misleading
    exact ⟨misleading.at_mem, misleading.before_mark scheme rest whole⟩
  · rintro ⟨mem, notBehind⟩
    refine ⟨mem, ⟨scheme, rest, whole.symm⟩, fun before after occurs behind => notBehind ?_⟩
    exact (suffix_of_cutFirst? cut occurs).mem behind

/-- An address is shown unless it is misleading. -/
theorem redact_eq_error_iff {e : PoolError} :
    redact url = .error e ↔ Misleading url ∧ e = .noCredentials := by
  simp only [redact, List.contains_iff_mem]
  split
  case isFalse noAt =>
    exact iff_of_false nofun fun h => noAt h.1.at_mem
  case isTrue mem =>
    cases cut : cutFirst? schemeMark url with
    | none =>
      exact iff_of_false nofun fun h => cutFirst?_eq_none_iff.mp cut h.1.marked
    | some parts =>
      obtain ⟨scheme, rest⟩ := parts
      rw [misleading_iff_of_cut cut]
      dsimp only
      split
      case h_1 user host last =>
        refine iff_of_false nofun fun h => h.1.2 ?_
        rw [cutLast?_eq_some last]
        exact List.mem_append_right user List.mem_cons_self
      case h_2 last =>
        have notBehind := cutLast?_eq_none_iff.mp last
        simp [mem, notBehind, eq_comm]

theorem exists_redact_iff : (∃ shown, redact url = .ok shown) ↔ ¬ Misleading url := by
  cases redacted : redact url with
  | ok shown =>
    refine iff_of_true ⟨shown, rfl⟩ fun misleading => ?_
    cases redacted.symm.trans (redact_eq_error_iff.mpr ⟨misleading, rfl⟩)
  | error e =>
    exact iff_of_false nofun (not_not_intro (redact_eq_error_iff.mp redacted).1)

/-! ### Plans -/

section Plan

variable {part : List (Value × Value)} {address : Value} {text : String}

/-- The plan for an address, without what is logged about it. -/
def planFor (part : List (Value × Value)) (address : Value) (text : String) : PoolPlan :=
  ⟨address, (settingD part "echo" (.bool false)).isTruthy, poolingFor part text.toList⟩

/-- What is logged about an address. -/
def shownEntry (address : Value) (text : String) (shown : List Char) : LogEntry :=
  ⟨.debug, .pool, "Creating connection pool for " ++
    if shown = text.toList then address.display else String.ofList shown⟩

/-- There is a plan as soon as the address can be shown. -/
theorem plan_of_url (given : Value.field? part "url" = some address)
    (isText : address.asText? = some text) :
    plan (.map part) = (redact text.toList).map fun shown =>
      (planFor part address text, shownEntry address text shown) := by
  have read : urlOf part = .ok (address, text.toList) := by
    rw [urlOf, given]
    cases address with
    | text s => cases isText; rfl
    | codes cs => cases isText; rfl
    | role r => cases isText; rfl
    | _ => cases isText
  rw [plan, read]
  change shownUrl address text.toList >>= _ = _
  rw [shownUrl]
  cases redact text.toList with
  | ok shown => rfl
  | error e => rfl

/-- **Plans that are made.** Of settings with any text for an address there is a plan, and the
address stands in it as it was given, exactly if the address is not misleading; for a misleading
address, which no kind of pool would refuse, there is an error in its place. -/
theorem plan_made_exactly (given : Value.field? part "url" = some address)
    (isText : address.asText? = some text) :
    ((∃ made entry, plan (.map part) = .ok (made, entry)) ↔ ¬ Misleading text.toList) ∧
    (∀ made entry, plan (.map part) = .ok (made, entry) → made.url = address) ∧
    ∀ e, plan (.map part) = .error e ↔
      Misleading text.toList ∧ e.message? = some "list index out of range" ∧ e = .noCredentials := by
  rw [plan_of_url given isText]
  refine ⟨?_, ?_, ?_⟩
  · rw [← exists_redact_iff]
    simp only [map_eq_ok_iff]
    constructor
    · rintro ⟨made, entry, shown, redacted, -⟩
      exact ⟨shown, redacted⟩
    · rintro ⟨shown, redacted⟩
      exact ⟨_, _, shown, redacted, rfl⟩
  · intro made entry planned
    obtain ⟨shown, -, same⟩ := map_eq_ok_iff.mp planned
    cases same
    rfl
  · intro e
    rw [map_eq_error_iff, redact_eq_error_iff]
    constructor
    · rintro ⟨misleading, rfl⟩
      exact ⟨misleading, rfl, rfl⟩
    · rintro ⟨misleading, -, same⟩
      exact ⟨misleading, same⟩

/-- There is no plan for an address with an '@' in front of its mark alone, and one for an address
with the same parts in order. -/
theorem plan_of_swapped_parts :
    Misleading "a@b://c".toList ∧
    plan (.map [(.text "url", .text "a@b://c")]) = .error .noCredentials ∧
    ∃ made entry, plan (.map [(.text "url", .text "b://a@c")]) = .ok (made, entry) ∧
      made.url = .text "b://a@c" := by
  have misleading : Misleading "a@b://c".toList :=
    (misleading_iff_of_cut rfl).mpr ⟨by decide, by decide⟩
  have clear : ¬ Misleading "b://a@c".toList := by
    rw [misleading_iff_of_cut rfl]
    decide
  have swapped : Value.field? [(.text "url", .text "a@b://c")] "url" =
      some (.text "a@b://c") := rfl
  have ordered : Value.field? [(.text "url", .text "b://a@c")] "url" =
      some (.text "b://a@c") := rfl
  obtain ⟨-, -, refused⟩ := plan_made_exactly swapped rfl
  obtain ⟨reached, unchanged, -⟩ := plan_made_exactly ordered rfl
  obtain ⟨made, entry, planned⟩ := reached.mpr clear
  exact ⟨misleading, (refused _).mpr ⟨misleading, rfl, rfl⟩, made, entry, planned,
    unchanged made entry planned⟩

end Plan

end AccessNotices.Pool
