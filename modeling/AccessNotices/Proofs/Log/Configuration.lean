import AccessNotices.Log
import AccessNotices.Proofs.Value.Encodable
import Mathlib.Data.List.Basic
/-!
What is left of a logger when it was configured any number of times.

A call is refused if what it gives for a level is neither a text nor an integer, and then nothing
has happened (`configure_of_refused`). Any other call stands for a level (`StandsFor`), sets it, and
leaves the logger with its handler (`configure_of_standsFor`). So of many calls only the last one
that is not refused counts, and there is one handler however many of them there are. Main statement:
`configuredBy_exactly`.
-/

namespace AccessNotices.Logger

open Text

/-! ### Levels -/

/-- What is given for a level is neither a text nor an integer, nor a truth value, which counts as
one. -/
def Refused (call : Option Value) : Prop :=
  ∃ given, call = some given ∧ given.asText? = none ∧ (∀ n, given ≠ .int n) ∧ ∀ b, given ≠ .bool b

/-- The level that a call stands for. -/
inductive StandsFor : Option Value → Int → Prop where
  | omitted {n : Int} (info : ("INFO", n) ∈ namedLevels) : StandsFor none n
  | named {given : Value} {s : String} {n : Int} (isText : given.asText? = some s)
      (known : (uppered s, n) ∈ namedLevels) : StandsFor (some given) n
  | unnamed {given : Value} {s : String} {n : Int} (isText : given.asText? = some s)
      (unknown : ∀ m, (uppered s, m) ∉ namedLevels) (info : ("INFO", n) ∈ namedLevels) :
      StandsFor (some given) n
  | int (n : Int) : StandsFor (some (.int n)) n
  | bool (b : Bool) : StandsFor (some (.bool b)) (if b then 1 else 0)

variable {s : String} {n : Int} {given : Value} {call : Option Value} {l : Logger}

/-- No name has two levels. -/
theorem lookup_of_mem {name : String} (mem : (name, n) ∈ namedLevels) :
    namedLevels.lookup name = some n := by
  have each : ∀ entry ∈ namedLevels, namedLevels.lookup entry.1 = some entry.2 := by decide
  exact each _ mem

/-- The name of a level gives its number, in any case. -/
theorem levelNamed_of_mem (known : (uppered s, n) ∈ namedLevels) : levelNamed s = n := by
  rw [levelNamed, lookup_of_mem known, Option.getD_some]

/-- Any other name gives the default. -/
theorem levelNamed_of_notMem (unknown : ∀ m, (uppered s, m) ∉ namedLevels) :
    levelNamed s = defaultLevel := by
  have missing : namedLevels.lookup (uppered s) = none := by
    rw [List.lookup_eq_none_iff]
    rintro ⟨name, m⟩ mem
    rw [bne_iff_ne]
    rintro rfl
    exact unknown m mem
  rw [levelNamed, missing, Option.getD_none]

theorem eq_defaultLevel (info : ("INFO", n) ∈ namedLevels) : n = defaultLevel := by
  have found := (lookup_of_mem info).symm.trans (show _ = some defaultLevel by decide)
  exact Option.some.inj found

theorem standsFor_levelNamed (isText : given.asText? = some s) :
    StandsFor (some given) (levelNamed s) := by
  by_cases known : ∃ m, (uppered s, m) ∈ namedLevels
  · obtain ⟨m, mem⟩ := known
    rw [levelNamed_of_mem mem]
    exact .named isText mem
  · rw [not_exists] at known
    rw [levelNamed_of_notMem known]
    exact .unnamed isText known (by decide)

/-- A call is refused or it stands for a level. -/
theorem refused_or_standsFor (call : Option Value) : Refused call ∨ ∃ n, StandsFor call n := by
  cases call with
  | none => exact .inr ⟨20, .omitted (by decide)⟩
  | some given =>
    cases isText : given.asText? with
    | some s => exact .inr ⟨_, standsFor_levelNamed isText⟩
    | none =>
      cases given with
      | int n => exact .inr ⟨n, .int n⟩
      | bool b => exact .inr ⟨_, .bool b⟩
      | _ => exact .inl ⟨_, rfl, isText, nofun, nofun⟩

/-! ### One call -/

/-- The logger with a level and with its handler. -/
def leveled (l : Logger) (n : Int) : Logger :=
  ⟨n, if l.installed then l.handlers else l.handlers + 1, true⟩

/-- The handler is installed after the level is set. -/
theorem configure_of_setLevel
    (done : setLevel (resolved (call.getD (.text defaultName))) l = .ok () { l with level := n }) :
    configure call l = .ok () (l.leveled n) := by
  change EStateM.bind _ _ l = _
  rw [EStateM.bind, done]
  cases l with
  | mk level handlers installed => cases installed <;> rfl

/-- Without a level there is no handler either. -/
theorem configure_of_refused (refused : Refused (some given)) :
    configure (some given) l = .error (.ofValue given) l := by
  obtain ⟨_, ⟨⟩, noText, noInt, noBool⟩ := refused
  have stays : resolved given = given := by rw [resolved, noText]
  change EStateM.bind (setLevel (resolved given)) _ l = _
  rw [EStateM.bind, stays]
  cases given with
  | int n => exact absurd rfl (noInt n)
  | bool b => exact absurd rfl (noBool b)
  | _ => rfl

/-- A call that stands for a level sets it and installs the handler. -/
theorem configure_of_standsFor (standsFor : StandsFor call n) :
    configure call l = .ok () (l.leveled n) := by
  apply configure_of_setLevel
  cases standsFor with
  | omitted info =>
    rw [eq_defaultLevel info]
    rfl
  | named isText known =>
    rw [Option.getD_some, resolved, isText]
    dsimp only
    rw [levelNamed_of_mem known]
    rfl
  | unnamed isText unknown info =>
    rw [Option.getD_some, resolved, isText]
    dsimp only
    rw [levelNamed_of_notMem unknown, eq_defaultLevel info]
    rfl
  | int n => rfl
  | bool b => rfl

/-- A call sets a level exactly when it stands for it. -/
theorem configure_eq_ok_iff : configure call l = .ok () (l.leveled n) ↔ StandsFor call n := by
  refine ⟨fun done => ?_, configure_of_standsFor⟩
  rcases refused_or_standsFor call with refused | ⟨m, standsFor⟩
  · obtain ⟨given, rfl, -⟩ := id refused
    rw [configure_of_refused refused] at done
    cases done
  · rw [configure_of_standsFor standsFor] at done
    cases done
    exact standsFor

/-- A call fails exactly if it is refused, and with the error for what it gives. -/
theorem configure_eq_error_iff {e : LevelError} {l' : Logger} :
    configure call l = .error e l' ↔
      Refused call ∧ l' = l ∧ ∃ given, call = some given ∧ e = .ofValue given := by
  rcases refused_or_standsFor call with refused | ⟨n, standsFor⟩
  · obtain ⟨given, rfl, -⟩ := id refused
    rw [configure_of_refused refused]
    constructor
    · rintro ⟨⟩
      exact ⟨refused, rfl, given, rfl, rfl⟩
    · rintro ⟨-, rfl, _, ⟨⟩, rfl⟩
      rfl
  · rw [configure_of_standsFor standsFor]
    refine iff_of_false nofun ?_
    rintro ⟨refused, -⟩
    obtain ⟨given, rfl, -⟩ := id refused
    cases (configure_of_refused (l := l) refused).symm.trans (configure_of_standsFor standsFor)

/-- A call succeeds exactly when it is not refused. -/
theorem exists_configure_iff : (∃ l', configure call l = .ok () l') ↔ ¬ Refused call := by
  constructor
  · rintro ⟨l', done⟩ refused
    obtain ⟨given, rfl, -⟩ := id refused
    rw [configure_of_refused refused] at done
    cases done
  · intro accepted
    obtain ⟨n, standsFor⟩ := (refused_or_standsFor call).resolve_left accepted
    exact ⟨_, configure_of_standsFor standsFor⟩

/-- The kind of the error tells whether what was given can be written. -/
theorem kind_ofValue (given : Value) :
    (LevelError.ofValue given).kind = if given.isWritable then "TypeError" else "ValueError" := by
  rw [LevelError.ofValue]
  cases given.isWritable <;> rfl

/-! ### Many calls -/

/-- The logger that is left by calls, one after another. -/
def configuredBy (l : Logger) (calls : List (Option Value)) : Logger :=
  calls.foldl configured l

/-- What calls leave of a logger that was not configured before: nothing has happened, or the level
is that of the last call that is not refused, and there is one handler. -/
inductive LeftBy : List (Option Value) → Logger → Prop where
  | untouched {calls : List (Option Value)} (refused : ∀ call ∈ calls, Refused call) :
      LeftBy calls ⟨0, 0, false⟩
  | set {before later : List (Option Value)} {call : Option Value} {n : Int}
      (standsFor : StandsFor call n) (refused : ∀ call' ∈ later, Refused call') :
      LeftBy (before ++ call :: later) ⟨n, 1, true⟩

/-- The logger has no handler, or its own one. -/
def HasOwnHandler (l : Logger) : Prop :=
  l.handlers = if l.installed then 1 else 0

/-- A refused call changes nothing. -/
theorem configured_of_refused (refused : Refused call) : l.configured call = l := by
  obtain ⟨given, rfl, -⟩ := id refused
  rw [configured, configure_of_refused refused]

theorem configured_of_standsFor (standsFor : StandsFor call n) :
    l.configured call = l.leveled n := by
  rw [configured, configure_of_standsFor standsFor]

/-- There is one handler afterwards, whether it was there before or not. -/
theorem leveled_of_hasOwnHandler (own : HasOwnHandler l) (n : Int) :
    l.leveled n = ⟨n, 1, true⟩ := by
  rw [HasOwnHandler] at own
  rw [leveled]
  cases installed : l.installed <;> simp [own, installed]

theorem hasOwnHandler_fresh : HasOwnHandler fresh :=
  Eq.refl 0

/-- One call installs no second handler. -/
theorem HasOwnHandler.configured (own : HasOwnHandler l) (call : Option Value) :
    HasOwnHandler (l.configured call) := by
  rcases refused_or_standsFor call with refused | ⟨n, standsFor⟩
  · rwa [configured_of_refused refused]
  · rw [configured_of_standsFor standsFor, leveled_of_hasOwnHandler own]
    rfl

/-- No calls install a second handler. -/
theorem HasOwnHandler.configuredBy (own : HasOwnHandler l) (calls : List (Option Value)) :
    HasOwnHandler (l.configuredBy calls) := by
  induction calls generalizing l with
  | nil => exact own
  | cons call rest ih => exact ih (own.configured call)

theorem configuredBy_of_refused {calls : List (Option Value)}
    (refused : ∀ call ∈ calls, Refused call) : l.configuredBy calls = l := by
  induction calls with
  | nil => rfl
  | cons call rest ih =>
    rw [List.forall_mem_cons] at refused
    rw [configuredBy, List.foldl_cons, configured_of_refused refused.1]
    exact ih refused.2

/-- The logger that calls leave is the one that is specified. -/
theorem configuredBy_of_leftBy {calls : List (Option Value)} (left : LeftBy calls l) :
    fresh.configuredBy calls = l := by
  cases left with
  | untouched refused => exact configuredBy_of_refused refused
  | @set before later call n standsFor refused =>
    -- Whatever the earlier calls did, there is one handler after the one that counts.
    have own : HasOwnHandler (fresh.configuredBy before) :=
      hasOwnHandler_fresh.configuredBy before
    rw [configuredBy, List.foldl_append, List.foldl_cons]
    change ((fresh.configuredBy before).configured call).configuredBy later = _
    rw [configuredBy_of_refused refused, configured_of_standsFor standsFor,
      leveled_of_hasOwnHandler own]

/-- All calls are refused, or there is a last one that is not. -/
theorem exists_leftBy (calls : List (Option Value)) : ∃ l, LeftBy calls l := by
  induction calls with
  | nil => exact ⟨_, .untouched nofun⟩
  | cons call rest ih =>
    -- A call in front counts only if all the others are refused.
    obtain ⟨l, left⟩ := ih
    cases left with
    | @set before later call' n standsFor refused =>
      rw [← List.cons_append]
      exact ⟨_, .set standsFor refused⟩
    | untouched refused =>
      rcases refused_or_standsFor call with first | ⟨n, standsFor⟩
      · exact ⟨_, .untouched (List.forall_mem_cons.mpr ⟨first, refused⟩)⟩
      · rw [← List.nil_append (call :: rest)]
        exact ⟨_, .set standsFor refused⟩

/-- A refused call in front installs no handler, and one at the end does not lose the level. -/
example : fresh.configuredBy [some .null, some (.text "debug"), some (.list [])] =
    ⟨10, 1, true⟩ := by
  decide +kernel

/-- A list with an integer that is too long is refused, but not because of its kind. -/
example : (LevelError.ofValue (.list [.int Value.longInteger])).kind = "ValueError" := by
  decide +kernel

end AccessNotices.Logger
