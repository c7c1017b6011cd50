import Mathlib
import AccessNotices.Config
import AccessNotices.Proofs.Traversal
/-!
Which mistakes in a configuration are reported as such.

A reader of settings is meant to give a result or to say what is wrong. Four kinds of mistakes slip
through: an infinite number where an integer should be, an integer too long to be written in
something that should be written, keys of statements that are not even texts, and a section for the
log that is no mapping. Main statement: `reported_iff`, with the exact condition for each of the
three readers.
-/

namespace AccessNotices

/-- A reader of settings gives a result, or says what is wrong with the configuration. -/
def Reported {α : Type} (x : Except SettingsError α) : Prop :=
  (∃ a, x = .ok a) ∨ ∃ p, x = .error (.problem p)

section Reported

variable {α β : Type}

theorem reported_ok (a : α) : Reported (.ok a) :=
  .inl ⟨a, rfl⟩

theorem reported_problem (p : ConfigProblem) : Reported (.error (.problem p) : Except _ α) :=
  .inr ⟨p, rfl⟩

/-- Any error but a problem with the configuration is not reported. -/
theorem not_reported_of_error {e : SettingsError} (other : ∀ p, e ≠ .problem p) :
    ¬ Reported (.error e : Except _ α) := by
  rintro (⟨a, same⟩ | ⟨p, same⟩)
  · cases same
  · exact other p (Except.error.inj same)

/-- Readers one after another report what is wrong if each of them that is reached does. -/
theorem reported_bind_iff {x : Except SettingsError α} {next : α → Except SettingsError β} :
    Reported (x >>= next) ↔ Reported x ∧ ∀ a, x = .ok a → Reported (next a) := by
  cases x with
  | ok a => simp [bind, Except.bind, reported_ok]
  | error e => simp [bind, Except.bind, Reported]

end Reported

/-! ### Integers -/

namespace Value

/-- The value is an infinite number. -/
inductive IsInfinite : Value → Prop where
  | float (negative : Bool) : IsInfinite (.float (.infinite negative))
  | decimal (negative : Bool) : IsInfinite (.decimal (.infinite negative))

/-- The value is no integer, and it is not said that it is none: it is infinite, or it holds an
integer that is too long to be written. -/
def DefiesReport (v : Value) : Prop :=
  v.IsInfinite ∨ v.toInteger = .error .unsuited ∧ v.isWritable = false

/-- A numeral is never infinite. -/
theorem ofNumeral_ne_infinite (s : List Char) : toInteger.ofNumeral s ≠ .error .infiniteFloat ∧
    toInteger.ofNumeral s ≠ .error .infiniteDecimal := by
  unfold toInteger.ofNumeral
  cases Number.readDecimal? s <;> exact ⟨nofun, nofun⟩

/-- The infinite numbers are the ones that have no integer for that reason. -/
theorem isInfinite_iff (v : Value) : v.IsInfinite ↔
    v.toInteger = .error .infiniteFloat ∨ v.toInteger = .error .infiniteDecimal := by
  constructor
  · rintro (negative | negative)
    · exact .inl rfl
    · exact .inr rfl
  · intro infinite
    cases v with
    | float x =>
      cases x with
      | infinite negative => exact .float negative
      | finite x => rcases infinite with same | same <;> cases same
      | nan => rcases infinite with same | same <;> cases same
    | decimal d =>
      cases d with
      | infinite negative => exact .decimal negative
      | finite => rcases infinite with same | same <;> cases same
      | nan => rcases infinite with same | same <;> cases same
    | text s =>
      have numeral := ofNumeral_ne_infinite s.toList
      exact absurd infinite (not_or.mpr numeral)
    | bytes b =>
      rw [toInteger] at infinite
      split at infinite
      · exact absurd infinite (not_or.mpr (ofNumeral_ne_infinite _))
      · rcases infinite with same | same <;> cases same
    | _ => rcases infinite with same | same <;> cases same

/-- A value that has an integer can be dealt with. -/
theorem not_defiesReport_of_ok {v : Value} {n : Int} (integer : v.toInteger = .ok n) :
    ¬ v.DefiesReport := by
  simp [DefiesReport, isInfinite_iff, integer]

end Value

namespace DatabaseSettings

/-- The settings that should be integers, with what counts where they are missing. -/
def integerKeys : List (String × Int) :=
  [("pool_size", 5), ("max_overflow", 0), ("pool_timeout_seconds", 30)]

/-- What a section gives for a setting that should be an integer. -/
def given (entries : List (Value × Value)) (key : String × Int) : Value :=
  (Value.field? entries key.1).getD (.int key.2)

/-- The first setting that should be an integer and is none. -/
def stray? (entries : List (Value × Value)) : Option Value :=
  (integerKeys.map (given entries)).find? fun v => v.toInteger.toOption.isNone

/-- A setting for an integer is the integer of what is given for it. -/
theorem integerOf_eq_ok_iff (entries : List (Value × Value)) (key : String) (default n : Int) :
    integerOf entries key default = .ok n ↔ (given entries (key, default)).toInteger = .ok n := by
  rw [integerOf, given]
  cases ((Value.field? entries key).getD (.int default)).toInteger with
  | ok m => simp
  | error e =>
    cases e with
    | unsuited =>
      simp only
      split <;> simp
    | infiniteFloat => simp
    | infiniteDecimal => simp

/-- What is wrong with a setting is reported unless its value defies that. -/
theorem reported_integerOf_iff (entries : List (Value × Value)) (key : String) (default : Int) :
    Reported (integerOf entries key default) ↔ ¬ (given entries (key, default)).DefiesReport := by
  rw [integerOf, Value.DefiesReport, Value.isInfinite_iff, given]
  generalize (Value.field? entries key).getD (.int default) = v
  cases found : v.toInteger with
  | ok n => simp [reported_ok]
  | error e =>
    cases e with
    | infiniteFloat => simp [not_reported_of_error]
    | infiniteDecimal => simp [not_reported_of_error]
    | unsuited =>
      cases writable : v.isWritable with
      | true => simp [reported_problem]
      | false => simp [not_reported_of_error]

theorem reported_ofEntries_iff (entries : List (Value × Value)) (environment : Option String) :
    Reported (ofEntries entries environment) ↔
      ((urlOf entries environment).isTruthy = true →
        ∀ v, stray? entries = some v → ¬ v.DefiesReport) := by
  rw [ofEntries]
  cases truthy : (urlOf entries environment).isTruthy with
  | false => simp [reported_problem]
  | true =>
    simp only [if_true, true_implies, reported_bind_iff, reported_integerOf_iff,
      integerOf_eq_ok_iff, reported_ok, implies_true, and_true, stray?, integerKeys, List.map_cons,
      List.map_nil]
    cases first : (given entries ("pool_size", 5)).toInteger with
    | error e => simp [first, Except.toOption]
    | ok n =>
      have firstTold := Value.not_defiesReport_of_ok first
      cases second : (given entries ("max_overflow", 0)).toInteger with
      | error e => simp [first, firstTold, second, Except.toOption]
      | ok n =>
        have secondTold := Value.not_defiesReport_of_ok second
        cases third : (given entries ("pool_timeout_seconds", 30)).toInteger with
        | error e => simp [first, firstTold, second, secondTold, third, Except.toOption]
        | ok n =>
          have thirdTold := Value.not_defiesReport_of_ok third
          simp [first, firstTold, second, secondTold, third, thirdTold, Except.toOption]

end DatabaseSettings

/-! ### Statements -/

theorem Value.exists_asText?_iff (v : Value) :
    (∃ s, v.asText? = some s) ↔ ∃ t, v.asAnyText? = some t := by
  simp [Value.asText?]

namespace Statements

/-- What is wrong with a statement is always reported. -/
theorem reported_statementFor (entries : List (Value × Value)) (selector : Selector) :
    Reported (statementFor entries selector) := by
  unfold statementFor
  split
  · exact reported_ok _
  · exact reported_ok _
  · split
    · split
      · exact reported_problem _
      · exact reported_ok _
    · exact reported_problem _

/-- Keys that are no selectors are reported exactly when all of them are texts. -/
theorem reported_checkKeys_iff (entries : List (Value × Value)) :
    Reported (checkKeys entries) ↔
      ∀ key ∈ unknownKeys entries, ∃ name, key.asText? = some name := by
  simp only [Value.exists_asText?_iff]
  rw [checkKeys, ← exists_mapM_eq_some_iff]
  cases unknownKeys entries with
  | nil => simp [reported_ok]
  | cons key rest =>
    simp only
    generalize (key :: rest).mapM Value.asAnyText? = names
    cases names with
    | none => simp [not_reported_of_error]
    | some names => simp [reported_problem]

theorem reported_ofEntries_iff (entries : List (Value × Value)) :
    Reported (ofEntries entries) ↔
      ((∀ selector, ∃ statement, statementFor entries selector = .ok statement) →
        ∀ key ∈ unknownKeys entries, ∃ name, key.asText? = some name) := by
  have all : (∀ selector, ∃ statement, statementFor entries selector = .ok statement) ↔
      (∃ statement, statementFor entries .consumerNotifications = .ok statement) ∧
        ∃ statement, statementFor entries .providerNotifications = .ok statement := by
    constructor
    · exact fun each => ⟨each _, each _⟩
    · rintro ⟨consumer, provider⟩ (_ | _)
      · exact consumer
      · exact provider
  rw [ofEntries, all]
  simp only [reported_bind_iff, reported_statementFor, reported_checkKeys_iff, reported_ok,
    implies_true, and_true, true_and]
  constructor
  · rintro keys ⟨⟨consumer, ok⟩, ⟨provider, ok'⟩⟩
    exact keys consumer ok provider ok'
  · intro keys consumer ok provider ok'
    exact keys ⟨⟨consumer, ok⟩, ⟨provider, ok'⟩⟩

end Statements

/-! ### Configurations -/

/-- A part of a configuration; null if there is none. -/
def partOf (entries : List (Value × Value)) (name : String) : Value :=
  (Value.field? entries name).getD .null

@[simp] theorem configSection_map (entries : List (Value × Value)) (name : String) :
    configSection (.map entries) name = .ok (partOf entries name) :=
  rfl

/-- A level is reported on exactly when its part is a mapping and it can be written. -/
theorem reported_level_iff (entries : List (Value × Value)) :
    Reported (loggingLevel (.map entries)) ↔
      ∃ part, sectionEntries? (partOf entries "logging") = some part ∧
        ((Value.field? part "level").getD (.text Logger.defaultName)).isWritable = true := by
  simp only [loggingLevel, configSection_map, reported_bind_iff, reported_ok, true_and,
    Except.ok.injEq, forall_eq']
  cases sectionEntries? (partOf entries "logging") with
  | none => simp [not_reported_of_error]
  | some part =>
    simp only [Option.some.injEq, exists_eq_left']
    split
    case isTrue writable => simp [reported_ok, writable]
    case isFalse unwritable => simp [not_reported_of_error, unwritable]

/-- **What is reported.** Of a configuration, and with any address in the environment:

* the section of the store gives settings or a problem, unless it counts as a mapping, there is an
  address, and the first setting that should be an integer and is none is infinite or holds an
  integer that is too long to be written;
* the statements are given or there is a problem, unless the section counts as a mapping, what it
  gives for the selectors are statements, and one of its other keys is no text;
* there is a level for the log exactly if its section counts as a mapping and the level holds no
  integer that is too long; if not, no problem is reported either. -/
theorem reported_iff (entries : List (Value × Value)) (environment : Option String) :
    (Reported (DatabaseSettings.ofConfig (.map entries) environment) ↔
      ∀ part, sectionEntries? (partOf entries "database") = some part →
        (DatabaseSettings.urlOf part environment).isTruthy = true →
        ∀ v, DatabaseSettings.stray? part = some v → ¬ v.DefiesReport) ∧
    (Reported (Statements.ofConfig (.map entries)) ↔
      ∀ part, sectionEntries? (partOf entries "queries") = some part →
        (∀ selector, ∃ statement, Statements.statementFor part selector = .ok statement) →
        ∀ key ∈ Statements.unknownKeys part, ∃ name, key.asText? = some name) ∧
    (Reported (loggingLevel (.map entries)) ↔
      ∃ part, sectionEntries? (partOf entries "logging") = some part ∧
        ((Value.field? part "level").getD (.text Logger.defaultName)).isWritable = true) := by
  refine ⟨?_, ?_, reported_level_iff entries⟩
  · simp only [DatabaseSettings.ofConfig, configSection_map, reported_bind_iff, reported_ok,
      true_and, Except.ok.injEq, forall_eq']
    cases sectionEntries? (partOf entries "database") with
    | none => simp [reported_problem]
    | some part => simp [DatabaseSettings.reported_ofEntries_iff]
  · simp only [Statements.ofConfig, configSection_map, reported_bind_iff, reported_ok, true_and,
      Except.ok.injEq, forall_eq']
    cases sectionEntries? (partOf entries "queries") with
    | none => simp [reported_problem]
    | some part => simp [Statements.reported_ofEntries_iff]

/-- The bytes of a file with three mistakes, none of which is reported: an infinite number of
connections, a text in place of the section for the log, and a number in place of a selector. -/
def mistakenFile : List UInt8 :=
  "database:\n url: u\n pool_size: .inf\nlogging: a\nqueries:\n 1: s".toList.map (·.toNat.toUInt8)

/-- The mapping in that file. -/
def mistakenEntries : List (Value × Value) :=
  [(.text "database",
     .map [(.text "url", .text "u"), (.text "pool_size", .float (.infinite false))]),
   (.text "logging", .text "a"),
   (.text "queries", .map [(.int 1, .text "s")])]

/-- No reader of this file gives a result or says what is wrong with it. -/
theorem mistakenFile_not_reported :
    Config.load "c.yaml" (.file mistakenFile) = .ok (.map mistakenEntries) ∧
      ¬ Reported (DatabaseSettings.ofConfig (.map mistakenEntries) none) ∧
      ¬ Reported (Statements.ofConfig (.map mistakenEntries)) ∧
      ¬ Reported (loggingLevel (.map mistakenEntries)) := by
  obtain ⟨database, queries, logging⟩ := reported_iff mistakenEntries none
  refine ⟨by cbv, fun told => ?_, fun told => ?_, fun told => ?_⟩
  · exact database.mp told _ rfl rfl (.float (.infinite false)) rfl (.inl (.float false))
  · obtain ⟨name, text⟩ := queries.mp told _ rfl (fun selector => ⟨none, by cases selector <;> rfl⟩)
      (.int 1) List.mem_cons_self
    cases text
  · obtain ⟨part, mapping, -⟩ := logging.mp told
    cases mapping

end AccessNotices
