import AccessNotices.Log
import AccessNotices.Statement
import AccessNotices.Text.Case
import AccessNotices.Value.Display
/-!
Settings: what the sections of a configuration come to.

A configuration is a mapping with up to three sections. A section that is missing, null or otherwise
empty counts as an empty mapping. Each reader gives a result or says what is wrong.
-/

namespace AccessNotices

open Text

inductive ConfigProblem where
  /-- The file holds something that is no mapping. -/
  | notMapping (path : String)
  | databaseNotMapping
  | urlMissing
  /-- A setting that should be an integer is none. -/
  | notInteger (key : String) (given : Value)
  | queriesNotMapping
  /-- The statement of a selector is no text, or a blank one. -/
  | blankStatement (selector : Selector)
  /-- There are statements for selectors that do not exist. -/
  | unknownSelectors (names : List AnyText)

namespace ConfigProblem

def message : ConfigProblem → String
  | notMapping path => "Config file must contain a mapping: " ++ path
  | databaseNotMapping => "Config 'database' must be a dictionary"
  | urlMissing => "Database URL is not configured"
  | notInteger key given => "database." ++ key ++ " must be an integer, got " ++ given.literal
  | queriesNotMapping => "'queries' must be a mapping of selector name to SQL"
  | blankStatement selector =>
    "Query override '" ++ selector.text ++ "' must be a non-empty string"
  | unknownSelectors names =>
    "Unknown query overrides: " ++ ", ".intercalate (names.map AnyText.shown)

def hint? : ConfigProblem → Option String
  | urlMissing => some "Set database.url in the config file or APDACL_DATABASE_URL"
  | _ => none

end ConfigProblem

/-- Why a section of a configuration gives no result. -/
inductive SettingsError where
  /-- The configuration can be read, and something in it is wrong. -/
  | problem (p : ConfigProblem)
  /-- A section is asked of something that is no mapping. -/
  | noSections
  /-- Selectors that do not exist are not even texts, so they cannot be listed. -/
  | unnamedSelectors
  /-- An infinite number was given for an integer. -/
  | infinite (decimal : Bool)
  /-- A setting has to be written as a text and holds an integer with too many digits. -/
  | unwritable

def SettingsError.message? : SettingsError → Option String
  | problem p => some p.message
  | infinite decimal =>
    some (if decimal then "cannot convert Infinity to integer"
      else "cannot convert float infinity to integer")
  | unwritable => some (Number.longIntegerText)
  | noSections => none
  | unnamedSelectors => none

/-- The entries of a value that is a mapping or counts as an empty one; nothing for anything
else. -/
def sectionEntries? (v : Value) : Option (List (Value × Value)) :=
  match v with
  | .map entries => some entries
  | v => if v.isTruthy then none else some []

def configSection (config : Value) (name : String) : Except SettingsError Value :=
  match sectionEntries? config with
  | some entries => .ok ((Value.field? entries name).getD .null)
  | none => .error .noSections

namespace Statements

/-- The statement that a section gives for a selector; nothing where it gives none. -/
def statementFor (entries : List (Value × Value)) (selector : Selector) :
    Except SettingsError (Option AnyText) :=
  match Value.field? entries selector.text with
  | none => .ok none
  | some .null => .ok none
  | some v =>
    match v.asAnyText? with
    | some s => if s.isBlank then .error (.problem (.blankStatement selector)) else .ok (some s)
    | none => .error (.problem (.blankStatement selector))

def unknownKeys (entries : List (Value × Value)) : List Value :=
  (entries.map Prod.fst).filter fun k => !Selector.all.any fun selector => k.isKey selector.text

/-- Texts in order of their characters' codes. -/
def sortedTexts (names : List AnyText) : List AnyText :=
  names.mergeSort fun a b => decide (a ≤ b)

/-- Every key is a selector, or the section is refused. -/
def checkKeys (entries : List (Value × Value)) : Except SettingsError Unit :=
  match unknownKeys entries with
  | [] => .ok ()
  | unknown =>
    match unknown.mapM Value.asAnyText? with
    | some names => .error (.problem (.unknownSelectors (sortedTexts names)))
    | none => .error .unnamedSelectors

/-- The statements of a section, with the built-in ones where it gives none. -/
def ofEntries (entries : List (Value × Value)) : Except SettingsError Statements := do
  let consumer ← statementFor entries .consumerNotifications
  let provider ← statementFor entries .providerNotifications
  checkKeys entries
  .ok ⟨consumer.getD builtIn.consumer, provider.getD builtIn.provider⟩

def ofConfig (config : Value) : Except SettingsError Statements := do
  let part ← configSection config "queries"
  match sectionEntries? part with
  | some entries => ofEntries entries
  | none => .error (.problem .queriesNotMapping)

end Statements

/-- The settings of the store: where it is, how many connections there may be, and what else the
section holds. -/
structure DatabaseSettings where
  url : Value
  poolSize : Int
  maxOverflow : Int
  poolTimeout : Int
  echo : Bool
  others : List (Value × Value)

namespace DatabaseSettings

def knownKeys : List String :=
  ["url", "pool_size", "max_overflow", "pool_timeout_seconds", "echo"]

/-- The integer of a key, with a default for a key that is missing. -/
def integerOf (entries : List (Value × Value)) (key : String) (default : Int) :
    Except SettingsError Int :=
  let given := (Value.field? entries key).getD (.int default)
  match given.toInteger with
  | .ok n => .ok n
  | .error .unsuited =>
    if given.isWritable then .error (.problem (.notInteger key given)) else .error .unwritable
  | .error .infiniteFloat => .error (.infinite false)
  | .error .infiniteDecimal => .error (.infinite true)

/-- The address of the store: of the environment if it gives one, else of the section. -/
def urlOf (entries : List (Value × Value)) (environment : Option String) : Value :=
  match environment with
  | some s => if s.isEmpty then (Value.field? entries "url").getD .null else .text (trimmed s)
  | none => (Value.field? entries "url").getD .null

def ofEntries (entries : List (Value × Value)) (environment : Option String) :
    Except SettingsError DatabaseSettings := do
  let url := urlOf entries environment
  if url.isTruthy then
    let poolSize ← integerOf entries "pool_size" 5
    let maxOverflow ← integerOf entries "max_overflow" 0
    let poolTimeout ← integerOf entries "pool_timeout_seconds" 30
    let echo := ((Value.field? entries "echo").getD (.bool false)).isTruthy
    let others := entries.filter fun e => !knownKeys.any fun key => e.1.isKey key
    .ok ⟨url, poolSize, maxOverflow, poolTimeout, echo, others⟩
  else .error (.problem .urlMissing)

def ofConfig (config : Value) (environment : Option String) :
    Except SettingsError DatabaseSettings := do
  let part ← configSection config "database"
  match sectionEntries? part with
  | some entries => ofEntries entries environment
  | none => .error (.problem .databaseNotMapping)

/-- The settings as a section: the known keys first, then the others in their order. -/
def toValue (s : DatabaseSettings) : Value :=
  .map
    ([(.text "url", s.url), (.text "pool_size", .int s.poolSize),
      (.text "max_overflow", .int s.maxOverflow),
      (.text "pool_timeout_seconds", .int s.poolTimeout), (.text "echo", .bool s.echo)] ++
      s.others)

end DatabaseSettings

/-- The level of the log that a configuration asks for, as a name in upper case. -/
def loggingLevel (config : Value) : Except SettingsError String := do
  let part ← configSection config "logging"
  match sectionEntries? part with
  | some entries =>
    let level := (Value.field? entries "level").getD (.text Logger.defaultName)
    if level.isWritable then .ok (uppered level.display) else .error .unwritable
  | none => .error .noSections

end AccessNotices
