import AccessNotices.Proofs.Settings
import AccessNotices.Proofs.Text.Blank
/-!
What the settings of the store are resolved to.

The address is that of the environment if it has one, else that of the section; the sizes are
integers, which have defaults where the section does not mention them; everything else in the
section is kept as it is (`Resolves`). Settings that are resolved are a section themselves, and come
to nothing new when they are resolved again (`Resolves.again`). Main statement:
`DatabaseSettings.resolved_exactly`.
-/

namespace AccessNotices

open Text

namespace DatabaseSettings

/-- The value that an environment and a section have for the address. An environment with a text
that is not empty counts, whatever the section says. -/
inductive GivesAddress (part : List (Value × Value)) : Option String → Value → Prop where
  | environment {e u : String} (given : e ≠ "") (trims : Trims isBlank e.toList u.toList) :
      GivesAddress part (some e) (.text u)
  | part {environment : Option String} {v : Value} (nothing : environment.getD "" = "")
      (here : Value.field? part "url" = some v) : GivesAddress part environment v

/-- The integer that a section has for a size: that of its value, or the default if there is no
value. -/
inductive GivesSize (part : List (Value × Value)) (key : String) (default : Int) : Int → Prop where
  | given {v : Value} {n : Int} (here : Value.field? part key = some v)
      (integer : v.toInteger = .ok n) : GivesSize part key default n
  | default (missing : Value.field? part key = none) : GivesSize part key default default

/-- The entries of a section under keys that have no meaning. -/
def othersOf (part : List (Value × Value)) : List (Value × Value) :=
  part.filter fun e => !knownKeys.any fun key => e.1.isKey key

/-- The settings are what a section comes to in an environment. -/
structure Resolves (part : List (Value × Value)) (environment : Option String)
    (s : DatabaseSettings) : Prop where
  url : GivesAddress part environment s.url
  url_truthy : s.url.isTruthy = true
  poolSize : GivesSize part "pool_size" 5 s.poolSize
  maxOverflow : GivesSize part "max_overflow" 0 s.maxOverflow
  poolTimeout : GivesSize part "pool_timeout_seconds" 30 s.poolTimeout
  echo : s.echo = true ↔ ∃ v, Value.field? part "echo" = some v ∧ v.isTruthy = true
  others : s.others = othersOf part

variable {part : List (Value × Value)} {environment : Option String} {s : DatabaseSettings}
  {key : String} {default n : Int} {v : Value}

/-! ### Readers -/

/-- An integer is read exactly when the part gives it. -/
theorem integerOf_eq_ok_iff_givesSize :
    integerOf part key default = .ok n ↔ GivesSize part key default n := by
  rw [integerOf_eq_ok_iff, given]
  constructor
  · intro integer
    cases here : Value.field? part key with
    | some v =>
      rw [here] at integer
      exact .given here integer
    | none =>
      rw [here] at integer
      cases integer
      exact .default here
  · intro gives
    cases gives with
    | given here integer =>
      rw [here]
      exact integer
    | default missing =>
      rw [missing]
      rfl

/-- Trimming takes away blanks at the two ends and nothing else. -/
theorem trimmed_eq_iff {e u : String} : trimmed e = u ↔ Trims isBlank e.toList u.toList := by
  rw [← trimBy_eq_iff, trimmed, trim, ← String.toList_inj, String.toList_ofList]

/-- The address that is read is the one that is given, unless it stands for nothing. -/
theorem urlOf_eq_iff (truthy : v.isTruthy = true) :
    urlOf part environment = v ↔ GivesAddress part environment v := by
  -- A missing address is read as a null, which stands for nothing and so is not `v`.
  have here : (Value.field? part "url").getD .null = v ↔ Value.field? part "url" = some v := by
    cases Value.field? part "url" with
    | some u => simp
    | none =>
      constructor
      · rintro rfl
        cases truthy
      · nofun
  constructor
  · intro address
    unfold urlOf at address
    split at address
    case h_1 e =>
      split at address
      case isTrue empty => exact .part (String.isEmpty_iff.mp empty) (here.mp address)
      case isFalse some =>
        subst address
        exact .environment (fun empty => some (String.isEmpty_iff.mpr empty)) (trimmed_eq_iff.mp rfl)
    case h_2 => exact .part rfl (here.mp address)
  · intro gives
    cases gives with
    | @environment e u some trims =>
      have notEmpty : e.isEmpty = false := by simpa using some
      rw [urlOf, notEmpty, trimmed_eq_iff.mpr trims]
      rfl
    | part nothing found =>
      cases environment with
      | none => exact here.mpr found
      | some e =>
        cases nothing
        exact here.mpr found

theorem isTruthy_of_echo {echo : Bool} :
    ((Value.field? part "echo").getD (.bool false)).isTruthy = echo ↔
      (echo = true ↔ ∃ v, Value.field? part "echo" = some v ∧ v.isTruthy = true) := by
  cases Value.field? part "echo" <;> cases echo <;> simp [Value.isTruthy]

/-- The settings of a section are what it resolves to. -/
theorem ofEntries_eq_ok_iff_resolves :
    ofEntries part environment = .ok s ↔ Resolves part environment s := by
  unfold ofEntries
  dsimp only
  constructor
  · intro read
    split at read
    case isTrue truthy =>
      simp only [bind_eq_ok_iff, integerOf_eq_ok_iff_givesSize] at read
      obtain ⟨poolSize, first, maxOverflow, second, poolTimeout, third, same⟩ := read
      cases same
      exact ⟨(urlOf_eq_iff truthy).mp rfl, truthy, first, second, third, isTruthy_of_echo.mp rfl,
        rfl⟩
    case isFalse => cases read
  · rintro ⟨url, truthy, poolSize, maxOverflow, poolTimeout, echo, others⟩
    rw [(urlOf_eq_iff truthy).mpr url, if_pos truthy]
    simp only [bind_eq_ok_iff, integerOf_eq_ok_iff_givesSize]
    refine ⟨_, poolSize, _, maxOverflow, _, poolTimeout, ?_⟩
    rw [isTruthy_of_echo.mpr echo, ← othersOf, ← others]

/-! ### Resolving again -/

/-- The entries of the settings under the keys that have a meaning. -/
def knownEntries (s : DatabaseSettings) : List (Value × Value) :=
  [(.text "url", s.url), (.text "pool_size", .int s.poolSize),
    (.text "max_overflow", .int s.maxOverflow),
    (.text "pool_timeout_seconds", .int s.poolTimeout), (.text "echo", .bool s.echo)]

theorem toValue_eq (s : DatabaseSettings) : s.toValue = .map (s.knownEntries ++ s.others) :=
  rfl

/-- The known settings come in their order. -/
theorem keys_knownEntries (s : DatabaseSettings) :
    s.knownEntries.map Prod.fst = knownKeys.map Value.text :=
  rfl

/-- What is not known is not known a second time either. -/
theorem othersOf_othersOf (part : List (Value × Value)) :
    othersOf (othersOf part) = othersOf part := by
  rw [othersOf, othersOf, List.filter_filter]
  simp only [Bool.and_self]

theorem othersOf_append_others (s : DatabaseSettings) :
    othersOf (s.knownEntries ++ s.others) = othersOf s.others := by
  rw [othersOf, List.filter_append]
  rfl

/-- An address is given again by a section that has it. -/
theorem GivesAddress.again {part' : List (Value × Value)}
    (gives : GivesAddress part environment v) (here : Value.field? part' "url" = some v) :
    GivesAddress part' environment v := by
  cases gives with
  | environment given trims => exact .environment given trims
  | part nothing _ => exact .part nothing here

/-- Settings that are resolved are what they come to as a section. -/
theorem Resolves.again (resolves : Resolves part environment s) :
    Resolves (s.knownEntries ++ s.others) environment s where
  url := resolves.url.again rfl
  url_truthy := resolves.url_truthy
  poolSize := .given rfl rfl
  maxOverflow := .given rfl rfl
  poolTimeout := .given rfl rfl
  echo := isTruthy_of_echo.mp rfl
  others := by
    rw [othersOf_append_others, resolves.others, othersOf_othersOf]

/-! ### Configurations -/

/-- A configuration, or what counts as an empty one, has a part for the store that counts as a
mapping. -/
def HasPart (config : Value) (part : List (Value × Value)) : Prop :=
  ∃ sections, sectionEntries? config = some sections ∧
    sectionEntries? (partOf sections "database") = some part

theorem configSection_eq_ok_iff {config : Value} {name : String} :
    configSection config name = .ok v ↔
      ∃ sections, sectionEntries? config = some sections ∧ partOf sections name = v := by
  unfold configSection partOf
  cases sectionEntries? config <;> simp

/-- **Settings are read** exactly when a part resolves to them. -/
theorem ofConfig_eq_ok_iff {config : Value} :
    ofConfig config environment = .ok s ↔
      ∃ part, HasPart config part ∧ Resolves part environment s := by
  simp only [ofConfig, bind_eq_ok_iff, configSection_eq_ok_iff, HasPart,
    ← ofEntries_eq_ok_iff_resolves]
  constructor
  · rintro ⟨v, ⟨sections, whole, rfl⟩, read⟩
    split at read
    case h_1 part here => exact ⟨part, ⟨sections, whole, here⟩, read⟩
    case h_2 => cases read
  · rintro ⟨part, ⟨sections, whole, here⟩, read⟩
    refine ⟨_, ⟨sections, whole, rfl⟩, ?_⟩
    rw [here]
    exact read

/-- A null is no integer, and a key that has it is not missing. -/
theorem not_givesSize_of_null (null : Value.field? part key = some .null) :
    ¬ GivesSize part key default n := by
  intro gives
  cases gives with
  | given here integer =>
    cases null.symm.trans here
    cases integer
  | default missing => cases null.symm.trans missing

/-! ### Main statement -/

/-- **Resolving settings.** What a configuration gives is exactly what its part for the store
resolves to: an address that stands for something, three integers, a truth value, and whatever else
the part holds. Written as a section, the settings have the five known keys first and then the other
entries as they were. Resolved in the same environment again, they are the same; and there are none
for a part that has a null for a size. -/
theorem resolved_exactly (environment : Option String) :
    (∀ (config : Value) (s : DatabaseSettings), ofConfig config environment = .ok s ↔
      ∃ part, HasPart config part ∧ Resolves part environment s) ∧
    (∀ s : DatabaseSettings, ∃ known, s.toValue = .map (known ++ s.others) ∧
      known.map Prod.fst = knownKeys.map Value.text ∧
      known.map Prod.snd = [s.url, .int s.poolSize, .int s.maxOverflow, .int s.poolTimeout,
        .bool s.echo]) ∧
    (∀ (config : Value) (s : DatabaseSettings), ofConfig config environment = .ok s →
      ofConfig (.map [(.text "database", s.toValue)]) environment = .ok s) ∧
    ∀ (config : Value) (part : List (Value × Value)), HasPart config part →
      (∃ key ∈ integerKeys, Value.field? part key.1 = some .null) →
      ∀ s, ofConfig config environment ≠ .ok s := by
  refine ⟨fun config s => ofConfig_eq_ok_iff, ?_, ?_, ?_⟩
  · exact fun s => ⟨s.knownEntries, s.toValue_eq, s.keys_knownEntries, rfl⟩
  · intro config s resolved
    obtain ⟨part, -, resolves⟩ := ofConfig_eq_ok_iff.mp resolved
    exact ofConfig_eq_ok_iff.mpr ⟨_, ⟨_, rfl, rfl⟩, resolves.again⟩
  · rintro config part ⟨sections, whole, here⟩ ⟨key, mem, null⟩ s resolved
    obtain ⟨part', ⟨sections', whole', here'⟩, resolves⟩ := ofConfig_eq_ok_iff.mp resolved
    cases whole.symm.trans whole'
    cases here.symm.trans here'
    simp only [integerKeys, List.mem_cons, List.not_mem_nil, or_false] at mem
    rcases mem with rfl | rfl | rfl
    · exact not_givesSize_of_null null resolves.poolSize
    · exact not_givesSize_of_null null resolves.maxOverflow
    · exact not_givesSize_of_null null resolves.poolTimeout

/-- A configuration with a given size of the pool, a text for a truth value, a key without a
meaning, and no address. -/
def sizedConfig (size : Value) : Value :=
  .map [(.text "database", .map [(.text "driver", .null), (.text "echo", .text "no"),
    (.text "pool_size", size)])]

/-- A numeral for the size is resolved in an environment with an address; a null is not. -/
theorem resolved_of_numeral :
    ∃ s, ofConfig (sizedConfig (.text " 7 ")) (some " u ") = .ok s ∧ s.url = .text "u" ∧
      s.poolSize = 7 ∧ s.poolTimeout = 30 ∧ s.echo = true ∧ s.others = [(.text "driver", .null)] ∧
      ofConfig (.map [(.text "database", s.toValue)]) (some " u ") = .ok s ∧
      ofConfig (sizedConfig .null) (some " u ") ≠ .ok s := by
  obtain ⟨exactly, -, again, noNull⟩ := resolved_exactly (some " u ")
  have resolved : ofConfig (sizedConfig (.text " 7 ")) (some " u ") =
      .ok ⟨.text "u", 7, 0, 30, true, [(.text "driver", .null)]⟩ := by
    refine (exactly _ _).mpr ⟨_, ⟨_, rfl, rfl⟩, ?_⟩
    exact {
      url := .environment (by decide) (trimBy_eq_iff.mp (by decide))
      url_truthy := rfl
      poolSize := .given rfl (by decide)
      maxOverflow := .default rfl
      poolTimeout := .default rfl
      echo := iff_of_true rfl ⟨_, rfl, rfl⟩
      others := rfl }
  exact ⟨_, resolved, rfl, rfl, rfl, rfl, rfl, again _ _ resolved,
    noNull _ _ ⟨_, rfl, rfl⟩ ⟨("pool_size", 5), by decide, rfl⟩ _⟩

end DatabaseSettings

end AccessNotices
