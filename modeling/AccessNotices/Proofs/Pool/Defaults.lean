import AccessNotices.Proofs.Pool.Redaction
import AccessNotices.Proofs.Settings.Resolution
/-!
Two ways to the plan for a pool.

A pool can be planned from a part of a configuration as it stands, or from the settings that the
part comes to. Defaults and conversions are applied on both ways, and they agree: either way gives
the same plan and logs the same, or fails in the same way. Main statement: `plan_of_resolved`.
-/

namespace AccessNotices

open DatabaseSettings

namespace DatabaseSettings

/-- Whatever a part has for a size is an integer. -/
def HasIntegers (part : List (Value × Value)) : Prop :=
  ∀ key ∈ integerKeys, ∀ v, Value.field? part key.1 = some v → ∃ n, v = .int n

variable {part : List (Value × Value)}

theorem exists_givesSize (integers : HasIntegers part) (key : String × Int)
    (mem : key ∈ integerKeys) : ∃ n, GivesSize part key.1 key.2 n := by
  cases here : Value.field? part key.1 with
  | none => exact ⟨key.2, .default here⟩
  | some v =>
    obtain ⟨n, rfl⟩ := integers key mem v here
    exact ⟨n, .given here rfl⟩

/-- An address that stands for something and integers are all that settings need. -/
theorem exists_resolves {address : Value} (given : Value.field? part "url" = some address)
    (truthy : address.isTruthy = true) (integers : HasIntegers part) :
    ∃ s, Resolves part none s ∧ s.url = address := by
  obtain ⟨poolSize, first⟩ := exists_givesSize integers ("pool_size", 5) (by decide)
  obtain ⟨maxOverflow, second⟩ := exists_givesSize integers ("max_overflow", 0) (by decide)
  obtain ⟨poolTimeout, third⟩ :=
    exists_givesSize integers ("pool_timeout_seconds", 30) (by decide)
  refine ⟨⟨address, poolSize, maxOverflow, poolTimeout,
    ((Value.field? part "echo").getD (.bool false)).isTruthy, othersOf part⟩, ?_, rfl⟩
  exact ⟨.part rfl given, truthy, first, second, third, isTruthy_of_echo.mp rfl, rfl⟩

end DatabaseSettings

/-- A text that is not empty stands for something. -/
theorem Value.isTruthy_of_asText {v : Value} {text : String} (isText : v.asText? = some text)
    (notEmpty : text ≠ "") : v.isTruthy = true := by
  cases v with
  | text s =>
    cases isText
    simpa [isTruthy] using notEmpty
  | codes t => rfl
  | role r => rfl
  | _ => cases isText

namespace Pool

/-- The arguments that say how many connections a pool may have and how they are kept. -/
def sizingNames : List String :=
  ["pool_size", "max_overflow", "pool_timeout", "pool_pre_ping"]

variable {part : List (Value × Value)} {address : Value} {text : String} {s : DatabaseSettings}
  {key : String} {default n : Int}

/-- A size is planned with the integer that it is resolved to. -/
theorem settingD_of_givesSize (gives : GivesSize part key default n)
    (integer : ∀ v, Value.field? part key = some v → ∃ m, v = .int m) :
    settingD part key (.int default) = .int n := by
  rw [settingD]
  cases gives with
  | given here converts =>
    obtain ⟨m, rfl⟩ := integer _ here
    cases converts
    rw [here]
    rfl
  | default missing =>
    rw [missing]
    rfl

/-- A part and its settings are planned for alike: the sizes and the truth value that the settings
have are those that the part is read to have. -/
theorem planFor_resolved {environment : Option String} (resolves : Resolves part environment s)
    (integers : HasIntegers part) :
    planFor (s.knownEntries ++ s.others) address text = planFor part address text := by
  have size (key : String × Int) (mem : key ∈ integerKeys) {n : Int}
      (gives : GivesSize part key.1 key.2 n) : .int n = settingD part key.1 (.int key.2) :=
    (settingD_of_givesSize gives (integers key mem)).symm
  have poolSize := size ("pool_size", 5) (by decide) resolves.poolSize
  have maxOverflow := size ("max_overflow", 0) (by decide) resolves.maxOverflow
  have poolTimeout := size ("pool_timeout_seconds", 30) (by decide) resolves.poolTimeout
  have echo : s.echo = (settingD part "echo" (.bool false)).isTruthy :=
    (isTruthy_of_echo.mpr resolves.echo).symm
  rw [planFor, planFor, poolingFor, poolingFor, ← poolSize, ← maxOverflow, ← poolTimeout, ← echo]
  rfl

/-- The names of the arguments follow from the address alone. -/
theorem names_planFor : (planFor part address text).arguments.map Prod.fst =
    "echo" :: if isEmbedded text.toList then
      if isInMemory text.toList then ["poolclass"] else []
    else sizingNames := by
  rw [PoolPlan.arguments, planFor, poolingFor]
  cases isEmbedded text.toList with
  | false => rfl
  | true => cases isInMemory text.toList <;> rfl

theorem mem_names_iff {name : String} (sizing : name ∈ sizingNames) :
    name ∈ (planFor part address text).arguments.map Prod.fst ↔ ¬ "sqlite".toList <+: text.toList := by
  rw [names_planFor, ← List.isPrefixOf_iff_prefix, ← isEmbedded]
  have notEcho : name ≠ "echo" := by
    rintro rfl
    revert sizing
    decide
  have notClass : name ≠ "poolclass" := by
    rintro rfl
    revert sizing
    decide
  cases isEmbedded text.toList with
  | false => simp [sizing]
  | true => cases isInMemory text.toList <;> simp [notEcho, notClass]

theorem sqlite_of_poolclass
    (mem : "poolclass" ∈ (planFor part address text).arguments.map Prod.fst) :
    "sqlite".toList <+: text.toList := by
  rw [names_planFor] at mem
  rw [← List.isPrefixOf_iff_prefix, ← isEmbedded]
  cases embedded : isEmbedded text.toList with
  | true => rfl
  | false =>
    rw [embedded, if_neg Bool.false_ne_true] at mem
    exact absurd mem (by decide)

/-- What is planned where the store is not embedded: the sizes that the settings have, and a test
before each use. -/
theorem arguments_of_resolved {environment : Option String}
    (resolves : Resolves part environment s) (integers : HasIntegers part)
    (server : ¬ "sqlite".toList <+: text.toList) :
    (planFor part address text).arguments =
      [("echo", .bool s.echo), ("pool_size", .int s.poolSize),
       ("max_overflow", .int s.maxOverflow), ("pool_timeout", .int s.poolTimeout),
       ("pool_pre_ping", .bool true)] := by
  rw [← List.isPrefixOf_iff_prefix, ← isEmbedded] at server
  rw [← planFor_resolved resolves integers, planFor, poolingFor, if_neg server]
  rfl

/-- **Defaults agree.** Take a part of a configuration with a text that is not empty for an address
and integers for the sizes that it mentions, in an environment without an address. It comes to
settings, and to plan a pool for them is to plan one for the part: the plan, what is logged, and the
failure are the same. In a plan that is made, the address is the one given; each of the arguments
that size a pool is there exactly if the address does not begin like one of an embedded store, and
then they are those of the settings; and no class of pools stands beside them. -/
theorem plan_of_resolved (given : Value.field? part "url" = some address)
    (isText : address.asText? = some text) (notEmpty : text ≠ "") (integers : HasIntegers part) :
    ∃ s, ofConfig (.map [(.text "database", .map part)]) none = .ok s ∧
      plan s.toValue = plan (.map part) ∧
      ∀ made entry, plan (.map part) = .ok (made, entry) →
        made.url = address ∧
        (∀ name ∈ sizingNames, name ∈ made.arguments.map Prod.fst ↔
          ¬ "sqlite".toList <+: text.toList) ∧
        (¬ "sqlite".toList <+: text.toList → made.arguments =
          [("echo", .bool s.echo), ("pool_size", .int s.poolSize),
           ("max_overflow", .int s.maxOverflow), ("pool_timeout", .int s.poolTimeout),
           ("pool_pre_ping", .bool true)]) ∧
        ("poolclass" ∈ made.arguments.map Prod.fst →
          ∀ name ∈ sizingNames, name ∉ made.arguments.map Prod.fst) := by
  obtain ⟨s, resolves, url⟩ := exists_resolves given (Value.isTruthy_of_asText isText notEmpty) integers
  have again : Value.field? (s.knownEntries ++ s.others) "url" = some address := by
    rw [← url]
    rfl
  refine ⟨s, ofConfig_eq_ok_iff.mpr ⟨part, ⟨_, rfl, rfl⟩, resolves⟩, ?_, ?_⟩
  · rw [toValue_eq, plan_of_url again isText, plan_of_url given isText,
      planFor_resolved resolves integers]
  · intro made entry planned
    rw [plan_of_url given isText] at planned
    obtain ⟨shown, -, same⟩ := map_eq_ok_iff.mp planned
    cases same
    refine ⟨rfl, fun name => mem_names_iff, arguments_of_resolved resolves integers, ?_⟩
    intro single name sizing mem
    exact (mem_names_iff sizing).mp mem (sqlite_of_poolclass single)

/-- A part with one size, another key, a text for a truth value, and credentials in its address. -/
def serverPart : List (Value × Value) :=
  [(.text "max_overflow", .int 7), (.text "driver", .null), (.text "echo", .text "no"),
   (.text "url", .text "db://u:p@h")]

/-- Such a part and its settings have the same plan, with the other sizes by default. -/
theorem plan_of_serverPart :
    ∃ s made entry, ofConfig (.map [(.text "database", .map serverPart)]) none = .ok s ∧
      plan s.toValue = .ok (made, entry) ∧ plan (.map serverPart) = .ok (made, entry) ∧
      entry.message = "Creating connection pool for db://***@h" ∧
      made.arguments = [("echo", .bool true), ("pool_size", .int 5), ("max_overflow", .int 7),
        ("pool_timeout", .int 30), ("pool_pre_ping", .bool true)] := by
  have integers : HasIntegers serverPart := by
    intro key mem v here
    simp only [integerKeys, List.mem_cons, List.not_mem_nil, or_false] at mem
    rcases mem with rfl | rfl | rfl
    · cases here
    · cases here
      exact ⟨7, rfl⟩
    · cases here
  have given : Value.field? serverPart "url" = some (.text "db://u:p@h") := rfl
  obtain ⟨s, resolved, same, made⟩ := plan_of_resolved given rfl (by decide) integers
  have settings : ofConfig (.map [(.text "database", .map serverPart)]) none =
      .ok ⟨.text "db://u:p@h", 5, 7, 30, true, [(.text "driver", .null)]⟩ := rfl
  cases settings.symm.trans resolved
  have planned : plan (.map serverPart) =
      .ok (⟨.text "db://u:p@h", true, .limited (.int 5) (.int 7) (.int 30)⟩,
        ⟨.debug, .pool, "Creating connection pool for db://***@h"⟩) := rfl
  obtain ⟨-, -, arguments, -⟩ := made _ _ planned
  exact ⟨_, _, _, resolved, same.trans planned, planned, rfl, arguments (by decide)⟩

end Pool

end AccessNotices
