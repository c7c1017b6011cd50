import AccessNotices.Proofs.Log.Configuration
import AccessNotices.Proofs.Text.Upper
import AccessNotices.Proofs.Value.Form
import AccessNotices.Settings
/-!
The level of the log that a configuration asks for.

What a configuration has for a level is put into upper case before the logger is configured with it,
which puts it into upper case again, to the same effect (`levelNamed_uppered`). But it is also made
a text, and the text of an integer names no level (`levelNamed_intString`): a number in a
configuration does not have the effect that it has when the logger is given it. Main statement:
`level_of_part_agrees_iff`.
-/

namespace AccessNotices

open Text Number

/-! ### Names of levels -/

/-- A text holds no integer that would be too long. -/
theorem Value.isWritable_of_asText {v : Value} {s : String} (isText : v.asText? = some s) :
    v.isWritable = true := by
  cases v with
  | text t => rfl
  | codes cs => rfl
  | role r => rfl
  | _ => cases isText

namespace Number

/-- A character of an integer's text: a digit or a hyphen. -/
def isNumeral (c : Char) : Bool :=
  c.isDigit || c == '-'

theorem isNumeral_of_mem_intText {n : Int} {c : Char} (mem : c ∈ intText n) :
    isNumeral c = true := by
  have digits (m : Nat) (inside : c ∈ natText m) : isNumeral c = true := by
    rw [isNumeral, Nat.isDigit_of_mem_toDigits (by decide) (by decide) inside, Bool.true_or]
  cases n with
  | ofNat m => exact digits m mem
  | negSucc m =>
    rcases List.mem_cons.mp mem with rfl | inside
    · rfl
    · exact digits (m + 1) inside

/-- In upper case such a character stays. -/
theorem upperChar_of_isNumeral {c : Char} (numeral : isNumeral c = true) : upperChar c = [c] := by
  have ascii : isAscii c = true := by
    rw [isNumeral, Bool.or_eq_true, beq_iff_eq] at numeral
    rcases numeral with digit | rfl
    · rw [Char.isDigit, Bool.and_eq_true, decide_eq_true_eq, decide_eq_true_eq] at digit
      exact decide_eq_true (Nat.lt_of_le_of_lt (UInt32.le_iff_toNat_le.mp digit.2) (by decide))
    · rfl
  exact forall_isAscii (P := fun c => isNumeral c = true → upperChar c = [c]) (by decide +kernel)
    ascii numeral

end Number

namespace Logger

/-- The name of a level may be put into upper case beforehand. -/
theorem levelNamed_uppered (s : String) : levelNamed (uppered s) = levelNamed s := by
  rw [levelNamed, uppered_uppered, levelNamed]

/-- No level has a number for its name. -/
theorem levelNamed_intString (n : Int) : levelNamed (intString n) = defaultLevel := by
  have stays : uppered (intString n) = intString n := by
    rw [uppered, intString, String.toList_ofList]
    refine congrArg _ (upper_eq_self fun c mem => ?_)
    exact upperChar_of_isNumeral (isNumeral_of_mem_intText mem)
  have lettered : ∀ entry ∈ namedLevels, (entry.1.toList.all isNumeral) = false := by decide
  refine levelNamed_of_notMem fun m mem => ?_
  have letter := lettered _ mem
  rw [stays, intString, String.toList_ofList] at letter
  have numerals := List.all_eq_true.mpr fun c inside => isNumeral_of_mem_intText (n := n) inside
  exact Bool.false_ne_true (letter.symm.trans numerals)

/-- What is displayed for a text names the level that the text names. A role is displayed with more
than its text, and neither of the two names a level. -/
theorem levelNamed_display {level : Value} {s : String} (isText : level.asText? = some s) :
    levelNamed level.display = levelNamed s := by
  cases level with
  | text t => rw [← Option.some.inj isText, Value.display, AnyText.shown_whole]
  | codes t => rw [← Option.some.inj isText, Value.display, AnyText.shown_halved]
  | role r =>
    rw [← Option.some.inj isText]
    cases r <;> decide +kernel
  | _ => cases isText

/-- A value that can be written is displayed by a name of the level that it stands for exactly if it
is a text or the number of the default level. -/
theorem standsFor_display_iff {level : Value} :
    level.isWritable = true ∧ StandsFor (some level) (levelNamed level.display) ↔
      (∃ s, level.asText? = some s) ∨ level = .int 20 := by
  constructor
  · rintro ⟨-, standsFor⟩
    generalize shown : levelNamed level.display = n at standsFor
    cases standsFor with
    | named isText known => exact .inl ⟨_, isText⟩
    | unnamed isText unknown info => exact .inl ⟨_, isText⟩
    | int n =>
      have number : levelNamed (intString n) = n := shown
      rw [levelNamed_intString, defaultLevel] at number
      exact .inr (congrArg _ number.symm)
    | bool b => cases b <;> exact absurd shown (by decide +kernel)
  · rintro (⟨s, isText⟩ | rfl)
    · rw [levelNamed_display isText]
      exact ⟨Value.isWritable_of_asText isText, standsFor_levelNamed isText⟩
    · have shown : levelNamed (Value.int 20).display = 20 := levelNamed_intString 20
      rw [shown]
      exact ⟨Value.isWritableInt_of_lt (by decide), .int 20⟩

end Logger

/-! ### Levels in a configuration -/

open Logger

section Level

variable {entries part : List (Value × Value)} {level : Value} {name : String}

theorem loggingLevel_eq_ok_iff (logging : Value.field? entries "logging" = some (.map part))
    (given : Value.field? part "level" = some level) :
    loggingLevel (.map entries) = .ok name ↔
      level.isWritable = true ∧ name = uppered level.display := by
  have read : loggingLevel (.map entries) =
      if level.isWritable then .ok (uppered level.display) else .error .unwritable := by
    simp [loggingLevel, configSection, sectionEntries?, logging, given, bind, Except.bind]
  rw [read]
  cases level.isWritable with
  | true => simp [eq_comm]
  | false => simp

/-- **Levels by name, not by number.** Take a configuration whose part for the log has something for
a level. To configure the logger, in any state, with the level that the configuration asks for has
the effect of configuring it with that value exactly if the value is a text or the number of the
default level. If it is an integer, of any size that can be written, the effect is that of giving no
level at all. -/
theorem level_of_part_agrees_iff (logging : Value.field? entries "logging" = some (.map part))
    (given : Value.field? part "level" = some level) (l : Logger) :
    ((∃ name, loggingLevel (.map entries) = .ok name ∧
        configure (some (.text name)) l = configure (some level) l) ↔
      (∃ s, level.asText? = some s) ∨ level = .int 20) ∧
    ∀ n name, level = .int n → loggingLevel (.map entries) = .ok name →
      configure (some (.text name)) l = configure none l := by
  have named (name : String) :
      configure (some (.text name)) l = .ok () (l.leveled (levelNamed name)) :=
    configure_of_standsFor (standsFor_levelNamed rfl)
  constructor
  · rw [← standsFor_display_iff]
    constructor
    · rintro ⟨name, asked, same⟩
      obtain ⟨writable, rfl⟩ := (loggingLevel_eq_ok_iff logging given).mp asked
      rw [named, levelNamed_uppered] at same
      exact ⟨writable, configure_eq_ok_iff.mp same.symm⟩
    · rintro ⟨writable, standsFor⟩
      refine ⟨_, (loggingLevel_eq_ok_iff logging given).mpr ⟨writable, rfl⟩, ?_⟩
      rw [named, levelNamed_uppered, configure_of_standsFor standsFor]
  · rintro n name rfl asked
    obtain ⟨-, rfl⟩ := (loggingLevel_eq_ok_iff logging given).mp asked
    have number : levelNamed (Value.int n).display = defaultLevel := levelNamed_intString n
    rw [named, levelNamed_uppered, number]
    exact (configure_of_standsFor (.omitted (by decide))).symm

/-- A configuration with nothing but a level for the log. -/
def levelOnly (level : Value) : List (Value × Value) :=
  [(.text "logging", .map [(.text "level", level)])]

/-- The name of a level has its effect from a configuration, also in letters that are like its own
in upper case only; its number has the effect of the default level. -/
theorem level_of_part_by_name_and_number :
    (∃ name, loggingLevel (.map (levelOnly (.text "warnıng"))) = .ok name ∧
      configure (some (.text name)) fresh = configure (some (.text "warnıng")) fresh) ∧
    ¬ ∃ name, loggingLevel (.map (levelOnly (.int 30))) = .ok name ∧
      configure (some (.text name)) fresh = configure (some (.int 30)) fresh := by
  refine ⟨?_, fun same => ?_⟩
  · exact (level_of_part_agrees_iff rfl rfl fresh).1.mpr (.inl ⟨_, rfl⟩)
  · rcases (level_of_part_agrees_iff rfl rfl fresh).1.mp same with ⟨s, isText⟩ | default
    · cases isText
    · cases default

end Level

end AccessNotices
