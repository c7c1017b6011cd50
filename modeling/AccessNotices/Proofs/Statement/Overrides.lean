import AccessNotices.Proofs.Settings
/-!
Statements that a configuration puts in the place of the built-in ones.

A section can have a statement for each selector. It is refused if it has something else there, or
if it has a key that is no selector; the selectors are looked at first, one after the other, and
then all such keys at once (`Refuses`). A section that is not refused gives each selector the text
that it has for it as it stands (`Gives`), and has no say in the other one. Main statement:
`overrides_exactly`.
-/

namespace AccessNotices

open Text

namespace Statements

/-! ### One selector -/

/-- What a section has for a selector cannot be a statement: it is not null, and no text or a text
of blanks. -/
inductive Spoils (part : List (Value × Value)) (selector : Selector) : Prop where
  | noText {v : Value} (here : Value.field? part selector.text = some v) (notNull : v ≠ .null)
      (notText : v.asAnyText? = none)
  | blank {v : Value} {s : String} (here : Value.field? part selector.text = some v)
      (text : v.asAnyText? = some (.whole s)) (allBlank : ∀ c ∈ s.toList, isBlank c = true)

/-- The statement of a selector: the text that a section has for it, or the built-in one if the
section has nothing or a null. -/
inductive Gives (part : List (Value × Value)) (selector : Selector) : AnyText → Prop where
  | override {v : Value} {t : AnyText} (here : Value.field? part selector.text = some v)
      (text : v.asAnyText? = some t)
      (notBlank : ∀ s, t = .whole s → ∃ c ∈ s.toList, isBlank c = false) : Gives part selector t
  | builtIn (nothing : partOf part selector.text = .null) :
      Gives part selector (builtIn.get selector)

variable {part part' : List (Value × Value)} {selector : Selector} {s : String} {t t' : AnyText}

/-- A statement follows from what there is for its selector. -/
theorem Gives.unique (gives : Gives part selector t) (gives' : Gives part' selector t')
    (same : Value.field? part selector.text = Value.field? part' selector.text) : t = t' := by
  cases gives with
  | override here text =>
    cases gives' with
    | override here' text' =>
      cases here.symm.trans (same.trans here')
      exact Option.some.inj (text.symm.trans text')
    | builtIn nothing =>
      rw [partOf, ← same, here] at nothing
      cases nothing
      cases text
  | builtIn nothing =>
    cases gives' with
    | override here' text' =>
      rw [partOf, same, here'] at nothing
      cases nothing
      cases text'
    | builtIn _ => rfl

theorem isAllBlank_iff : isAllBlank s = true ↔ ∀ c ∈ s.toList, isBlank c = true :=
  List.all_eq_true

theorem not_isAllBlank_iff : ¬ isAllBlank s = true ↔ ∃ c ∈ s.toList, isBlank c = false := by
  simp [isAllBlank_iff]

/-- A statement that is given is not spoilt. -/
theorem Gives.not_spoils (gives : Gives part selector t) : ¬ Spoils part selector := by
  intro spoils
  cases spoils with
  | noText here' notNull notText =>
    cases gives with
    | override here text =>
      cases here'.symm.trans here
      cases notText.symm.trans text
    | builtIn nothing =>
      rw [partOf, here'] at nothing
      exact notNull nothing
  | blank here' text' allBlank =>
    cases gives with
    | override here text notBlank =>
      cases here'.symm.trans here
      cases text'.symm.trans text
      obtain ⟨c, mem, bare⟩ := notBlank _ rfl
      cases bare.symm.trans (allBlank c mem)
    | builtIn nothing =>
      rw [partOf, here'] at nothing
      cases nothing
      cases text'

/-- What a section has for a selector is refused, or it gives a statement. -/
theorem statementFor_cases (part : List (Value × Value)) (selector : Selector) :
    (Spoils part selector ∧
      statementFor part selector = .error (.problem (.blankStatement selector))) ∨
    ∃ o, Gives part selector (o.getD (builtIn.get selector)) ∧
      statementFor part selector = .ok o := by
  unfold statementFor
  split
  case h_1 missing =>
    refine .inr ⟨none, .builtIn ?_, rfl⟩
    rw [partOf, missing]
    rfl
  case h_2 null =>
    refine .inr ⟨none, .builtIn ?_, rfl⟩
    rw [partOf, null]
    rfl
  case h_3 v notNull here =>
    cases text : v.asAnyText? with
    | none => exact .inl ⟨.noText here notNull text, rfl⟩
    | some t =>
      dsimp only
      cases t with
      | whole s =>
        split
        case isTrue blank => exact .inl ⟨.blank here text (isAllBlank_iff.mp blank), rfl⟩
        case isFalse notBlank =>
          refine .inr ⟨some (.whole s), .override here text ?_, rfl⟩
          rintro _ ⟨⟩
          exact not_isAllBlank_iff.mp notBlank
      | halved t => exact .inr ⟨some (.halved t), .override here text nofun, rfl⟩

/-! ### Other keys -/

/-- Every key of a section is a text. -/
def HasTextKeys (part : List (Value × Value)) : Prop :=
  ∀ e ∈ part, ∃ name, e.1.asAnyText? = some name

def keyTexts (part : List (Value × Value)) : List AnyText :=
  part.filterMap fun e => e.1.asAnyText?

/-- The keys of a section that are texts and no selectors. -/
def foreignNames (part : List (Value × Value)) : List AnyText :=
  (keyTexts part).filter fun name =>
    name ≠ .whole "consumer_notifications" ∧ name ≠ .whole "provider_notifications"

theorem filterMap_unknownKeys (part : List (Value × Value)) :
    (unknownKeys part).filterMap Value.asAnyText? = foreignNames part := by
  rw [unknownKeys, foreignNames, keyTexts, List.filterMap_filter, List.filterMap_map,
    List.filter_filterMap]
  congr 1
  funext e
  -- A key that is a text is the text of a selector, or it is not.
  cases text : e.1.asAnyText? with
  | none => simp [text]
  | some name =>
    simp only [Function.comp_apply, Value.isKey, text, Selector.all, Selector.text, List.any_cons,
      List.any_nil, Option.filter]
    by_cases consumer : name = .whole "consumer_notifications"
    · simp [consumer]
    · by_cases provider : name = .whole "provider_notifications"
      · simp [provider]
      · simp [consumer, provider]

/-- There are other names exactly when a key is a text and no selector. -/
theorem foreignNames_ne_nil_iff : foreignNames part ≠ [] ↔
    ∃ name ∈ keyTexts part,
      name ≠ .whole "consumer_notifications" ∧ name ≠ .whole "provider_notifications" := by
  rw [foreignNames, Ne, List.filter_eq_nil_iff]
  simp only [decide_eq_true_eq, not_forall, not_not, exists_prop]

/-- A list of names is the other keys of a section, all of them and in order. -/
structure ListsForeign (part : List (Value × Value)) (names : List AnyText) : Prop where
  some : names ≠ []
  sorted : names.Pairwise (· ≤ ·)
  perm : names.Perm (foreignNames part)

/-- There is one list of the other keys. -/
theorem ListsForeign.unique {names names' : List AnyText} (lists : ListsForeign part names)
    (lists' : ListsForeign part names') : names = names' :=
  List.Perm.eq_of_pairwise (fun _ _ _ _ => AnyText.le_antisymm) lists.sorted lists'.sorted
    (lists.perm.trans lists'.perm.symm)

theorem sortedTexts_perm (names : List AnyText) : (sortedTexts names).Perm names :=
  List.mergeSort_perm names _

theorem sorted_sortedTexts (names : List AnyText) : (sortedTexts names).Pairwise (· ≤ ·) := by
  refine (List.pairwise_mergeSort ?_ ?_ names).imp of_decide_eq_true
  · intro a b c first second
    exact decide_eq_true (AnyText.le_trans (of_decide_eq_true first) (of_decide_eq_true second))
  · intro a b
    simpa using AnyText.le_total a b

/-- If all keys are texts, there is no other key, or the others are listed. -/
theorem checkKeys_cases (texts : HasTextKeys part) :
    (foreignNames part = [] ∧ checkKeys part = .ok ()) ∨
    ∃ names, ListsForeign part names ∧
      checkKeys part = .error (.problem (.unknownSelectors names)) := by
  have named : ∀ key ∈ unknownKeys part, ∃ name, key.asAnyText? = some name := by
    intro key mem
    obtain ⟨e, memPart, rfl⟩ := List.mem_map.mp (List.mem_of_mem_filter mem)
    exact texts e memPart
  obtain ⟨names, whole⟩ := exists_mapM_eq_some_iff.mpr named
  have all := filterMap_eq_of_mapM whole
  rw [filterMap_unknownKeys] at all
  subst all
  rw [checkKeys]
  cases unknown : unknownKeys part with
  | nil =>
    refine .inl ⟨?_, rfl⟩
    rw [← filterMap_unknownKeys, unknown]
    rfl
  | cons key rest =>
    rw [unknown] at whole
    have mem : key ∈ unknownKeys part := unknown ▸ List.mem_cons_self
    obtain ⟨name, text⟩ := named key mem
    have listed : name ∈ sortedTexts (foreignNames part) := by
      rw [(sortedTexts_perm _).mem_iff, ← filterMap_unknownKeys]
      exact List.mem_filterMap.mpr ⟨key, mem, text⟩
    refine .inr ⟨sortedTexts (foreignNames part), ?_, ?_⟩
    · exact ⟨List.ne_nil_of_mem listed, sorted_sortedTexts _, sortedTexts_perm _⟩
    · dsimp only
      rw [whole]

/-! ### Sections -/

/-- A section is refused with a problem of this wording: for the first selector that it spoils, and
for its other keys if it spoils none. -/
inductive Refuses (part : List (Value × Value)) : ConfigProblem → String → Prop where
  | consumer (spoils : Spoils part .consumerNotifications) :
      Refuses part (.blankStatement .consumerNotifications)
        "Query override 'consumer_notifications' must be a non-empty string"
  | provider (fit : ¬ Spoils part .consumerNotifications)
      (spoils : Spoils part .providerNotifications) :
      Refuses part (.blankStatement .providerNotifications)
        "Query override 'provider_notifications' must be a non-empty string"
  | foreign {names : List AnyText} (fit : ∀ selector, ¬ Spoils part selector)
      (lists : ListsForeign part names) :
      Refuses part (.unknownSelectors names)
        ("Unknown query overrides: " ++ ", ".intercalate (names.map AnyText.shown))

/-- A refusal is worded as specified. -/
theorem Refuses.message {p : ConfigProblem} {wording : String} (refuses : Refuses part p wording) :
    (SettingsError.problem p).message? = some wording := by
  cases refuses <;> rfl

/-- A section has one problem at most. -/
theorem Refuses.unique {p p' : ConfigProblem} {wording wording' : String}
    (refuses : Refuses part p wording) (refuses' : Refuses part p' wording') : p = p' := by
  cases refuses with
  | consumer spoils =>
    cases refuses' with
    | consumer _ => rfl
    | provider fit _ => exact absurd spoils fit
    | foreign fit _ => exact absurd spoils (fit _)
  | provider fit spoils =>
    cases refuses' with
    | consumer spoils' => exact absurd spoils' fit
    | provider _ _ => rfl
    | foreign fit' _ => exact absurd spoils (fit' _)
  | foreign fit lists =>
    cases refuses' with
    | consumer spoils => exact absurd spoils (fit _)
    | provider _ spoils => exact absurd spoils (fit _)
    | foreign _ lists' => rw [lists.unique lists']

/-- Something in a section is at fault: a key that is no selector, or what there is for one. -/
def HasFault (part : List (Value × Value)) : Prop :=
  (∃ name ∈ keyTexts part,
    name ≠ .whole "consumer_notifications" ∧ name ≠ .whole "provider_notifications") ∨
  ∃ selector, Spoils part selector

/-- A section is refused if something is at fault. -/
theorem exists_refuses_iff : (∃ p wording, Refuses part p wording) ↔ HasFault part := by
  rw [HasFault, ← foreignNames_ne_nil_iff]
  constructor
  · rintro ⟨p, wording, refuses⟩
    cases refuses with
    | consumer spoils => exact .inr ⟨_, spoils⟩
    | provider fit spoils => exact .inr ⟨_, spoils⟩
    | foreign fit lists =>
      exact .inl fun nothing => lists.some (List.perm_nil.mp (nothing ▸ lists.perm))
  · intro faults
    by_cases consumer : Spoils part .consumerNotifications
    · exact ⟨_, _, .consumer consumer⟩
    by_cases provider : Spoils part .providerNotifications
    · exact ⟨_, _, .provider consumer provider⟩
    have fit : ∀ selector, ¬ Spoils part selector := by
      rintro (_ | _)
      · exact consumer
      · exact provider
    have others : foreignNames part ≠ [] :=
      faults.resolve_right fun ⟨selector, spoils⟩ => fit selector spoils
    refine ⟨_, _, .foreign fit ⟨fun nothing => others ?_, sorted_sortedTexts _, sortedTexts_perm _⟩⟩
    exact List.perm_nil.mp (nothing ▸ (sortedTexts_perm _).symm)

/-- If all keys are texts, a section is refused with its problem, or it gives a statement for each
selector. -/
theorem ofEntries_cases (texts : HasTextKeys part) :
    (∃ p wording, Refuses part p wording ∧ ofEntries part = .error (.problem p)) ∨
    ∃ statements, (∀ selector, Gives part selector (statements.get selector)) ∧
      ¬ HasFault part ∧ ofEntries part = .ok statements := by
  rcases statementFor_cases part .consumerNotifications with ⟨spoils, refused⟩ | ⟨c, gives, first⟩
  · refine .inl ⟨_, _, .consumer spoils, ?_⟩
    rw [ofEntries, refused]
    rfl
  rcases statementFor_cases part .providerNotifications with ⟨spoils, refused⟩ | ⟨p, gives', second⟩
  · refine .inl ⟨_, _, .provider gives.not_spoils spoils, ?_⟩
    rw [ofEntries, first, refused]
    rfl
  have each : ∀ selector, Gives part selector
      ((⟨c.getD builtIn.consumer, p.getD builtIn.provider⟩ : Statements).get selector) := by
    rintro (_ | _)
    · exact gives
    · exact gives'
  rcases checkKeys_cases texts with ⟨none, third⟩ | ⟨names, lists, refused⟩
  · refine .inr ⟨_, each, ?_, ?_⟩
    · rw [HasFault, ← foreignNames_ne_nil_iff]
      rintro (others | ⟨selector, spoils⟩)
      · exact others none
      · exact (each selector).not_spoils spoils
    · rw [ofEntries, first, second, third]
      rfl
  · refine .inl ⟨_, _, .foreign (fun selector => (each selector).not_spoils) lists, ?_⟩
    rw [ofEntries, first, second, refused]
    rfl

/-- What is read of such a section is an error exactly if it is its problem. -/
theorem ofEntries_eq_error_iff (texts : HasTextKeys part) {e : SettingsError} :
    ofEntries part = .error e ↔
      ∃ p wording, Refuses part p wording ∧ e = .problem p ∧ e.message? = some wording := by
  rcases ofEntries_cases texts with ⟨p, wording, refuses, read⟩ | ⟨statements, -, clear, read⟩
  · rw [read]
    constructor
    · intro same
      cases same
      exact ⟨p, wording, refuses, rfl, refuses.message⟩
    · rintro ⟨p', wording', refuses', rfl, -⟩
      rw [refuses.unique refuses']
  · rw [read]
    refine iff_of_false nofun ?_
    rintro ⟨p, wording, refuses, -⟩
    exact clear (exists_refuses_iff.mp ⟨p, wording, refuses⟩)

/-- Where nothing is at fault, there are statements. -/
theorem exists_ofEntries_of_not_hasFault (texts : HasTextKeys part) (clear : ¬ HasFault part) :
    ∃ statements, ofEntries part = .ok statements ∧
      ∀ selector, Gives part selector (statements.get selector) := by
  rcases ofEntries_cases texts with ⟨p, wording, refuses, -⟩ | ⟨statements, gives, -, read⟩
  · exact absurd (exists_refuses_iff.mp ⟨p, wording, refuses⟩) clear
  · exact ⟨statements, read, gives⟩

/-- Every statement that is read off a section is given by it. -/
theorem gives_of_ofEntries (texts : HasTextKeys part) {statements : Statements}
    (read : ofEntries part = .ok statements) (selector : Selector) :
    Gives part selector (statements.get selector) := by
  rcases ofEntries_cases texts with ⟨p, wording, -, read'⟩ | ⟨statements', gives, -, read'⟩
  · cases read'.symm.trans read
  · cases read'.symm.trans read
    exact gives selector

/-! ### Configurations -/

section Configuration

variable {sections : List (Value × Value)}

theorem ofConfig_map (here : sectionEntries? (partOf sections "queries") = some part) :
    ofConfig (.map sections) = ofEntries part := by
  simp only [ofConfig, configSection_map, bind, Except.bind, here]

/-- **Overrides.** Take a section for statements that is missing or counts as empty, or is a mapping
whose keys are texts.

* It is refused exactly if something in it is at fault.
* The problem is that of the first selector that it spoils, and only if it spoils none that of its
  other keys, which are named all at once in their order.
* Where nothing is at fault, each selector has the text that the section has for it, as it stands,
  or else the built-in statement; so two sections that have the same for one selector agree on it,
  whatever they have for the other. -/
theorem overrides_exactly (here : sectionEntries? (partOf sections "queries") = some part)
    (texts : HasTextKeys part) :
    ((∃ p, ofConfig (.map sections) = .error (.problem p)) ↔ HasFault part) ∧
    (∀ e, ofConfig (.map sections) = .error e ↔
      ∃ p wording, Refuses part p wording ∧ e = .problem p ∧ e.message? = some wording) ∧
    (¬ HasFault part → ∃ statements, ofConfig (.map sections) = .ok statements ∧
      ∀ selector, Gives part selector (statements.get selector)) ∧
    ∀ sections' part', sectionEntries? (partOf sections' "queries") = some part' →
      HasTextKeys part' →
      ∀ statements statements', ofConfig (.map sections) = .ok statements →
        ofConfig (.map sections') = .ok statements' →
        ∀ selector, Value.field? part selector.text = Value.field? part' selector.text →
          statements.get selector = statements'.get selector := by
  rw [ofConfig_map here]
  refine ⟨?_, fun e => ofEntries_eq_error_iff texts, exists_ofEntries_of_not_hasFault texts, ?_⟩
  · rw [← exists_refuses_iff]
    simp only [ofEntries_eq_error_iff texts]
    constructor
    · rintro ⟨p, p', wording, refuses, -⟩
      exact ⟨p', wording, refuses⟩
    · rintro ⟨p, wording, refuses⟩
      exact ⟨p, p, wording, refuses, rfl, refuses.message⟩
  · intro sections' part' here' texts' statements statements' read read' selector same
    rw [ofConfig_map here'] at read'
    exact (gives_of_ofEntries texts read selector).unique
      (gives_of_ofEntries texts' read' selector) same

/-- A configuration with a section for statements. -/
def overriding (part : List (Value × Value)) : List (Value × Value) :=
  [(.text "queries", .map part)]

/-- A statement between blanks for one selector, and a null for the other. -/
def padded : List (Value × Value) :=
  [(.text "provider_notifications", .text " S\n"), (.text "consumer_notifications", .null)]

/-- Two keys that are no selectors, one of them with a null. -/
def strayKeys : List (Value × Value) :=
  [(.text "z", .int 1), (.text "a", .null)]

/-- A key that is no selector, and a wide blank for a selector. -/
def wideBlank : List (Value × Value) :=
  [(.text "a", .null), (.text "provider_notifications", .text "\u2003")]

/-- A text with blanks at its ends is a statement as it stands, and a null leaves the built-in one.
Two other keys are named in order. A text of wide blanks is refused before such a key. -/
theorem overrides_of_mixed_sections :
    (∃ statements, ofConfig (.map (overriding padded)) = .ok statements ∧
      statements.provider = .whole " S\n" ∧ statements.consumer = builtIn.consumer) ∧
    (∃ e, ofConfig (.map (overriding strayKeys)) = .error e ∧
      e.message? = some "Unknown query overrides: a, z") ∧
    ∃ e, ofConfig (.map (overriding wideBlank)) = .error e ∧
      e.message? = some "Query override 'provider_notifications' must be a non-empty string" := by
  have section_overriding (part : List (Value × Value)) (some : part ≠ []) :
      sectionEntries? (partOf (overriding part) "queries") = .some part := by
    obtain ⟨e, rest, rfl⟩ := List.exists_cons_of_ne_nil some
    rfl
  refine ⟨?_, ?_, ?_⟩
  · obtain ⟨-, -, gives, -⟩ := overrides_exactly (section_overriding padded (List.cons_ne_nil _ _))
      (by simp [padded, HasTextKeys, Value.asAnyText?])
    have provider : Gives padded .providerNotifications (.whole " S\n") := by
      refine .override rfl rfl ?_
      rintro _ ⟨⟩
      exact ⟨'S', by decide, by decide⟩
    have consumer : Gives padded .consumerNotifications builtIn.consumer := .builtIn rfl
    have clear : ¬ HasFault padded := by
      rintro (⟨name, mem, notConsumer, notProvider⟩ | ⟨_ | _, spoils⟩)
      · simp [keyTexts, padded, Value.asAnyText?] at mem
        exact mem.elim notProvider notConsumer
      · exact consumer.not_spoils spoils
      · exact provider.not_spoils spoils
    obtain ⟨statements, read, each⟩ := gives clear
    exact ⟨statements, read, (each .providerNotifications).unique provider rfl,
      (each .consumerNotifications).unique consumer rfl⟩
  · obtain ⟨-, refused, -⟩ := overrides_exactly (section_overriding strayKeys (List.cons_ne_nil _ _))
      (by simp [strayKeys, HasTextKeys, Value.asAnyText?])
    have fit : ∀ selector, ¬ Spoils strayKeys selector := by
      rintro (_ | _) (⟨⟨⟩⟩ | ⟨⟨⟩⟩)
    have refuses : Refuses strayKeys _ _ := .foreign fit
      ⟨List.cons_ne_nil (.whole "a") [.whole "z"], by decide, List.Perm.swap _ _ []⟩
    exact ⟨_, (refused _).mpr ⟨_, _, refuses, rfl, refuses.message⟩, refuses.message⟩
  · obtain ⟨-, refused, -⟩ := overrides_exactly (section_overriding wideBlank (List.cons_ne_nil _ _))
      (by simp [wideBlank, HasTextKeys, Value.asAnyText?])
    have blank : isAllBlank "\u2003" = true := rfl
    have refuses : Refuses wideBlank _ _ := .provider (by rintro (⟨⟨⟩⟩ | ⟨⟨⟩⟩))
      (.blank rfl rfl (isAllBlank_iff.mp blank))
    exact ⟨_, (refused _).mpr ⟨_, _, refuses, rfl, refuses.message⟩, refuses.message⟩

end Configuration

end Statements

end AccessNotices
