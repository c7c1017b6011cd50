import AccessNotices.Proofs.Envelope
import AccessNotices.Proofs.Lookup.Cases
/-!
The two lookups agree.

There are two ways to ask for the notices of a caller: one gives every envelope, the other gives the
successes and raises the failures. They are one lookup (`get_eq`), which does and logs the same
either way. Main statement: `get_agrees_with_build`.
-/

namespace AccessNotices.Lookup

section Results

variable (engine : Engine) (caller : Caller) (statements : Statements)

def raiseFailure : Except LookupError Envelope → Except LookupError Envelope
  | .ok (.failure f) => .error (.notFetched f)
  | result => result

/-- The lookup that raises failures does and logs what the lookup that gives them does. -/
theorem get_eq : get engine caller statements =
    ⟨(build engine caller statements).events, (build engine caller statements).log,
      raiseFailure (build engine caller statements).result⟩ := by
  rw [get]
  cases built : (build engine caller statements).result with
  | error e =>
    rw [Transcript.bind_of_error built]
    rfl
  | ok envelope =>
    rw [Transcript.bind_of_ok built]
    cases envelope with
    | success records =>
      change Transcript.mk (_ ++ []) (_ ++ []) _ = _
      rw [List.append_nil, List.append_nil]
      rfl
    | failure f =>
      change Transcript.mk (_ ++ []) (_ ++ []) _ = _
      rw [List.append_nil, List.append_nil]
      rfl

/-- The lookup that gives failures raises none. -/
theorem build_ne_notFetched (f : Failure) :
    (build engine caller statements).result ≠ .error (.notFetched f) := by
  intro raised
  obtain ⟨log, -, ends⟩ := exists_ending engine caller statements
  rw [raised] at ends
  cases ends with
  | escaped raises escapes => cases escapes

theorem raiseFailure_eq_ok_iff {result : Except LookupError Envelope} {envelope : Envelope} :
    raiseFailure result = .ok envelope ↔
      result = .ok envelope ∧ ∃ records, envelope = .success records := by
  cases result with
  | error e => simp [raiseFailure]
  | ok e =>
    cases e with
    | failure f =>
      constructor
      · nofun
      · rintro ⟨⟨⟩, records, ⟨⟩⟩
    | success records =>
      constructor
      · rintro ⟨⟩
        exact ⟨rfl, records, rfl⟩
      · rintro ⟨same, -⟩
        exact same

theorem raiseFailure_eq_error_iff {result : Except LookupError Envelope} {error : LookupError} :
    raiseFailure result = .error error ↔
      result = .error error ∨ ∃ f, error = .notFetched f ∧ result = .ok (.failure f) := by
  cases result with
  | error e => simp [raiseFailure]
  | ok e =>
    cases e with
    | success records => simp [raiseFailure]
    | failure f =>
      constructor
      · rintro ⟨⟩
        exact .inr ⟨f, rfl, rfl⟩
      · rintro (⟨⟨⟩⟩ | ⟨f, rfl, ⟨⟩⟩)
        rfl

end Results

/-- **One lookup.** Whatever the store does, both ways to ask do the same with it and log the same.
The one that raises failures gives exactly the successes that the other gives, raises exactly the
failures that the other gives, and any other error comes out of both. An error that stands for a
failure carries it, has its status, and its wording is read as the failure's object. -/
theorem get_agrees_with_build (engine : Engine) (caller : Caller) (statements : Statements) :
    let built := build engine caller statements
    let got := get engine caller statements
    got.events = built.events ∧ got.log = built.log ∧
    (∀ envelope, got.result = .ok envelope ↔
      built.result = .ok envelope ∧ ∃ records, envelope = .success records) ∧
    (∀ failure, got.result = .error (.notFetched failure) ↔
      built.result = .ok (.failure failure)) ∧
    (∀ error, got.result = .error error ↔
      built.result = .error error ∨
        ∃ failure, error = .notFetched failure ∧ built.result = .ok (.failure failure)) ∧
    (∀ failure, built.result ≠ .error (.notFetched failure)) ∧
    ∀ failure : Failure,
      (LookupError.notFetched failure).status? = some (Envelope.failure failure).status ∧
      ∃ wording, (LookupError.notFetched failure).message? = some wording ∧
        Json.read? wording = some (.object
          [("type", .int failure.status.code), ("title", .string failure.name.urn),
           ("detail", .string failure.detail)]) := by
  have raised (failure : Failure) :
      (get engine caller statements).result = .error (.notFetched failure) ↔
        (build engine caller statements).result = .ok (.failure failure) := by
    rw [get_eq, raiseFailure_eq_error_iff]
    constructor
    -- The error is not passed on from the other lookup, which raises no failure.
    · rintro (same | ⟨f, same, given⟩)
      · exact absurd same (build_ne_notFetched engine caller statements failure)
      · cases same
        exact given
    · exact fun given => .inr ⟨failure, rfl, given⟩
  refine ⟨?_, ?_, ?_, raised, ?_, build_ne_notFetched engine caller statements, ?_⟩
  · rw [get_eq]
  · rw [get_eq]
  · intro envelope
    rw [get_eq]
    exact raiseFailure_eq_ok_iff
  · intro error
    rw [get_eq]
    exact raiseFailure_eq_error_iff
  · intro failure
    exact ⟨rfl, failure.encoded, rfl, failure.read?_encoded⟩

end AccessNotices.Lookup
