import AccessNotices.Proofs.Caller.Canonical
import AccessNotices.Proofs.Lookup.Agreement
/-!
The cause of a failure stays in the log.

The wording of a failure of the store can say more than a caller should see. Two lookups that fail
answer alike, whoever asks and whatever failed, so an answer tells nothing of its cause; the log has
the cause once, and is otherwise the same. Main statement: `failures_answer_alike`.
-/

namespace AccessNotices.Lookup

/-- A lookup that ends with a fault that is caught, with this message. -/
structure FailsWith (engine : Engine) (caller : Caller) (statements : Statements) (f : Fault)
    (message : String) : Prop where
  raises : (engine (queryFor caller statements)).Raises f
  caught : f.IsCaught message

/-- An entry in which the session reports an error. -/
def isSessionError (e : LogEntry) : Bool :=
  e.severity = .error ∧ e.source = .session

namespace FailsWith

variable {engine : Engine} {caller : Caller} {statements : Statements} {f : Fault}
  {message : String}

theorem result_build (h : FailsWith engine caller statements f message) :
    (build engine caller statements).result = .ok (.failure .database) :=
  congrArg Transcript.result (build_of_caught h.raises h.caught)

theorem result_get (h : FailsWith engine caller statements f message) :
    (get engine caller statements).result = .error (.notFetched .database) := by
  rw [get_eq, h.result_build]
  rfl

theorem log_build (h : FailsWith engine caller statements f message) :
    (build engine caller statements).log =
      [dispatchEntry caller] ++ storeFailureEntry message :: [failureEntry] :=
  congrArg Transcript.log (build_of_caught h.raises h.caught)

theorem log_get (h : FailsWith engine caller statements f message) :
    (get engine caller statements).log =
      [dispatchEntry caller] ++ storeFailureEntry message :: [failureEntry] := by
  rw [get_eq, h.log_build]

end FailsWith

/-- **The cause is logged and not exposed.** Of two lookups that end with faults that are caught,
whoever asks, whatever failed and wherever, both give the same failure, and both raise it in an
error of the same wording and status. If the same caller asks, their logs are the same before and
after one entry, in which the session reports the wording of its own fault, and nowhere else does
the session report an error. -/
theorem failures_answer_alike {engine₁ engine₂ : Engine} {caller₁ caller₂ : Caller}
    {statements₁ statements₂ : Statements} {f₁ f₂ : Fault} {message₁ message₂ : String}
    (first : FailsWith engine₁ caller₁ statements₁ f₁ message₁)
    (second : FailsWith engine₂ caller₂ statements₂ f₂ message₂) :
    (∃ failure error, error = LookupError.notFetched failure ∧
      error.message? = some failure.encoded ∧ error.status? = some failure.status ∧
      (build engine₁ caller₁ statements₁).result = .ok (.failure failure) ∧
      (build engine₂ caller₂ statements₂).result = .ok (.failure failure) ∧
      (get engine₁ caller₁ statements₁).result = .error error ∧
      (get engine₂ caller₂ statements₂).result = .error error) ∧
    (caller₁ = caller₂ → ∃ before after : List LogEntry,
      (build engine₁ caller₁ statements₁).log =
        before ++ ⟨.error, .session, "Error response : " ++ message₁⟩ :: after ∧
      (build engine₂ caller₂ statements₂).log =
        before ++ ⟨.error, .session, "Error response : " ++ message₂⟩ :: after ∧
      (get engine₁ caller₁ statements₁).log = (build engine₁ caller₁ statements₁).log ∧
      (get engine₂ caller₂ statements₂).log = (build engine₂ caller₂ statements₂).log ∧
      ∀ e ∈ before ++ after, isSessionError e = false) := by
  constructor
  · exact ⟨.database, _, rfl, rfl, rfl, first.result_build, second.result_build, first.result_get,
      second.result_get⟩
  · rintro rfl
    refine ⟨[dispatchEntry caller₁], [failureEntry], first.log_build, second.log_build, ?_, ?_, ?_⟩
    · rw [first.log_get, first.log_build]
    · rw [second.log_get, second.log_build]
    · intro e mem
      rcases List.mem_cons.mp mem with rfl | mem
      · rfl
      · cases List.mem_singleton.mp mem
        rfl

/-- A refused connection, and a statement that breaks off after a row with a password in its
wording, and with the statement behind it. -/
theorem refusal_and_breach_answer_alike :
    let refused : Engine := fun _ =>
      .unreachable ⟨.system, [.int 111, .text "Connection refused"]⟩
    let breached : Engine := fun _ =>
      .entered (.broken [∅] ⟨.driver "OperationalError" "\n[SQL: S]", [.text "password=hunter2"]⟩)
        none
    FailsWith refused consumerCaller .builtIn ⟨.system, [.int 111, .text "Connection refused"]⟩
      "[Errno 111] Connection refused" ∧
    FailsWith breached consumerCaller .builtIn
      ⟨.driver "OperationalError" "\n[SQL: S]", [.text "password=hunter2"]⟩
      "(OperationalError) password=hunter2\n[SQL: S]" ∧
    (build refused consumerCaller .builtIn).result =
      (build breached consumerCaller .builtIn).result ∧
    (get refused consumerCaller .builtIn).result = (get breached consumerCaller .builtIn).result ∧
    ∃ before after : List LogEntry,
      (build refused consumerCaller .builtIn).log = before ++
        ⟨.error, .session, "Error response : [Errno 111] Connection refused"⟩ :: after ∧
      (build breached consumerCaller .builtIn).log = before ++
        ⟨.error, .session, "Error response : (OperationalError) password=hunter2\n[SQL: S]"⟩ ::
          after := by
  intro refused breached
  have first : FailsWith refused consumerCaller .builtIn
      ⟨.system, [.int 111, .text "Connection refused"]⟩ "[Errno 111] Connection refused" :=
    ⟨.connecting _, Fault.isCaught_refusal _⟩
  have second : FailsWith breached consumerCaller .builtIn
      ⟨.driver "OperationalError" "\n[SQL: S]", [.text "password=hunter2"]⟩
      "(OperationalError) password=hunter2\n[SQL: S]" := ⟨.reading _ _, rfl, rfl⟩
  obtain ⟨⟨failure, error, -, -, -, given₁, given₂, raised₁, raised₂⟩, logs⟩ :=
    failures_answer_alike first second
  obtain ⟨before, after, log₁, log₂, -⟩ := logs rfl
  exact ⟨first, second, given₁.trans given₂.symm, raised₁.trans raised₂.symm, before, after, log₁,
    log₂⟩

end AccessNotices.Lookup
