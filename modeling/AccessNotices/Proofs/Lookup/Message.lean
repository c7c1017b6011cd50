import AccessNotices.Proofs.Caller.Canonical
import AccessNotices.Proofs.Envelope
import AccessNotices.Proofs.Json.Ascii
import AccessNotices.Proofs.Lookup.Agreement
/-!
The messages of failures.

A failure is raised as an error whose message is the text of the failure's object. Whatever address
the failure names, the message is plain ASCII, and it is read back as the object, so it tells the
failure (`Failure.encoded_inj`). Main statement: `Lookup.message_of_notFound`.
-/

namespace AccessNotices

/-- Different names have different identifiers. -/
theorem ResponseName.urn_inj {n m : ResponseName} : n.urn = m.urn ↔ n = m := by
  cases n <;> cases m <;> decide

/-- Different statuses have different codes. -/
theorem Status.code_inj {s t : Status} : s.code = t.code ↔ s = t := by
  cases s <;> cases t <;> decide

namespace Failure

/-- The object of a failure has all that there is to the failure. -/
theorem toJson_inj {f g : Failure} : f.toJson = g.toJson ↔ f = g := by
  constructor
  · intro same
    obtain ⟨status, name, detail⟩ := f
    obtain ⟨status', name', detail'⟩ := g
    simp only [toJson, Json.object.injEq, List.cons.injEq, Prod.mk.injEq, Json.int.injEq,
      Json.string.injEq, Int.natCast_inj, true_and, and_true] at same
    obtain ⟨code, urn, rfl⟩ := same
    rw [Status.code_inj.mp code, ResponseName.urn_inj.mp urn]
  · rintro rfl
    rfl

/-- Failures with the same text are the same. -/
theorem encoded_inj {f g : Failure} : f.encoded = g.encoded ↔ f = g := by
  constructor
  · intro same
    have read := f.read?_encoded
    rw [same, g.read?_encoded] at read
    exact toJson_inj.mp (Option.some.inj read).symm
  · rintro rfl
    rfl

/-- The text of a failure is visible. -/
theorem visible_encoded (f : Failure) : ∀ c ∈ f.encoded.toList, Json.IsVisible c := by
  rw [encoded, Json.compact, String.toList_ofList]
  exact Json.visible_encode f.toJson

/-- A failure tells which server it is about. -/
theorem notFound_inj {url url' : String} : notFound url = notFound url' ↔ url = url' := by
  simp [notFound, String.append_right_inj]

end Failure

namespace Lookup

theorem get_of_nothing {engine : Engine} {caller : Caller} {statements : Statements}
    (reads : (engine (queryFor caller statements)).Reads []) :
    (get engine caller statements).result =
      .error (.notFetched (.notFound caller.resourceServerUrl)) := by
  rw [get_eq, build_of_nothing reads]
  rfl

/-- **The message about an empty lookup.** Whatever the address of the resource server, the error
that is raised for it has a message of the characters from the space to the tilde only. The message
is read as an object with the code, the name and the detail of the failure, where the detail ends
with the address, and without a status beside them. So messages about different addresses are
different. -/
theorem message_of_notFound (url : String) :
    ∃ message, (LookupError.notFetched (.notFound url)).message? = some message ∧
      (∀ engine caller statements, (engine (queryFor caller statements)).Reads [] →
        caller.resourceServerUrl = url →
        ∃ error, (get engine caller statements).result = .error error ∧
          error.message? = some message) ∧
      (∀ c ∈ message.toList, ' ' ≤ c ∧ c ≤ '~') ∧
      (∃ object, Json.read? message = some object ∧
        object = .object
          [("type", .int 404), ("title", .string "urn:dx:acl:ResourceNotFound"),
           ("detail", .string ("Access request not found, for the server : " ++ url))] ∧
        object.member? "status_code" = none) ∧
      ∀ url', (LookupError.notFetched (.notFound url')).message? = some message ↔ url' = url := by
  refine ⟨(Failure.notFound url).encoded, rfl, ?_, Failure.visible_encoded _, ?_, ?_⟩
  · rintro engine caller statements reads rfl
    exact ⟨_, get_of_nothing reads, rfl⟩
  · exact ⟨_, (Failure.notFound url).read?_encoded, rfl, rfl⟩
  · intro url'
    rw [← Failure.notFound_inj, ← Failure.encoded_inj]
    exact Option.some_inj

/-- A quote, a backslash, a line end, the delete character and a character outside of the basic
plane in an address: the message is read back with all of them, and another address gives another
message. -/
theorem message_of_strange_address :
    ∃ error message,
      (get (fun _ => .entered (.complete []) none)
        { consumerCaller with resourceServerUrl := "\"\\\n\x7f😀" } .builtIn).result =
          .error error ∧
      error.message? = some message ∧
      (Json.read? message).bind (Json.member? "detail") =
        some (.string "Access request not found, for the server : \"\\\n\x7f😀") ∧
      (LookupError.notFetched (.notFound "rs://a")).message? ≠ some message := by
  obtain ⟨message, -, raised, -, ⟨object, read, whole, -⟩, others⟩ :=
    message_of_notFound "\"\\\n\x7f😀"
  obtain ⟨error, got, told⟩ := raised (fun _ => .entered (.complete []) none)
    { consumerCaller with resourceServerUrl := "\"\\\n\x7f😀" } .builtIn (.complete []) rfl
  refine ⟨error, message, got, told, ?_, fun same => absurd ((others _).mp same) (by decide)⟩
  rw [read, whole]
  rfl

end Lookup

end AccessNotices
