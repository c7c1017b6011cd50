import AccessNotices.Caller
import AccessNotices.Proofs.Uuid.Hyphenated
/-!
Canonical identifiers: the number that a user's identifier spells, written in its canonical text, is
the identifier in lower case (`toString_uuid`), and the canonical text of every number is an
identifier that stays as it is in lower case (`UserId.ofUuid`).
-/

namespace AccessNotices

open Text

namespace UserId

/-- The identifier that is the canonical text of a number. -/
def ofUuid (u : Uuid) : UserId where
  text := u.toString
  uuid := u
  spelled := by rw [Uuid.toString, String.toList_ofList, u.lower_text]

theorem lower_ofUuid (u : Uuid) : lower (ofUuid u).text.toList = (ofUuid u).text.toList := by
  change lower u.toString.toList = u.toString.toList
  rw [Uuid.toString, String.toList_ofList, u.lower_text]

theorem toString_uuid (id : UserId) : id.uuid.toString = String.ofList (lower id.text.toList) := by
  rw [Uuid.toString, id.spelled]

end UserId

/-! ### Callers for instances -/

/-- A consumer with a canonical identifier. -/
def consumerCaller : Caller where
  id := .ofUuid ⟨0x6f1c2d4e8a7b4c3d9e0f1a2b3c4d5e6f, by decide⟩
  firstName := some "Ana"
  lastName := some "Rao"
  email := some "ana@consumer.org"
  resourceServerUrl := "rs://a"
  role := .role .consumer

/-- A provider on the same server. -/
def providerCaller : Caller where
  id := .ofUuid ⟨0x0b9a8c7d6e5f4a3b2c1d0e9f8a7b6c5d, by decide⟩
  firstName := some "Jo"
  lastName := some "Doe"
  email := some "jo@provider.org"
  resourceServerUrl := "rs://a"
  role := .role .provider

end AccessNotices
