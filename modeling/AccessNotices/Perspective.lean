import AccessNotices.Value.Basic
/-!
Perspectives: on which side of a request a caller stands, and which statement shows that side.

Consumers and their delegates see the requests that they made; everyone else, known or unknown, sees
the requests that were made to them.
-/

namespace AccessNotices

/-- A side of a request. -/
inductive Perspective where
  | consumer
  | provider
  deriving DecidableEq, Repr

/-- The name of a lookup statement. -/
inductive Selector where
  | consumerNotifications
  | providerNotifications
  deriving DecidableEq, Repr

def Selector.text : Selector → String
  | consumerNotifications => "consumer_notifications"
  | providerNotifications => "provider_notifications"

/-- All selectors, in the order in which they are looked at. -/
def Selector.all : List Selector := [consumerNotifications, providerNotifications]

namespace Perspective

/-- The other side. -/
def opposite : Perspective → Perspective
  | consumer => provider
  | provider => consumer

/-- The text of a perspective, which is also the name of its party in a record. -/
def text : Perspective → String
  | consumer => "consumer"
  | provider => "provider"

def ofText? (s : String) : Option Perspective :=
  [consumer, provider].find? fun p => p.text == s

/-- The statement that shows this side. -/
def selector : Perspective → Selector
  | consumer => .consumerNotifications
  | provider => .providerNotifications

def ofRole : Role → Perspective
  | .consumer => consumer
  | .consumerDelegate => consumer
  | .provider => provider
  | .providerDelegate => provider

/-- The side of whatever stands for a role: of the role that a text names, and the provider's for
all else. -/
def classify : Value → Perspective
  | .role r => ofRole r
  | .text s =>
    match Role.named? s with
    | some r => ofRole r
    | none => provider
  | _ => provider

@[simp] theorem opposite_opposite (p : Perspective) : p.opposite.opposite = p := by
  cases p <;> rfl

@[simp] theorem ofText?_text (p : Perspective) : ofText? p.text = some p := by
  cases p <;> rfl

end Perspective

end AccessNotices
