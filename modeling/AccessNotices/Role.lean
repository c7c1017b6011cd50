import AccessNotices.Text.Blank
import AccessNotices.Text.Case
/-!
The roles a caller can hold, and the texts that name them.

A text names a role when, without blanks at its ends and in lower case, it is the role's own text.
-/

namespace AccessNotices

open Text

/-- What a caller is to the requests: someone who asks for access or someone who grants it, or a
delegate of either. -/
inductive Role where
  | consumer
  | consumerDelegate
  | provider
  | providerDelegate
  deriving DecidableEq, Repr

namespace Role

/-- All roles, in their order of precedence in lists. -/
def all : List Role := [consumer, consumerDelegate, provider, providerDelegate]

def text : Role → String
  | consumer => "consumer"
  | consumerDelegate => "consumer_delegate"
  | provider => "provider"
  | providerDelegate => "provider_delegate"

def symbol : Role → String
  | consumer => "CONSUMER"
  | consumerDelegate => "CONSUMER_DELEGATE"
  | provider => "PROVIDER"
  | providerDelegate => "PROVIDER_DELEGATE"

def ofText? (s : String) : Option Role :=
  all.find? fun r => r.text == s

def ofSymbol? (s : String) : Option Role :=
  all.find? fun r => r.symbol == s

def named? (s : String) : Option Role :=
  ofText? (String.ofList (lower (trim s.toList)))

/-- The texts of distinct roles are distinct, so each text reads back. -/
@[simp] theorem ofText?_text (r : Role) : ofText? r.text = some r := by
  cases r <;> rfl

@[simp] theorem ofSymbol?_symbol (r : Role) : ofSymbol? r.symbol = some r := by
  cases r <;> rfl

end Role

end AccessNotices
