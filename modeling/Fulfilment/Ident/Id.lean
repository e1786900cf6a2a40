import Fulfilment.Domain.Error
import Fulfilment.Ident.Uuid

/-!
Identifiers of orders and webhook subscriptions: UUIDs of their own types, read from any
accepted UUID text and written hyphenated in lowercase.
-/

namespace Fulfilment

/-- The identity of an order. -/
structure OrderId where
  uuid : Uuid
  deriving DecidableEq, Repr, Inhabited

/-- The identity of a webhook subscription. -/
structure SubscriptionId where
  uuid : Uuid
  deriving DecidableEq, Repr, Inhabited

/-- Reads an order identity; a refusal names the identifier type. -/
def OrderId.parse (s : String) : Except DomainError OrderId :=
  match Uuid.parse s with
  | .ok u => .ok ⟨u⟩
  | .error e => .error (.invalidId ("OrderId: " ++ e.message))

/-- Reads a subscription identity; a refusal names the identifier type. -/
def SubscriptionId.parse (s : String) : Except DomainError SubscriptionId :=
  match Uuid.parse s with
  | .ok u => .ok ⟨u⟩
  | .error e => .error (.invalidId ("SubscriptionId: " ++ e.message))

def OrderId.render (i : OrderId) : String := i.uuid.render

def SubscriptionId.render (i : SubscriptionId) : String := i.uuid.render

end Fulfilment
