import Fulfilment.Webhook.Subscription
import Fulfilment.Store.Error

/-!
The webhook registry held in memory: subscriptions in the order they were registered. A request
that does not validate is refused as invalid input. Deactivating keeps the subscription but
stops it from wanting events.
-/

namespace Fulfilment.Webhook

/-- Registered subscriptions, oldest first. -/
structure Registry where
  subscriptions : List Subscription := []
  deriving DecidableEq, Repr

namespace Registry

def register (r : Registry) (n : NewSubscription) (id : SubscriptionId) (now : Instant) :
    Except StoreError (Registry × Subscription) :=
  match n.register id now with
  | .ok s => .ok (⟨r.subscriptions ++ [s]⟩, s)
  | .error e => .error (.invalid e.message)

def activeFor (r : Registry) (tenant : TenantId) (event : String) : List Subscription :=
  r.subscriptions.filter (·.wants tenant event)

def list (r : Registry) (tenant : TenantId) : List Subscription :=
  r.subscriptions.filter (·.tenant == tenant)

def deactivate (r : Registry) (id : SubscriptionId) (now : Instant) : Except StoreError Registry :=
  if r.subscriptions.any (·.id == id) then
    .ok ⟨r.subscriptions.map fun s => if s.id == id then { s with isActive := false, updatedAt := now } else s⟩
  else .error (.notFound ("webhook subscription " ++ id.render))

end Registry

end Fulfilment.Webhook
