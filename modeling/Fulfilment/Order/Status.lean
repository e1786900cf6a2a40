import Fulfilment.Domain.Error

/-!
Order status: an order is `on_hold` until its stock is taken, then `new_order`, and never goes
back.
-/

namespace Fulfilment

/-- Where an order stands. -/
inductive OrderStatus where
  | onHold
  | newOrder
  deriving DecidableEq, Repr

def OrderStatus.name : OrderStatus → String
  | .onHold => "on_hold"
  | .newOrder => "new_order"

def OrderStatus.names : List String := ["on_hold", "new_order"]

def OrderStatus.parse (s : String) : Except DomainError OrderStatus :=
  if s = "on_hold" then .ok .onHold
  else if s = "new_order" then .ok .newOrder
  else .error (.validation ("unknown order status: " ++ s))

end Fulfilment
