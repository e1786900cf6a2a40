import Fulfilment.Ident.Code
import Fulfilment.Ident.Id
import Fulfilment.Order.Quantity
import Fulfilment.Order.Status
import Fulfilment.Time.Instant

/-!
Orders and their lifecycle. A validated row (`NewOrder`) is placed as an order `on_hold` with
nothing done. Finalization records that stock was taken (`markConsumed`), moves the order to
`new_order` (`confirm`, which needs the stock taken), or keeps it on hold (`hold`, refused once
the order is `new_order`), and records that subscribers were told (`markNotified`). Each step
stamps the time of the change; `confirm` of an order already `new_order` changes nothing.
-/

namespace Fulfilment

/-- A validated order row, not yet placed. -/
structure NewOrder where
  tenant : TenantId
  seller : SellerId
  hub : HubCode
  sku : SkuCode
  quantity : Quantity
  deriving DecidableEq, Repr

/-- Which finalization effects have been applied. -/
structure Progress where
  inventoryConsumed : Bool := false
  notified : Bool := false
  deriving DecidableEq, Repr

def Progress.isComplete (p : Progress) : Bool := p.inventoryConsumed && p.notified

/-- A placed order. -/
structure Order where
  id : OrderId
  tenant : TenantId
  seller : SellerId
  hub : HubCode
  sku : SkuCode
  quantity : Quantity
  status : OrderStatus
  progress : Progress
  createdAt : Instant
  updatedAt : Instant
  deriving DecidableEq, Repr

namespace Order

/-- Places a row as an order with identity `id` at time `now`: on hold, nothing done. -/
def place (id : OrderId) (n : NewOrder) (now : Instant) : Order :=
  { id, tenant := n.tenant, seller := n.seller, hub := n.hub, sku := n.sku, quantity := n.quantity,
    status := .onHold, progress := {}, createdAt := now, updatedAt := now }

def row (o : Order) : NewOrder :=
  { tenant := o.tenant, seller := o.seller, hub := o.hub, sku := o.sku, quantity := o.quantity }

def markConsumed (o : Order) (now : Instant) : Order :=
  { o with progress := { o.progress with inventoryConsumed := true }, updatedAt := now }

def markNotified (o : Order) (now : Instant) : Order :=
  { o with progress := { o.progress with notified := true }, updatedAt := now }

/-- Moves the order to `new_order`; refused before its stock is taken. -/
def confirm (o : Order) (now : Instant) : Except DomainError Order :=
  if !o.progress.inventoryConsumed then
    .error (.invariant ("order " ++ o.id.render ++ " cannot become new_order before inventory is consumed"))
  else if o.status = .newOrder then .ok o
  else .ok { o with status := .newOrder, updatedAt := now }

/-- Keeps the order on hold; refused once it is `new_order`. -/
def hold (o : Order) (now : Instant) : Except DomainError Order :=
  if o.status = .newOrder then
    .error (.invariant ("order " ++ o.id.render ++ " is already new_order and cannot go back on hold"))
  else .ok { o with updatedAt := now }

end Order

/-- The event announcing a freshly stored order. -/
structure OrderCreated where
  orderId : OrderId
  tenant : TenantId
  seller : SellerId
  hub : HubCode
  sku : SkuCode
  quantity : Quantity
  createdAt : Instant
  deriving DecidableEq, Repr

def OrderCreated.ofOrder (o : Order) : OrderCreated :=
  { orderId := o.id, tenant := o.tenant, seller := o.seller, hub := o.hub, sku := o.sku,
    quantity := o.quantity, createdAt := o.createdAt }

def orderCreatedTopic : String := "order.created"

def orderUpdatedTopic : String := "order.updated"

end Fulfilment
