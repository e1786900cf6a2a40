import Fulfilment.Json.Decode
import Fulfilment.Order.Basic

/-!
JSON forms of orders and their parts. Codes are strings (trimmed, never blank), quantities are
integers, statuses are their names, identities are hyphenated UUIDs and instants RFC 3339 texts.
Each form has a `Shape` that reads and checks it, a reader from the checked value, and a
writer; records are written with their fields in declared order.
-/

namespace Fulfilment.Wire

open Json

/-- A code of kind `k`: a string, trimmed and refused when blank. -/
def codeShape (k : CodeKind) : Shape :=
  .checked .text fun v =>
    match v with
    | .str t =>
      match Code.make k t with
      | .ok c => .ok (.str c.text)
      | .error e => .error e.message
    | v => .ok v

/-- A quantity: a signed 64-bit integer, refused unless positive. -/
def quantityShape : Shape :=
  .checked .int64 fun v =>
    match v with
    | .num (.int n) =>
      match Quantity.make n with
      | .ok q => .ok (.int q.val)
      | .error e => .error e.message
    | v => .ok v

def statusShape : Shape := .word OrderStatus.names

def uuidShape : Shape :=
  .textAs "a formatted UUID string" fun t =>
    match Uuid.parse t with
    | .ok u => .ok (.str u.render)
    | .error e => .error ("UUID parsing failed: " ++ e.message)

def instantShape : Shape :=
  .textAs "an RFC 3339 formatted date and time string" fun t =>
    match Instant.parse t with
    | .ok i => .ok (.str i.render)
    | .error e => .error e.message

def progressShape : Shape :=
  .record "FinalizationProgress" [("inventory_consumed", .flag, none), ("notified", .flag, none)]

def newOrderShape : Shape :=
  .record "NewOrder" [("tenant_id", codeShape .tenant, none), ("seller_id", codeShape .seller, none),
    ("hub_id", codeShape .hub, none), ("sku_id", codeShape .sku, none), ("quantity", quantityShape, none)]

def orderShape : Shape :=
  .record "Order" [("id", uuidShape, none), ("tenant_id", codeShape .tenant, none),
    ("seller_id", codeShape .seller, none), ("hub_id", codeShape .hub, none),
    ("sku_id", codeShape .sku, none), ("quantity", quantityShape, none), ("status", statusShape, none),
    ("progress", progressShape, none), ("created_at", instantShape, none),
    ("updated_at", instantShape, none)]

def orderCreatedShape : Shape :=
  .record "OrderCreatedEvent" [("order_id", uuidShape, none), ("tenant_id", codeShape .tenant, none),
    ("seller_id", codeShape .seller, none), ("hub_id", codeShape .hub, none),
    ("sku_id", codeShape .sku, none), ("quantity", quantityShape, none),
    ("created_at", instantShape, none)]

def codeOf (k : CodeKind) (v : Value) : Option (Code k) :=
  v.getStr?.bind fun t => (Code.make k t).toOption

def quantityOf (v : Value) : Option Quantity := v.getInt?.bind fun n => (Quantity.make n).toOption

def statusOf (v : Value) : Option OrderStatus := v.getStr?.bind fun t => (OrderStatus.parse t).toOption

def uuidOf (v : Value) : Option Uuid := v.getStr?.bind fun t => (Uuid.parse t).toOption

def instantOf (v : Value) : Option Instant := v.getStr?.bind fun t => (Instant.parse t).toOption

def member (v : Value) (k : String) : Option Value := v.field? k

def progressOf (v : Value) : Option Progress := do
  let c ← (member v "inventory_consumed").bind Value.getBool?
  let n ← (member v "notified").bind Value.getBool?
  return { inventoryConsumed := c, notified := n }

def newOrderOf (v : Value) : Option NewOrder := do
  let tenant ← (member v "tenant_id").bind (codeOf .tenant)
  let seller ← (member v "seller_id").bind (codeOf .seller)
  let hub ← (member v "hub_id").bind (codeOf .hub)
  let sku ← (member v "sku_id").bind (codeOf .sku)
  let quantity ← (member v "quantity").bind quantityOf
  return { tenant, seller, hub, sku, quantity }

def orderOf (v : Value) : Option Order := do
  let id ← (member v "id").bind uuidOf
  let row ← newOrderOf v
  let status ← (member v "status").bind statusOf
  let progress ← (member v "progress").bind progressOf
  let createdAt ← (member v "created_at").bind instantOf
  let updatedAt ← (member v "updated_at").bind instantOf
  return { id := ⟨id⟩, tenant := row.tenant, seller := row.seller, hub := row.hub, sku := row.sku,
           quantity := row.quantity, status, progress, createdAt, updatedAt }

def orderCreatedOf (v : Value) : Option OrderCreated := do
  let id ← (member v "order_id").bind uuidOf
  let tenant ← (member v "tenant_id").bind (codeOf .tenant)
  let seller ← (member v "seller_id").bind (codeOf .seller)
  let hub ← (member v "hub_id").bind (codeOf .hub)
  let sku ← (member v "sku_id").bind (codeOf .sku)
  let quantity ← (member v "quantity").bind quantityOf
  let createdAt ← (member v "created_at").bind instantOf
  return { orderId := ⟨id⟩, tenant, seller, hub, sku, quantity, createdAt }

/-- Finishes reading: the checked value made into a domain value. -/
def finish {α : Type} (conv : Value → Option α) (r : Except String Value) : Except String α :=
  match r with
  | .error m => .error m
  | .ok v =>
    match conv v with
    | some a => .ok a
    | none => .error "invalid value"

/-- Finishes reading text: the checked value made into a domain value. -/
def finishText {α : Type} (conv : Value → Option α) (r : Except Json.Error Value) : Except Json.Error α :=
  match r with
  | .error e => .error e
  | .ok v =>
    match conv v with
    | some a => .ok a
    | none => .error (Json.Error.plain "invalid value")

def progressJson (p : Progress) : Value :=
  .obj [("inventory_consumed", .bool p.inventoryConsumed), ("notified", .bool p.notified)]

def newOrderJson (n : NewOrder) : Value :=
  .obj [("tenant_id", .str n.tenant.text), ("seller_id", .str n.seller.text), ("hub_id", .str n.hub.text),
    ("sku_id", .str n.sku.text), ("quantity", .int n.quantity.val)]

def orderJson (o : Order) : Value :=
  .obj [("id", .str o.id.render), ("tenant_id", .str o.tenant.text), ("seller_id", .str o.seller.text),
    ("hub_id", .str o.hub.text), ("sku_id", .str o.sku.text), ("quantity", .int o.quantity.val),
    ("status", .str o.status.name), ("progress", progressJson o.progress),
    ("created_at", .str o.createdAt.render), ("updated_at", .str o.updatedAt.render)]

def orderCreatedJson (e : OrderCreated) : Value :=
  .obj [("order_id", .str e.orderId.render), ("tenant_id", .str e.tenant.text),
    ("seller_id", .str e.seller.text), ("hub_id", .str e.hub.text), ("sku_id", .str e.sku.text),
    ("quantity", .int e.quantity.val), ("created_at", .str e.createdAt.render)]

end Fulfilment.Wire
