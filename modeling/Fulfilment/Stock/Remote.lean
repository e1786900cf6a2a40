import Fulfilment.Stock.Basic
import Fulfilment.Net.Url

/-!
The inventory service reached over HTTP. The client is set up with the service's base URL,
which must be a URL. Every call puts its path segments under the base URL; a base URL with a
plain path cannot take them, and the call fails before anything is sent. A consumption whose
deadline has already passed also fails before it is sent. Any other call becomes a request to
the service.
-/

namespace Fulfilment

open Net

/-- A client of the inventory service. -/
structure RemoteInventory where
  base : Url
  deriving DecidableEq, Repr

/-- A request the client would send: its method, its path under the base URL and its
parameters. -/
structure ServiceRequest where
  method : String
  segments : List String
  params : List (String × String)
  deriving DecidableEq, Repr

namespace RemoteInventory

def connect (base : String) : Except LedgerError RemoteInventory :=
  match Url.parse base with
  | .ok u => .ok ⟨u⟩
  | .error e => .error (.unavailable ("invalid base url: " ++ e.message))

def baseProblem (c : RemoteInventory) : Option String :=
  match c.base.plainText? with
  | some text => some ("base url cannot be a base: " ++ text)
  | none => none

/-- A request under the base URL, unless the base cannot take paths. -/
def request (c : RemoteInventory) (method : String) (segments : List String)
    (params : List (String × String)) : Except String ServiceRequest :=
  match c.baseProblem with
  | some m => .error m
  | none => .ok { method, segments, params }

def keyParams (k : InventoryKey) : List (String × String) :=
  [("tenant_id", k.tenant.text), ("seller_id", k.seller.text), ("hub_code", k.hub.text),
    ("sku_code", k.sku.text)]

def get (c : RemoteInventory) (k : InventoryKey) : Except LedgerError ServiceRequest :=
  (c.request "GET" ["inventory", "query"] (keyParams k)).mapError .unavailable

def consume (c : RemoteInventory) (r : ConsumeRequest) : Except LedgerError ServiceRequest := do
  let req ← (c.request "POST" ["inventory", "consume"]
    (keyParams r.key ++ [("quantity", toString r.quantity)] ++
      (r.reference.map fun x => [("reference", x)]).getD [])).mapError .unavailable
  if r.expired then throw (.timedOut ("consume " ++ r.key.render ++ " past its deadline"))
  return req

def upsert (c : RemoteInventory) (k : InventoryKey) (q : Int) : Except LedgerError ServiceRequest :=
  (c.request "PUT" ["inventory"] (keyParams k ++ [("quantity", toString q)])).mapError .unavailable

def skuExists (c : RemoteInventory) (s : SkuCode) : Except CatalogError ServiceRequest :=
  (c.request "GET" ["skus", "code", s.text] []).mapError .unavailable

def hubExists (c : RemoteInventory) (h : HubCode) : Except CatalogError ServiceRequest :=
  (c.request "GET" ["hubs", "code", h.text] []).mapError .unavailable

end RemoteInventory

end Fulfilment
