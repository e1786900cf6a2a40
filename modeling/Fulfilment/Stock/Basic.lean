import Fulfilment.Ident.Code
import Fulfilment.Ident.Uuid
import Fulfilment.Time.Instant

/-!
Stock: how many units of a SKU a seller of a tenant holds at a hub. The four codes together
are an inventory key; a stock record gives the key's current quantity. Consuming takes units
out, at most what is there; a consumption may carry a reference, and a second consumption with
the same reference does nothing and answers what the first left.
-/

namespace Fulfilment

/-- Where stock is kept and whose it is. -/
structure InventoryKey where
  tenant : TenantId
  seller : SellerId
  hub : HubCode
  sku : SkuCode
  deriving DecidableEq, Repr

def InventoryKey.render (k : InventoryKey) : String :=
  k.tenant.text ++ "/" ++ k.seller.text ++ "/" ++ k.hub.text ++ "/" ++ k.sku.text

/-- The stock of one key. -/
structure StockRecord where
  id : Uuid
  key : InventoryKey
  quantity : Int
  updatedAt : Instant
  deriving DecidableEq, Repr

/-- A request to take `quantity` units of `key`. `reference` makes it idempotent; `expired`
says that its deadline has already passed. -/
structure ConsumeRequest where
  key : InventoryKey
  quantity : Int
  reference : Option String := none
  expired : Bool := false
  deriving DecidableEq, Repr

/-- What a consumption left, and whether it only replayed an earlier one. -/
structure ConsumeOutcome where
  remaining : Int
  replayed : Bool := false
  deriving DecidableEq, Repr

/-- Why the ledger refused. -/
inductive LedgerError where
  | notFound (key : InventoryKey)
  | conflict (available requested : Int)
  | invalidQuantity (quantity : Int)
  | unavailable (reason : String)
  | timedOut (reason : String)
  deriving DecidableEq, Repr

def LedgerError.message : LedgerError → String
  | .notFound k => "no inventory record for " ++ k.render
  | .conflict a r => "insufficient stock: available " ++ toString a ++ ", requested " ++ toString r
  | .invalidQuantity q => "invalid quantity " ++ toString q
  | .unavailable m => "inventory ledger unavailable: " ++ m
  | .timedOut m => "inventory ledger timed out: " ++ m

/-- Why the catalog could not answer. -/
inductive CatalogError where
  | unavailable (reason : String)
  deriving DecidableEq, Repr

def CatalogError.message : CatalogError → String
  | .unavailable m => "catalog unavailable: " ++ m

end Fulfilment
