import Fulfilment.Stock.Basic

/-!
A catalog held in memory: the SKUs and hubs it has been told about.
-/

namespace Fulfilment

/-- The known SKUs and hubs, each listed once in the order they were added. -/
structure Catalog where
  skus : List SkuCode := []
  hubs : List HubCode := []
  deriving DecidableEq, Repr

namespace Catalog

def addSku (c : Catalog) (s : SkuCode) : Catalog :=
  if c.skus.contains s then c else { c with skus := c.skus ++ [s] }

def addHub (c : Catalog) (h : HubCode) : Catalog :=
  if c.hubs.contains h then c else { c with hubs := c.hubs ++ [h] }

def hasSku (c : Catalog) (s : SkuCode) : Bool := c.skus.contains s

def hasHub (c : Catalog) (h : HubCode) : Bool := c.hubs.contains h

end Catalog

end Fulfilment
