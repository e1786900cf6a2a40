import Fulfilment.Store.Error
import Fulfilment.Order.Basic
import Fulfilment.Ingest.RowKey

/-!
The order store held in memory. An order is stored once under its identity; storing a second
order with the same identity is a conflict. An order made from an ingested row is stored
together with the row's idempotency key, and a row whose key is already stored is skipped, so a
row becomes at most one order. Lists of orders are in the order of their creation instants,
then of their identities.
-/

namespace Fulfilment

/-- Orders and the idempotency keys of the rows they came from. -/
structure OrderStore where
  orders : List Order := []
  ingested : List RowKey := []
  deriving DecidableEq, Repr

/-- Whether `a` sorts before or with `b`: by creation instant, then by identity. -/
def Order.sortsBefore (a b : Order) : Bool :=
  Instant.lt a.createdAt b.createdAt ||
    (a.createdAt == b.createdAt && a.id.uuid.value ≤ b.id.uuid.value)

namespace OrderStore

def has (s : OrderStore) (id : OrderId) : Bool := s.orders.any (·.id == id)

def insert (s : OrderStore) (o : Order) : Except StoreError OrderStore :=
  if s.has o.id then .error (.conflict ("order " ++ o.id.render ++ " already exists"))
  else .ok { s with orders := s.orders ++ [o] }

/-- Stores the order of an ingested row, unless the row's key is stored: whether it was
stored. -/
def insertIngested (s : OrderStore) (o : Order) (k : RowKey) : Except StoreError (OrderStore × Bool) :=
  if s.ingested.contains k then .ok (s, false)
  else do
    let s ← s.insert o
    return ({ s with ingested := s.ingested ++ [k] }, true)

def get (s : OrderStore) (id : OrderId) : Except StoreError Order :=
  match s.orders.find? (·.id == id) with
  | some o => .ok o
  | none => .error (.notFound ("order " ++ id.render))

def save (s : OrderStore) (o : Order) : Except StoreError OrderStore :=
  if s.has o.id then .ok { s with orders := s.orders.map fun x => if x.id == o.id then o else x }
  else .error (.notFound ("order " ++ o.id.render))

def all (s : OrderStore) : List Order := s.orders.mergeSort Order.sortsBefore

def listByTenant (s : OrderStore) (t : TenantId) : List Order := s.all.filter (·.tenant == t)

def size (s : OrderStore) : Nat := s.orders.length

end OrderStore

end Fulfilment
