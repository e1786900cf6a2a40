import Fulfilment.Stock.Basic

/-!
The stock ledger held in memory: one slot per key, in the order the keys were first stocked,
holding the key's record and the references consumed against it with what each left.
-/

namespace Fulfilment

/-- The state of one key. -/
structure Slot where
  record : StockRecord
  consumed : List (String × Int)
  deriving DecidableEq, Repr

/-- A ledger: the slots of the stocked keys. -/
structure Ledger where
  slots : List Slot := []
  deriving DecidableEq, Repr

namespace Ledger

def slot? (l : Ledger) (k : InventoryKey) : Option Slot := l.slots.find? (·.record.key == k)

def put (l : Ledger) (s : Slot) : Ledger :=
  ⟨l.slots.map fun t => if t.record.key == s.record.key then s else t⟩

def get (l : Ledger) (k : InventoryKey) : Except LedgerError StockRecord :=
  match l.slot? k with
  | some s => .ok s.record
  | none => .error (.notFound k)

def consume (l : Ledger) (r : ConsumeRequest) (now : Instant) : Except LedgerError (Ledger × ConsumeOutcome) :=
  if r.quantity ≤ 0 then .error (.invalidQuantity r.quantity) else
  match l.slot? r.key with
  | none => .error (.notFound r.key)
  | some s =>
    match r.reference.bind fun ref => (s.consumed.find? (·.1 == ref)).map (·.2) with
    | some left => .ok (l, { remaining := left, replayed := true })
    | none =>
      let available := s.record.quantity
      if available < r.quantity then .error (.conflict available r.quantity) else
      let left := available - r.quantity
      let consumed := match r.reference with
        | some ref => s.consumed ++ [(ref, left)]
        | none => s.consumed
      let s' : Slot := { record := { s.record with quantity := left, updatedAt := now }, consumed }
      .ok (l.put s', { remaining := left })

/-- Sets the quantity of a key at `now`; a new key gets the record identity `freshId`. -/
def upsert (l : Ledger) (k : InventoryKey) (q : Int) (freshId : Uuid) (now : Instant) :
    Except LedgerError (Ledger × StockRecord) :=
  if q < 0 then .error (.invalidQuantity q) else
  match l.slot? k with
  | some s =>
    let s' := { s with record := { s.record with quantity := q, updatedAt := now } }
    .ok (l.put s', s'.record)
  | none =>
    let fresh : StockRecord := { id := freshId, key := k, quantity := q, updatedAt := now }
    .ok (⟨l.slots ++ [{ record := fresh, consumed := [] }]⟩, fresh)

def hasSku (l : Ledger) (sku : SkuCode) : Bool := l.slots.any (·.record.key.sku == sku)

def hasHub (l : Ledger) (hub : HubCode) : Bool := l.slots.any (·.record.key.hub == hub)

end Ledger

end Fulfilment
