import Fulfilment.Pipeline.State
import Fulfilment.Order.Wire
import Fulfilment.Json.Decode

/-!
Finalizing an order from its `order.created` message. The stored order decides what is left to
do, so a message delivered again picks up where an earlier attempt stopped; each stage makes one
call to a store, so that finalizations of different orders can interleave.
-/

namespace Fulfilment

open Wire Json

/-- How a finalization ended. -/
inductive FinalizeOutcome where
  /-- The order is `new_order`; what the ledger had left, when stock was taken now. -/
  | confirmed (remaining : Option Int)
  /-- Too little stock: the order stays on hold. -/
  | onHold (available requested : Int)
  /-- Nothing was left to do. -/
  | alreadyFinalized
  deriving DecidableEq, Repr

def decodeCreated (m : Message) : Except PipelineError OrderCreated :=
  match finishText orderCreatedOf (decodeText orderCreatedShape ⟨m.payload.toArray⟩) with
  | .ok e => .ok e
  | .error e => .error ⟨.validation, "invalid order.created payload: " ++ e.text⟩

def Order.stockKey (o : Order) : InventoryKey :=
  { tenant := o.tenant, seller := o.seller, hub := o.hub, sku := o.sku }

/-- The stock request of an order: its quantity, with its identity as the reference. -/
def Order.reservation (o : Order) : ConsumeRequest :=
  { key := o.stockKey, quantity := o.quantity.val, reference := some o.id.render }

/-- Where a finalization stands, before its next call to the stores. -/
inductive FinalizeStage where
  /-- The order is to be loaded. -/
  | load (id : OrderId)
  /-- The stock record of the order is to be looked up. -/
  | lookup (order : Order)
  /-- The stock of the order is to be taken. -/
  | consume (order : Order)
  /-- Too little stock: the order is to be saved on hold. -/
  | hold (order : Order) (available requested : Int)
  /-- The stock is taken: the order is to be confirmed, unless it is `new_order`. -/
  | settle (order : Order) (remaining : Option Int)
  /-- Subscribers are to be told, unless they were; the order is read back first. -/
  | tell (order : Order) (remaining : Option Int)
  /-- The webhooks are to get the order as stored. -/
  | announce (order current : Order) (remaining : Option Int)
  /-- The order is to be saved as told. -/
  | record (order : Order) (remaining : Option Int)
  deriving DecidableEq, Repr

namespace FinalizeStage

def rank : FinalizeStage → Nat
  | .load _ => 6
  | .lookup _ => 5
  | .consume _ => 4
  | .hold .. => 3
  | .settle .. => 3
  | .tell .. => 2
  | .announce .. => 1
  | .record .. => 0

def order? : FinalizeStage → Option Order
  | .load _ => none
  | .lookup o | .consume o | .hold o .. | .settle o _ | .tell o _ | .announce o .. | .record o _ =>
    some o

def orderId : FinalizeStage → OrderId
  | .load id => id
  | .lookup o | .consume o | .hold o .. | .settle o _ | .tell o _ | .announce o .. | .record o _ =>
    o.id

/-- What a stage leads to: the end of the run, or a stage of lower rank. -/
inductive Next (s : FinalizeStage) where
  | finish (outcome : FinalizeOutcome)
  | goto (t : FinalizeStage) (lower : t.rank < s.rank := by exact Nat.le_of_ble_eq_true rfl)

def advance : (s : FinalizeStage) → PipelineM (Next s)
  | .load id => do
    Pipeline.checkpoint "load order"
    let order ← Pipeline.lift PipelineError.ofStore ((← get).orders.get id)
    if order.status = .newOrder ∧ order.progress.notified then return .finish .alreadyFinalized
    if order.progress.inventoryConsumed then return .goto (.settle order none)
    return .goto (.lookup order)
  | .lookup order => do
    Pipeline.checkpoint "inventory lookup"
    let _ ← Pipeline.lift PipelineError.ofLedger ((← get).ledger.get order.stockKey)
    return .goto (.consume order)
  | .consume order => do
    Pipeline.checkpoint "inventory consume"
    let now := (← read).now
    let p ← get
    match p.ledger.consume order.reservation now with
    | .ok (ledger, outcome) =>
      set { p with ledger }
      return .goto (.settle (order.markConsumed now) (some outcome.remaining))
    -- another order took the stock since the lookup
    | .error (.conflict available requested) => return .goto (.hold order available requested)
    | .error e => throw (PipelineError.ofLedger e)
  | .hold order available requested => do
    Pipeline.checkpoint "hold order"
    Pipeline.saveOrder (← Pipeline.lift PipelineError.ofDomain (order.hold (← read).now))
    return .finish (.onHold available requested)
  | .settle order remaining => do
    if order.status = .newOrder then return .goto (.tell order remaining)
    let order ← Pipeline.lift PipelineError.ofDomain (order.confirm (← read).now)
    Pipeline.checkpoint "confirm order"
    Pipeline.saveOrder order
    return .goto (.tell order remaining)
  | .tell order remaining => do
    if order.progress.notified then return .finish (.confirmed remaining)
    Pipeline.checkpoint "notify"
    let current ← Pipeline.lift PipelineError.ofStore ((← get).orders.get order.id)
    return .goto (.announce order current remaining)
  | .announce order current remaining => do
    let _ ← Pipeline.notify current.tenant orderUpdatedTopic (orderJson current)
    return .goto (.record order remaining)
  | .record order remaining => do
    Pipeline.saveOrder (order.markNotified (← read).now)
    return .finish (.confirmed remaining)

def run (s : FinalizeStage) : PipelineM FinalizeOutcome := do
  match ← s.advance with
  | .finish outcome => return outcome
  | .goto t _ => t.run
termination_by s.rank

end FinalizeStage

namespace Pipeline

def finalize (m : Message) : PipelineM FinalizeOutcome := do
  let event ← lift id (decodeCreated m)
  (FinalizeStage.load event.orderId).run

/-- Handles an `order.created` message: a message that cannot be read is dropped, other
failures are reported. -/
def handle (m : Message) : Effect (Except PipelineError Unit) := do
  match ← (finalize m).run with
  | .ok _ => return .ok ()
  | .error e => return if e.cls = .validation then .ok () else .error e

def handleWithRetry (policy : RetryPolicy) (m : Message) : Effect (Except PipelineError Unit) :=
  policy.run fun _ => handle m

end Pipeline

end Fulfilment
