import Fulfilment.Store.Storage
import Fulfilment.Store.Orders
import Fulfilment.Stock.Ledger
import Fulfilment.Stock.Catalog
import Fulfilment.Messaging.WorkQueue
import Fulfilment.Messaging.EventBus
import Fulfilment.Webhook.Dispatch
import Fulfilment.Pipeline.Deadline

/-!
The order pipeline as one value, and `PipelineM`, in which its operations read the time and fresh
identities from a `Context` and may fail, keeping the changes made before the failure.
-/

namespace Fulfilment

open Webhook

/-- Where the pipeline learns which SKUs and hubs exist. -/
inductive CatalogSource where
  /-- The stock ledger: a SKU or a hub is known once a stock record names it. -/
  | ledger
  /-- A catalog of its own. -/
  | own (c : Catalog)
  deriving DecidableEq, Repr

/-- The order pipeline. -/
structure Pipeline where
  /-- The bucket that uploads are submitted from. -/
  bucket : String
  /-- The time budget of one finalization. -/
  deadline : Deadline
  /-- How often a webhook request is tried. -/
  webhookRetry : RetryPolicy
  objects : ObjectStorage
  queue : WorkQueue
  bus : EventBus
  orders : OrderStore := {}
  registry : Registry := {}
  transport : Recorder := {}
  ledger : Ledger := {}
  catalog : CatalogSource := .ledger
  /-- The number of identities handed out so far. -/
  issued : Nat := 0
  deriving DecidableEq, Repr

/-- What the pipeline reads from its surroundings: the time, as an instant and in
milliseconds, and the `n`-th fresh identity. -/
structure Context where
  now : Instant
  millis : Nat
  identity : Nat → Uuid

/-- Effects that cannot fail: reading the context and changing the pipeline. -/
abbrev Effect := ReaderT Context (StateM Pipeline)

/-- Effects that may fail with a pipeline error, keeping the changes made before. -/
abbrev PipelineM := ExceptT PipelineError Effect

def webhookCapacity : Nat := 4096

namespace Pipeline

def runIn {α : Type} (act : PipelineM α) (ctx : Context) (p : Pipeline) :
    Except PipelineError α × Pipeline :=
  ((act.run).run ctx).run p

def freshId : Effect Uuid := do
  let ctx ← read
  let p ← get
  set { p with issued := p.issued + 1 }
  return ctx.identity p.issued

def lift {ε α : Type} (convert : ε → PipelineError) : Except ε α → PipelineM α
  | .ok a => pure a
  | .error e => throw (convert e)

def knowsSku (p : Pipeline) (s : SkuCode) : Bool :=
  match p.catalog with
  | .ledger => p.ledger.hasSku s
  | .own c => c.hasSku s

def knowsHub (p : Pipeline) (h : HubCode) : Bool :=
  match p.catalog with
  | .ledger => p.ledger.hasHub h
  | .own c => c.hasHub h

def publish (m : Message) : Effect Unit := modify fun p => { p with bus := p.bus.publish m }

/-- Tells the subscriptions of a tenant that want an event about it, through the pipeline's
transport: the number of requests made. -/
def notify (tenant : TenantId) (event : String) (data : Json.Value) : Effect Nat := do
  let p ← get
  let (outcomes, transport) :=
    (dispatch Recorder.send p.registry p.webhookRetry webhookCapacity tenant event data).run
      p.transport
  set { p with transport }
  return outcomes.length

def saveOrder (o : Order) : PipelineM Unit := do
  let p ← get
  let orders ← lift PipelineError.ofStore (p.orders.save o)
  set { p with orders }

/-- Checks the finalization budget before a step; no time passes within one run. -/
def checkpoint (step : String) : PipelineM Unit := do
  let p ← get
  lift id (p.deadline.check 0 step)

end Pipeline

end Fulfilment
