import Fulfilment.Pipeline.State

/-!
Assembling a pipeline from its options. The stock ledger starts empty. The catalog is the
ledger itself unless the options ask for a catalog of its own; a pipeline given a ledger of its
own but no catalog cannot check rows and is refused. Uploads are kept in memory or as files,
the work queue gives up on a task after five receives, and the bus after the configured number
of deliveries.
-/

namespace Fulfilment

/-- Which catalog a pipeline checks rows against. -/
inductive CatalogChoice where
  /-- The ledger, which also serves as the catalog. -/
  | ledger
  /-- A ledger and a separate catalog. -/
  | separate
  /-- Only a catalog; the pipeline makes its own ledger. -/
  | catalogOnly
  /-- Only a ledger. -/
  | ledgerOnly
  deriving DecidableEq, Repr

/-- How a pipeline is assembled. -/
structure PipelineOptions where
  bucket : String := "orders"
  finalizerTimeoutMs : Nat := 5000
  webhookRetry : RetryPolicy := ⟨1, 0⟩
  maxDeliveries : Nat := 5
  unreachable : List String := []
  catalog : CatalogChoice := .ledger
  files : Bool := false
  deriving DecidableEq, Repr

def taskReceives : Nat := 5

def Pipeline.build (o : PipelineOptions) : Except PipelineError Pipeline := do
  let catalog ← match o.catalog with
    | .ledger => pure CatalogSource.ledger
    | .separate | .catalogOnly => pure (.own {})
    | .ledgerOnly => throw ⟨.fatal, "a custom inventory ledger needs a catalog"⟩
  return {
    bucket := o.bucket
    deadline := ⟨o.finalizerTimeoutMs⟩
    webhookRetry := o.webhookRetry
    objects := if o.files then .files {} else .memory {}
    queue := WorkQueue.empty taskReceives
    bus := ({} : EventBus).withMaxDeliveries o.maxDeliveries
    transport := { unreachable := o.unreachable }
    catalog }

end Fulfilment
