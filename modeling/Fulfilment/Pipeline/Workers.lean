import Fulfilment.Pipeline.Batch
import Fulfilment.Pipeline.Finalize

/-!
The pipeline's two workers, run until there is nothing left for them: the ingestion worker drains
the work queue, and the finalization worker its own subscription to `order.created`.
-/

namespace Fulfilment

/-- What a worker did. -/
structure WorkerStats where
  received : Nat := 0
  succeeded : Nat := 0
  failed : Nat := 0
  inFlight : Nat := 0
  deriving DecidableEq, Repr

def WorkerStats.record (s : WorkerStats) (ok : Bool) : WorkerStats :=
  { s with received := s.received + 1,
           succeeded := if ok then s.succeeded + 1 else s.succeeded,
           failed := if ok then s.failed else s.failed + 1 }

/-- What a run of the workers did. -/
structure WorkersReport where
  ingest : WorkerStats
  finalize : WorkerStats
  /-- Whether the queue and the finalization subscription were both empty at the end. -/
  settled : Bool
  deriving DecidableEq, Repr

namespace Pipeline

/-- Receives at most one task, hiding it for `visibilityMs`; a receive that would hide it past
the clock's range stops the worker with none. -/
def receiveTask (visibilityMs : Nat) : Effect (Option Delivery) := do
  let ctx ← read
  let p ← get
  match p.queue.receive 1 visibilityMs ctx.millis fun k => (ctx.identity (p.issued + k)).render with
  | none => return none
  | some (queue, ds) =>
    set { p with queue, issued := p.issued + ds.length }
    return ds.head?

def ingestLoop (visibilityMs : Nat) : Nat → WorkerStats → Effect WorkerStats
  | 0, stats => return stats
  | fuel + 1, stats => do
    match ← receiveTask visibilityMs with
    | none => return stats
    | some d =>
      let ok := (← (process d.messageId d.body).run) matches .ok _
      modify fun p => { p with queue := if ok then p.queue.ack d.receipt else p.queue.nack d.receipt }
      ingestLoop visibilityMs fuel (stats.record ok)

/-- Runs the finalization worker on subscription `inbox` for at most `fuel` messages. -/
def finalizeLoop (inbox : Nat) (policy : RetryPolicy) : Nat → WorkerStats → Effect WorkerStats
  | 0, stats => return stats
  | fuel + 1, stats => do
    let p ← get
    let (bus, next) := p.bus.take inbox
    set { p with bus }
    match next with
    | none => return stats
    | some m =>
      let ok := (← handleWithRetry policy m) matches .ok _
      if !ok then modify fun p => { p with bus := p.bus.giveBack inbox m }
      finalizeLoop inbox policy fuel (stats.record ok)

def waiting (p : Pipeline) (inbox : Nat) : Nat :=
  (p.bus.inboxes[inbox]?.map (·.waiting.length)).getD 0

/-- Runs both workers until they run out of work. Every task is received at most once more
than the queue allows, and every message delivered at most as often as the bus allows. -/
def runWorkers (visibilityMs : Nat) (policy : RetryPolicy) : Effect WorkersReport := do
  let (bus, inbox) := (← get).bus.subscribe orderCreatedTopic
  modify fun p => { p with bus }
  let q := (← get).queue
  let ingest ← ingestLoop visibilityMs (q.entries.length * (q.maxReceives + 1) + 1) {}
  let p ← get
  let finalize ← finalizeLoop inbox policy (waiting p inbox * p.bus.maxDeliveries + 1) {}
  let p ← get
  let settled := p.queue.size == 0 && waiting p inbox == 0
  set { p with bus := p.bus.drop inbox }
  return { ingest, finalize, settled }

end Pipeline

end Fulfilment
