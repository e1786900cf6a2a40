import Fulfilment.Console.PipelineView
import Fulfilment.Pipeline.Intake
import Fulfilment.Console.Execution

/-!
The console operation on a whole pipeline, driven by steps. The console keeps a subscription to
`order.created` made when the pipeline is built, and numbers what later steps refer to: orders
in the order they were created, deliveries of the work queue and events received from its
subscription in the order they arrived, and registered subscriptions. When a step made webhook
requests, its answer shows them beside its result.
-/

namespace Fulfilment.Console

open Json Webhook Wire

def pipelineContext : Context := { now := clockNow, millis := clockMs, identity := freshUuid }

/-- A pipeline with what the console numbers. -/
structure PipelineSession where
  pipeline : Pipeline
  /-- The console's own `order.created` subscription. -/
  watch : Nat
  /-- The retry policy of the finalization worker. -/
  retry : RetryPolicy
  created : List OrderId := []
  deliveries : List Delivery := []
  events : List Message := []
  registered : List Subscription := []

namespace PipelineSession

def run {α : Type} (s : PipelineSession) (act : PipelineM α) :
    Except PipelineError α × PipelineSession :=
  let (r, p) := Pipeline.runIn act pipelineContext s.pipeline
  (r, { s with pipeline := p })

def perform {α : Type} (s : PipelineSession) (act : Effect α) : α × PipelineSession :=
  let (a, p) := (act.run pipelineContext).run s.pipeline
  (a, { s with pipeline := p })

def fresh (s : PipelineSession) : Uuid × PipelineSession := s.perform Pipeline.freshId

def update (s : PipelineSession) (f : Pipeline → Pipeline) : PipelineSession :=
  { s with pipeline := f s.pipeline }

/-- Orders stored but not yet numbered get the next numbers, in the order they were stored. -/
def numberNewOrders (s : PipelineSession) : PipelineSession :=
  { s with created := s.created ++ (s.pipeline.orders.orders.map (·.id)).filter (!s.created.contains ·) }

end PipelineSession

abbrev Outcome := PipelineSession × Result Value

def shown {α : Type} (view : α → Value) : Except PipelineError α × PipelineSession → Outcome
  | (.ok a, s) => (s, .ok (view a))
  | (.error e, s) => (s, .error (ofPipeline e))

def finalizeWith (s : PipelineSession) (m : Message) : Outcome :=
  shown finalizeOutcomeView (s.run (Pipeline.finalize m))

/-- The answer for a batch report, with the quarantine object read back from `bucket`. -/
def reportView (s : PipelineSession) (bucket : String) (r : BatchReport) : Value :=
  let created := r.created.map fun id =>
    Value.obj [("order", .nat (s.created.idxOf id)), ("id", .str id.render)]
  let quarantine := match r.quarantineKey with
    | some k => match s.pipeline.objects.get bucket k with
      | .ok body => bytesValue ⟨body.toArray⟩
      | .error _ => .null
    | none => .null
  .obj [("created", .arr created), ("quarantined", .nat r.quarantined),
    ("skipped_duplicates", .nat r.skippedDuplicates),
    ("quarantine_key", match r.quarantineKey with | some k => .str (hideQuarantineStamp k) | none => .null),
    ("quarantine", quarantine)]

def processStep (s : PipelineSession) (messageId body : String) : Outcome :=
  match s.run (Pipeline.process messageId body) with
  | (.error e, s) => (s, .error (ofPipeline e))
  | (.ok report, s) =>
    let s := { s with created := s.created ++ report.created }
    let bucket := match IngestionTask.parse body with
      | .ok t => t.bucket
      | .error _ => s.pipeline.bucket
    (s, .ok (reportView s bucket report))

/-- Receives and finalizes every waiting event of the console's subscription, at most `fuel`. -/
def finalizeAll : Nat → PipelineSession → PipelineSession × List Value
  | 0, s => (s, [])
  | fuel + 1, s =>
    match s.pipeline.bus.take s.watch with
    | (_, none) => (s, [])
    | (bus, some m) =>
      let s := { s.update fun p => { p with bus } with events := s.events ++ [m] }
      let (s, r) := finalizeWith s m
      let (s, rest) := finalizeAll fuel s
      (s, .obj [("key", .str m.key), ("attempt", .nat m.attempt), ("outcome", r.toValue)] :: rest)

def orderMethod (o : Order) : String → Result (Value × Order)
  | "mark_consumed" => .ok (.str "ok", o.markConsumed clockNow)
  | "mark_notified" => .ok (.str "ok", o.markNotified clockNow)
  | "confirm" => .ok (match o.confirm clockNow with
    | .ok o' => (.str "ok", o')
    | .error e => ((ofDomain e).toValue, o))
  | "hold" => .ok (match o.hold clockNow with
    | .ok o' => (.str "ok", o')
    | .error e => ((ofDomain e).toValue, o))
  | other => .error (badInput ("unknown action " ++ other))

def ownCatalog (s : PipelineSession) : Result Catalog :=
  match s.pipeline.catalog with
  | .own c => .ok c
  | .ledger => .error (badInput "pipeline has no separate catalog")

def bucketArg (s : PipelineSession) (step : Value) : Result String :=
  return (← str? step "bucket").getD s.pipeline.bucket

def stockStep (s : PipelineSession) (name : String) (step : Value) : Result Outcome := do
  match name with
  | "set_stock" =>
    let key ← inventoryKeyArg step
    let q ← i64 step "quantity"
    let p := s.pipeline
    let (l, r) ← liftLedger (p.ledger.upsert key q (freshUuid p.issued) clockNow)
    let issued := if p.ledger.slot? key = none then p.issued + 1 else p.issued
    return (s.update fun p => { p with ledger := l, issued }, .ok (stockRecordView r))
  | "get_stock" => return (s, .ok (stockRecordView (← liftLedger (s.pipeline.ledger.get (← inventoryKeyArg step)))))
  | "consume" =>
    let key ← inventoryKeyArg step
    let quantity ← i64 step "quantity"
    let reference ← match arg? step "reference_order" with
      | some _ => pure (some (← indexed "order" s.created (← i64 step "reference_order")).render)
      | none => str? step "reference"
    let (l, o) ← liftLedger (s.pipeline.ledger.consume { key, quantity, reference } clockNow)
    return (s.update fun p => { p with ledger := l }, .ok (consumeOutcomeView o))
  | "add_sku" =>
    let c ← ownCatalog s
    let c := c.addSku (← codeArg step .sku "sku")
    return (s.update fun p => { p with catalog := .own c }, .ok (.str "ok"))
  | "add_hub" =>
    let c ← ownCatalog s
    let c := c.addHub (← codeArg step .hub "hub")
    return (s.update fun p => { p with catalog := .own c }, .ok (.str "ok"))
  | other => unknownStep other

def registrationStep (s : PipelineSession) (name : String) (step : Value) : Result Outcome := do
  match name with
  | "register" =>
    let n ← subscriptionRequestArg (← arg step "request")
    let p := s.pipeline
    let (r, sub) ← liftStore (p.registry.register n ⟨freshUuid p.issued⟩ clockNow)
    let view := subscriptionView sub ++ [("serialized", sub.toJson), ("index", .nat s.registered.length)]
    let s := { s.update fun p => { p with registry := r, issued := p.issued + 1 } with
      registered := s.registered ++ [sub] }
    return (s, .ok (.obj view))
  | "deactivate" =>
    let id ← match arg? step "sub" with
      | some _ => pure (← registeredArg s.registered step).id
      | none => liftDomain (SubscriptionId.parse (← str step "id"))
    let r ← liftStore (s.pipeline.registry.deactivate id clockNow)
    return (s.update fun p => { p with registry := r }, .ok (.str "ok"))
  | "notify" =>
    let tenant ← codeArg step .tenant "tenant_id"
    let event ← str step "event"
    let data ← arg step "data"
    let (n, s) := s.perform (Pipeline.notify tenant event data)
    return (s, .ok (.obj [("expected", .nat n)]))
  | other => unknownStep other

def intakeStep (s : PipelineSession) (name : String) (step : Value) : Result Outcome := do
  match name with
  | "put_object" =>
    let body := (← bytes step "body").toList
    let (objects, r) := s.pipeline.objects.put (← bucketArg s step) (← str step "key") body
    return (s.update fun p => { p with objects }, match r with
      | .ok () => .ok (.str "ok")
      | .error e => .error (ofObjects e))
  | "get_object" =>
    let body ← liftObjects (s.pipeline.objects.get (← bucketArg s step) (← str step "key"))
    return (s, .ok (bodyValue body))
  | "object_keys" =>
    match s.pipeline.objects.keys? (← bucketArg s step) ((← str? step "prefix").getD "") with
    | some ks => return (s, .ok (Value.strs (ks.map hideQuarantineStamp)))
    | none => throw (badInput "object_keys needs the object store in memory")
  | "submit" =>
    return shown (fun (r : IngestionReceipt) => .obj [("message_id", .str r.messageId),
      ("bucket", .str r.bucket), ("key", .str r.key)]) (s.run (Pipeline.submit (← str step "path")))
  | "receive" =>
    let max ← u64 step "max"
    let visibility := (← unsigned? step "visibility_ms" 64).getD 30000
    let p := s.pipeline
    match p.queue.receive max visibility clockMs fun k => (freshUuid (p.issued + k)).render with
    | none => throw { kind := "Panic", message := WorkQueue.instantOverflow }
    | some (q, ds) =>
      let views := ds.zipIdx.map fun (d, k) => deliveryView (s.deliveries.length + k) d
      let s := { s.update fun p => { p with queue := q, issued := p.issued + ds.length } with
        deliveries := s.deliveries ++ ds }
      return (s, .ok (.arr views))
  | "ack" =>
    let d ← indexed "delivery" s.deliveries (← i64 step "delivery")
    return (s.update fun p => { p with queue := p.queue.ack d.receipt }, .ok (.str "ok"))
  | "nack" =>
    let d ← indexed "delivery" s.deliveries (← i64 step "delivery")
    return (s.update fun p => { p with queue := p.queue.nack d.receipt }, .ok (.str "ok"))
  | "queue_state" =>
    let q := s.pipeline.queue
    return (s, .ok (.obj [("len", .nat q.size), ("in_flight", .nat (q.inFlight clockMs)),
      ("dead_letters", .arr (q.dead.map deadLetterView))]))
  | "process" =>
    match arg? step "delivery" with
    | some _ =>
      let d ← indexed "delivery" s.deliveries (← i64 step "delivery")
      return processStep s d.messageId d.body
    | none => return processStep s (← str step "message_id") (← str step "body")
  | other => unknownStep other

def finalizeStep (s : PipelineSession) (name : String) (step : Value) : Result Outcome := do
  match name with
  | "next_event" =>
    match s.pipeline.bus.take s.watch with
    | (bus, none) => return (s.update fun p => { p with bus }, .ok (.obj [("empty", .str "Empty")]))
    | (bus, some m) =>
      let view := eventView s.events.length m
      return ({ s.update fun p => { p with bus } with events := s.events ++ [m] }, .ok view)
  | "ack_event" =>
    let _ ← indexed "event" s.events (← i64 step "event")
    return (s, .ok (.str "ok"))
  | "nack_event" =>
    let m ← indexed "event" s.events (← i64 step "event")
    return (s.update fun p => { p with bus := p.bus.giveBack s.watch m }, .ok (.str "ok"))
  | "bus_state" =>
    let b := s.pipeline.bus
    return (s, .ok (.obj [("published", Value.strs ((b.publishedTo orderCreatedTopic).map (·.key))),
      ("published_all", .nat b.published.length),
      ("dead_letters", .arr (b.dead.map fun m => .obj [("key", .str m.key), ("attempt", .nat m.attempt)]))]))
  | "finalize" =>
    let m ← indexed "event" s.events (← i64 step "event")
    let n := (← unsigned? step "redeliver" 64).getD 0
    return finalizeWith s (m.redeliveredTimes n)
  | "finalize_all" =>
    let (s, rs) := finalizeAll (Pipeline.waiting s.pipeline s.watch + 1) s
    return (s, .ok (.arr rs))
  | "finalize_order" =>
    let id ← indexed "order" s.created (← i64 step "order")
    let o ← liftStore (s.pipeline.orders.get id)
    let (mid, s) := s.fresh
    let m := Message.ofJson mid orderCreatedTopic o.id.render (orderCreatedJson (.ofOrder o)) clockNow
    return finalizeWith s m
  | "finalize_payload" =>
    let payload ← bytes step "payload"
    let (mid, s) := s.fresh
    return finalizeWith s (Message.fresh mid orderCreatedTopic "" payload.toList clockNow)
  | "handle" =>
    let m ← indexed "event" s.events (← i64 step "event")
    let policy := match ← unsigned? step "retry_attempts" 32 with
      | some n => ⟨n, 0⟩
      | none => RetryPolicy.once
    let (r, s) := s.perform (Pipeline.handleWithRetry policy m)
    return shown (fun () => .str "ok") (r, s)
  | other => unknownStep other

def storedOrderStep (s : PipelineSession) (name : String) (step : Value) : Result Outcome := do
  match name with
  | "insert_order" =>
    let o ← orderArg (← arg step "order")
    let orders ← liftStore (s.pipeline.orders.insert o)
    let s := { s.update fun p => { p with orders } with created := s.created ++ [o.id] }
    return (s, .ok (.obj [("order", .nat (s.created.length - 1))]))
  | "get_order" =>
    let id ← indexed "order" s.created (← i64 step "order")
    return (s, .ok (orderView (← liftStore (s.pipeline.orders.get id))))
  | "get_order_id" =>
    let id ← liftDomain (OrderId.parse (← str step "id"))
    return (s, .ok (orderView (← liftStore (s.pipeline.orders.get id))))
  | "list_orders" =>
    return (s, .ok (orderIds (s.pipeline.orders.listByTenant (← codeArg step .tenant "tenant_id"))))
  | "order_count" => return (s, .ok (.nat s.pipeline.orders.size))
  | "order_do" =>
    let id ← indexed "order" s.created (← i64 step "order")
    let o ← liftStore (s.pipeline.orders.get id)
    let (result, o) ← orderMethod o (← str step "action")
    let (saved, s) := match s.pipeline.orders.save o with
      | .ok orders => (Value.str "ok", s.update fun p => { p with orders })
      | .error e => ((ofStore e).toValue, s)
    return (s, .ok (.obj [("result", result), ("saved", saved), ("order", orderView o)]))
  | other => unknownStep other

def workersStep (s : PipelineSession) : Outcome :=
  let deadBefore := s.pipeline.bus.dead.length
  let sentBefore := s.pipeline.transport.sent.length
  let (report, s) := s.perform (Pipeline.runWorkers 30000 s.retry)
  let s := s.numberNewOrders
  let p := s.pipeline
  let orders := s.created.filterMap fun id => (p.orders.get id).toOption
  (s, .ok (.obj [("settled", .bool report.settled), ("ingest", statsView report.ingest),
    ("finalize", statsView report.finalize), ("orders", .arr (orders.map orderView)),
    ("queue_dead_letters", .arr (p.queue.dead.map fun d =>
      .obj [("body", .str d.body), ("receive_count", .nat d.receives)])),
    ("bus_dead_letters", .nat (p.bus.dead.length - deadBefore)),
    ("webhook_counts", requestCounts (p.transport.sent.drop sentBefore))]))

def stepGroup (name : String) : Nat :=
  if ["set_stock", "get_stock", "consume", "add_sku", "add_hub"].contains name then 0
  else if ["register", "deactivate", "notify"].contains name then 1
  else if ["put_object", "get_object", "object_keys", "submit", "receive", "ack", "nack", "queue_state",
    "process"].contains name then 2
  else if ["next_event", "ack_event", "nack_event", "bus_state", "finalize", "finalize_all",
    "finalize_order", "finalize_payload", "handle"].contains name then 3
  else if name = "run_workers" then 5
  else 4

def pipelineAct (s : PipelineSession) (step : Value) : Result Outcome := do
  let name ← stepName step
  match stepGroup name with
  | 0 => stockStep s name step
  | 1 => registrationStep s name step
  | 2 => intakeStep s name step
  | 3 => finalizeStep s name step
  | 5 => return workersStep s
  | _ => storedOrderStep s name step

/-- Runs one step and answers it; requests sent to webhooks are shown beside the result,
except for a run of the workers, which counts them. -/
def pipelineStep (s : PipelineSession) (step : Value) : PipelineSession × Value :=
  let before := s.pipeline.transport.sent.length
  let (s', r) := match pipelineAct s step with
    | .ok outcome => outcome
    | .error f => (s, .error f)
  let sent := s'.pipeline.transport.sent.drop before
  let workers := match stepName step with
    | .ok "run_workers" => true
    | _ => false
  if sent.isEmpty || workers then (s', r.toValue)
  else
    (s', .obj [("result", r.toValue), ("webhooks", .arr (sent.map (webhookView s'.pipeline.registry)))])

def pipelineOptionsArg (cfg : Value) : Result PipelineOptions := do
  let catalog ← match (← str? cfg "catalog").getD "ledger" with
    | "ledger" => pure CatalogChoice.ledger
    | "separate" => pure .separate
    | "catalog_only" => pure .catalogOnly
    | "ledger_only" => pure .ledgerOnly
    | other => throw (badInput ("unknown catalog mode " ++ other))
  let files := (← str? cfg "objects") = some "fs"
  return {
    bucket := (← str? cfg "bucket").getD "orders"
    finalizerTimeoutMs := (← unsigned? cfg "finalizer_timeout_ms" 64).getD 5000
    webhookRetry := ⟨(← unsigned? cfg "webhook_retry_attempts" 32).getD 1, 0⟩
    maxDeliveries := (← unsigned? cfg "max_deliveries" 32).getD 5
    unreachable := ← strings "unreachable" (← list? cfg "unreachable")
    catalog, files }

def pipelineOp (req : Value) : Result Value := do
  let cfg := (arg? req "config").getD (.obj [])
  let options ← pipelineOptionsArg cfg
  let retry : RetryPolicy := ⟨(← unsigned? cfg "retry_attempts" 32).getD 1, 0⟩
  let p ← match Pipeline.build options with
    | .ok p => pure p
    | .error e => throw (ofPipeline e)
  let (bus, watch) := p.bus.subscribe orderCreatedTopic
  let session : PipelineSession := { pipeline := { p with bus }, watch, retry }
  let (_, answers) := runSteps pipelineStep session (← list req "steps")
  return .arr answers

end Fulfilment.Console
