import Fulfilment.Webhook.Registry
import Fulfilment.Webhook.Signature
import Fulfilment.Webhook.Transport
import Fulfilment.Messaging.Retry

/-!
Dispatching an event to webhooks: every active subscription of the tenant that wants the event
gets one delivery job, delivered under the retry policy while the queue has room.
-/

namespace Fulfilment.Webhook

open Json

/-- How the delivery of one request ended. -/
inductive DeliveryStatus where
  | delivered (status : Nat)
  | failed (error : String)
  | dropped
  deriving DecidableEq, Repr

/-- The outcome of delivering to one subscription. -/
structure DeliveryOutcome where
  subscription : SubscriptionId
  url : String
  attempts : Nat
  status : DeliveryStatus
  deriving DecidableEq, Repr

def DeliveryOutcome.isDelivered (o : DeliveryOutcome) : Bool :=
  match o.status with
  | .delivered _ => true
  | _ => false

def requestFor (s : Subscription) (body : List UInt8) : Request :=
  let signature := match s.secret with
    | some secret => [(signatureHeader, sign secret ⟨body.toArray⟩)]
    | none => []
  { url := s.callbackUrl,
    headers := [("Content-Type", "application/json")] ++ s.headers.entries ++ signature,
    body }

/-- A job for the delivery pool: a request for a subscription, delivered under a retry policy. -/
structure DeliveryJob where
  subscription : SubscriptionId
  request : Request
  retry : RetryPolicy
  deriving DecidableEq, Repr

def DeliveryJob.dropped (job : DeliveryJob) : DeliveryOutcome :=
  { subscription := job.subscription, url := job.request.url, attempts := 0, status := .dropped }

/-- The outcome of a job after `attempts` transport calls, the last of which gave `result`. -/
def DeliveryJob.outcome (job : DeliveryJob) (attempts : Nat) (result : Except TransportError Nat) :
    DeliveryOutcome :=
  { subscription := job.subscription, url := job.request.url, attempts,
    status := match result with
      | .ok code => .delivered code
      | .error e => .failed e.message }

/-- The jobs an event of a tenant fans out to: one for each subscription that wants it, in the
registry's order, each with the request for that subscription and the dispatcher's policy. -/
def jobsFor (registry : Registry) (policy : RetryPolicy) (tenant : TenantId) (event : String)
    (data : Value) : List DeliveryJob :=
  let body := (payloadBody tenant event data).toUTF8.toList
  (registry.activeFor tenant event).map fun s =>
    { subscription := s.id, request := requestFor s body, retry := policy }

/-- Delivers a request under a policy: the number of attempts made and the last result. -/
def deliver {m : Type → Type} [Monad m] (send : Request → m (Except TransportError Nat))
    (policy : RetryPolicy) (r : Request) : m (Nat × Except TransportError Nat) := do
  let tries : Nat → StateT Nat m (Except TransportError Nat) := fun attempt => do
    set attempt
    send r
  let (result, attempts) ← (policy.run tries).run 0
  return (attempts, result)

/-- Dispatches an event of a tenant with its data to the subscriptions that want it: their jobs,
in order, each delivered unless the queue is already full. -/
def dispatch {m : Type → Type} [Monad m] (send : Request → m (Except TransportError Nat))
    (registry : Registry) (policy : RetryPolicy) (capacity : Nat) (tenant : TenantId) (event : String)
    (data : Value) : m (List DeliveryOutcome) :=
  (jobsFor registry policy tenant event data).zipIdx.mapM fun (job, k) => do
    if k ≥ capacity then
      return job.dropped
    let (attempts, result) ← deliver send job.retry job.request
    return job.outcome attempts result

/-- A transport that records what it delivers, and fails for some URLs as if nothing listened
there. -/
structure Recorder where
  unreachable : List String := []
  sent : List Request := []
  deriving DecidableEq, Repr

def Recorder.send (r : Request) : StateM Recorder (Except TransportError Nat) := do
  let t ← get
  if t.unreachable.contains r.url then
    return .error (.request ("connection refused: " ++ r.url))
  set { t with sent := t.sent ++ [r] }
  return .ok 200

end Fulfilment.Webhook
