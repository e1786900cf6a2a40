import Fulfilment.Console.Stock
import Fulfilment.Console.Storage
import Fulfilment.Console.Webhooks
import Fulfilment.Webhook.Dispatch

/-!
Console operation on webhook dispatch: a registry of subscriptions and a dispatcher that
delivers through a recording transport, driven by steps.
-/

namespace Fulfilment.Console

open Json Webhook

def deliveryCapacity : Nat := 4096

def outcomeView (o : DeliveryOutcome) : Value :=
  let status := match o.status with
    | .delivered code => Value.obj [("delivered", .nat code)]
    | .failed e => .obj [("failed", .str e)]
    | .dropped => .str "dropped"
  .obj [("subscription_id", .str o.subscription.render), ("url", .str o.url), ("attempts", .nat o.attempts),
    ("status", status), ("delivered", .bool o.isDelivered)]

def sentView (r : Request) : Value :=
  let body := match parseText ⟨r.body.toArray⟩ with
    | .ok v => v
    | .error _ => bytesValue ⟨r.body.toArray⟩
  .obj [("url", .str r.url), ("headers", .arr (r.headers.map fun (k, x) => .arr [.str k, .str x])),
    ("content_type", match r.header? "content-type" with | some x => .str x | none => .null),
    ("body", body)]

def subscriptionRequestArg (v : Value) : Result NewSubscription := do
  let w ← decodeArgValue NewSubscription.shape v
  match NewSubscription.ofValue w with
  | some n => return n
  | none => throw (badInput "field request is not a subscription request")

def registeredArg (registered : List Subscription) (step : Value) : Result Subscription := do
  let i ← i64 step "sub"
  match (if 0 ≤ i then registered[i.toNat]? else none) with
  | some sub => return sub
  | none => throw (badInput "no such subscription")

/-- The registry, the transport, the registered subscriptions and the identities used. -/
structure DispatchSession where
  registry : Registry := {}
  recorder : Recorder
  policy : RetryPolicy
  registered : List Subscription := []
  used : Nat := 0

def dispatchStep (s : DispatchSession) (step : Value) : Result (DispatchSession × Value) := do
  match ← stepName step with
  | "register" =>
    let n ← subscriptionRequestArg (← arg step "request")
    let (r, sub) ← liftStore (s.registry.register n ⟨freshUuid s.used⟩ clockNow)
    let view := subscriptionView sub ++ [("serialized", sub.toJson), ("index", .nat s.registered.length)]
    return ({ s with registry := r, registered := s.registered ++ [sub], used := s.used + 1 }, .obj view)
  | "deactivate" =>
    let id ← match arg? step "sub" with
      | some _ => pure (← registeredArg s.registered step).id
      | none => liftDomain (SubscriptionId.parse (← str step "id"))
    return ({ s with registry := ← liftStore (s.registry.deactivate id clockNow) }, .str "ok")
  | "active_for" =>
    let subs := s.registry.activeFor (← codeArg step .tenant "tenant_id") (← str step "event")
    return (s, Value.strs (subs.map (·.id.render)))
  | "list" =>
    return (s, Value.strs ((s.registry.list (← codeArg step .tenant "tenant_id")).map (·.id.render)))
  | "notify" =>
    let tenant ← codeArg step .tenant "tenant_id"
    let event ← str step "event"
    let data ← arg step "data"
    let before := s.recorder.sent.length
    let (outcomes, recorder) :=
      (dispatch Recorder.send s.registry s.policy deliveryCapacity tenant event data).run s.recorder
    return ({ s with recorder }, .obj [("expected", .nat outcomes.length),
      ("outcomes", .arr (outcomes.map outcomeView)),
      ("requests", .arr ((recorder.sent.drop before).map sentView))])
  | other => unknownStep other

def dispatcherOp (req : Value) : Result Value := do
  let unreachable ← strings "unreachable" (← list? req "unreachable")
  let attempts := (← unsigned? req "retry_attempts" 32).getD 1
  let session : DispatchSession := { recorder := { unreachable }, policy := ⟨attempts, 0⟩ }
  let (_, answers) := runSteps (stepOrFail dispatchStep) session (← list req "steps")
  return .arr answers

end Fulfilment.Console
