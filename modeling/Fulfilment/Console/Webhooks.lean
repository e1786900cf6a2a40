import Fulfilment.Console.Orders
import Fulfilment.Webhook.Signature
import Fulfilment.Webhook.Subscription
import Fulfilment.Webhook.Request

/-!
Console operations on webhooks: signing and verifying bodies, the body of an event,
subscriptions and the headers of a request.
-/

namespace Fulfilment.Console

open Json Wire Webhook

def signOp (req : Value) : Result Value := do
  let secret ← str req "secret"
  let body ← bytes req "body"
  let s := sign secret body
  return .obj [("signature", .str s), ("verifies", .bool (verify secret body s)),
    ("header", .str signatureHeader)]

def verifyOp (req : Value) : Result Value := do
  return .obj [("valid", .bool (verify (← str req "secret") (← bytes req "body") (← str req "header")))]

def webhookPayloadOp (req : Value) : Result Value := do
  let tenant ← liftDomain (Code.make .tenant (← str req "tenant_id"))
  let event ← str req "event"
  let data ← arg req "data"
  return .obj [("json", .str (payloadBody tenant event data))]

def subscriptionView (s : Subscription) : List (String × Value) :=
  [("id", .str s.id.render), ("tenant_id", .str s.tenant.text), ("callback_url", .str s.callbackUrl),
    ("events", Value.strs s.events), ("headers", .obj (s.headers.entries.map fun (k, x) => (k, .str x))),
    ("secret", match s.secret with | some x => .str x | none => .null), ("is_active", .bool s.isActive)]

def probe (s : Subscription) (p : Value) : Value :=
  Result.toValue do
    let tenant ← liftDomain (Code.make .tenant (← str p "tenant_id"))
    return .bool (s.wants tenant (← str p "event"))

/-- `subscription`: registers a request and probes what it wants. -/
def subscriptionOp (freshId : SubscriptionId) (req : Value) : Result Value := do
  let v ← decodeArgValue NewSubscription.shape (← arg req "request")
  let n ← match NewSubscription.ofValue v with
    | some n => pure n
    | none => throw (badInput "field request is not a subscription request")
  liftDomain n.validate
  let s ← liftDomain (n.register freshId (← instant req "at"))
  let deactivate := (← bool? req "deactivate").getD false
  let probed := if deactivate then { s with isActive := false } else s
  let wants := (← list? req "probes").map (probe probed)
  return .obj (subscriptionView s ++
    [("serialized", s.toJson), ("validate", .str "ok"), ("wants", .arr wants)])

def headerArg (v : Value) : Result (String × String) :=
  match v with
  | .arr [.str k, .str x] => .ok (k, x)
  | _ => .error (badInput "field headers must be an array of [name, value] pairs")

/-- `request_header`: the value a request sends for a header. -/
def requestHeaderOp (req : Value) : Result Value := do
  let headers ← (← list req "headers").mapM headerArg
  let value := match headerValue? headers (← str req "name") with
    | some x => Value.str x
    | none => .null
  return .obj [("value", value)]

end Fulfilment.Console
