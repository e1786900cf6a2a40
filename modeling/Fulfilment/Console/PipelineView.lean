import Fulfilment.Console.Dispatch
import Fulfilment.Console.Messaging
import Fulfilment.Pipeline.Workers
import Fulfilment.Pipeline.Build

/-!
How the console shows what the pipeline did: finalization outcomes, batch reports, received
events, webhook requests and worker counts. Quarantine keys carry the time they were written
at, which the console hides, and webhook signatures are shown only as valid or not, judged with
the secrets of the subscriptions registered for the request's URL.
-/

namespace Fulfilment.Console

open Json Webhook

def finalizeOutcomeView : FinalizeOutcome → Value
  | .confirmed r =>
    .obj [("outcome", .str "confirmed"), ("remaining", match r with | some n => .int n | none => .null)]
  | .onHold a r => .obj [("outcome", .str "on_hold"), ("available", .int a), ("requested", .int r)]
  | .alreadyFinalized => .obj [("outcome", .str "already_finalized")]

def hideQuarantineStamp (key : String) : String :=
  let cs := key.toList
  if "errors/".toList.isPrefixOf cs && ".csv".toList.isSuffixOf cs then
    let stem := (cs.take (cs.length - 4)).reverse
    let rest := stem.dropWhile Char.isDigit
    if rest.length < stem.length && rest.head? = some '-' then String.ofList rest.reverse ++ "<ts>.csv"
    else key
  else key

/-- The answer for a received event: its number, its parts and its payload read as JSON. -/
def eventView (index : Nat) (m : Message) : Value :=
  let payload := match parseText ⟨m.payload.toArray⟩ with
    | .ok v => v
    | .error _ => bytesValue ⟨m.payload.toArray⟩
  .obj [("event", .nat index), ("id", .str m.id.render), ("topic", .str m.topic), ("key", .str m.key),
    ("attempt", .nat m.attempt), ("payload", payload)]

/-- Whether a signature is valid for a request under the secret of some subscription
registered for its URL. -/
def signatureValid (registry : Registry) (r : Request) (signature : String) : Bool :=
  registry.subscriptions.any fun s =>
    s.callbackUrl == r.url && (s.secret.map fun k => verify k ⟨r.body.toArray⟩ signature).getD false

/-- The answer for a request sent to a webhook, its signature judged instead of shown. -/
def webhookView (registry : Registry) (r : Request) : Value :=
  let headers := r.headers.map fun (k, x) =>
    if sameHeaderName k signatureHeader then
      (k, if signatureValid registry r x then "<valid signature>" else "<invalid signature>")
    else (k, x)
  sentView { r with headers }

def statsView (s : WorkerStats) : Value :=
  .obj [("received", .nat s.received), ("succeeded", .nat s.succeeded), ("failed", .nat s.failed),
    ("in_flight", .nat s.inFlight)]

def requestEvent (r : Request) : String :=
  match parseText ⟨r.body.toArray⟩ with
  | .ok v => ((v.field? "event").bind Value.getStr?).getD ""
  | .error _ => ""

def countRequest (counts : List ((String × String) × Nat)) (r : Request) :
    List ((String × String) × Nat) :=
  let k := (r.url, requestEvent r)
  if counts.any (·.1 == k) then counts.map fun (k', n) => if k' == k then (k', n + 1) else (k', n)
  else counts ++ [(k, 1)]

/-- Requests counted by URL and event, in order of URL and then event. -/
def requestCounts (rs : List Request) : Value :=
  let counts := (rs.foldl countRequest []).mergeSort fun a b =>
    decide (a.1.1 < b.1.1) || (a.1.1 == b.1.1 && decide (a.1.2 ≤ b.1.2))
  .arr (counts.map fun ((url, event), n) => .arr [.str url, .str event, .nat n])

end Fulfilment.Console
