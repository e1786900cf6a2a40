import Fulfilment.Ident.Code
import Fulfilment.Ident.Id
import Fulfilment.Order.Wire
import Fulfilment.Time.Instant
import Fulfilment.Json.Write

/-!
Webhook subscriptions. A request names a tenant, a callback URL, the events wanted, extra
headers and maybe a secret. It is valid when the trimmed URL starts with `http://` or
`https://` and the events are a non-empty list of names that are not blank. Registering keeps
the trimmed URL and event names, drops an empty secret, and starts active. An active
subscription wants an event of its tenant whose name is one of its events exactly.
-/

namespace Fulfilment.Webhook

open Json

/-- Extra headers: one value per name, in name order. -/
structure HeaderMap where
  entries : List (String × String)
  sorted : KeysSorted entries

instance : DecidableEq HeaderMap := fun a b =>
  if h : a.entries = b.entries then isTrue (by cases a; cases b; cases h; rfl)
  else isFalse fun e => h (by rw [e])

instance : Repr HeaderMap := ⟨fun h p => reprPrec h.entries p⟩

instance : EmptyCollection HeaderMap := ⟨⟨[], .nil⟩⟩

/-- Sets a header, replacing the value of one of the same name. -/
def HeaderMap.insert (h : HeaderMap) (name value : String) : HeaderMap :=
  ⟨insertSorted name value h.entries, h.sorted.insertSorted⟩

/-- The headers of name and value pairs taken in order, a later one replacing an earlier one of
the same name. -/
def HeaderMap.ofList (ms : List (String × String)) : HeaderMap :=
  ms.foldl (fun h m => h.insert m.1 m.2) {}

/-- A request to subscribe. -/
structure NewSubscription where
  tenant : TenantId
  callbackUrl : String
  events : List String
  headers : HeaderMap
  secret : Option String
  deriving DecidableEq, Repr

/-- A registered subscription. -/
structure Subscription where
  id : SubscriptionId
  tenant : TenantId
  callbackUrl : String
  events : List String
  headers : HeaderMap
  secret : Option String
  isActive : Bool
  createdAt : Instant
  updatedAt : Instant
  deriving DecidableEq, Repr

def NewSubscription.validate (n : NewSubscription) : Except DomainError Unit := do
  let url := Text.trimBlank n.callbackUrl
  if !(url.startsWith "http://" || url.startsWith "https://") then
    throw (.validation ("callback_url must be an http(s) URL, got " ++ Text.quoted url))
  if n.events.isEmpty || n.events.any Text.isBlankText then
    throw (.validation "events must be a non-empty list of names")

def NewSubscription.register (n : NewSubscription) (id : SubscriptionId) (now : Instant) :
    Except DomainError Subscription := do
  n.validate
  return { id, tenant := n.tenant, callbackUrl := Text.trimBlank n.callbackUrl,
           events := n.events.map Text.trimBlank, headers := n.headers,
           secret := n.secret.filter (· ≠ ""), isActive := true, createdAt := now, updatedAt := now }

def Subscription.wants (s : Subscription) (tenant : TenantId) (event : String) : Bool :=
  s.isActive && s.tenant == tenant && s.events.contains event

def NewSubscription.shape : Shape :=
  .record "NewSubscription" [("tenant_id", Wire.codeShape .tenant, none), ("callback_url", .text, none),
    ("events", .list .text, none), ("headers", .dict .text, some (.obj [])),
    ("secret", .optional .text, some .null)]

def NewSubscription.ofValue (v : Value) : Option NewSubscription := do
  let tenant ← (v.field? "tenant_id").bind (Wire.codeOf .tenant)
  let callbackUrl ← (v.field? "callback_url").bind Value.getStr?
  let events ← ((v.field? "events").bind Value.getArr?).bind fun xs => xs.mapM Value.getStr?
  let headers ← ((v.field? "headers").bind Value.getObj?).bind fun ms =>
    ms.mapM fun (k, x) => x.getStr?.map fun s => (k, s)
  let secret := (v.field? "secret").bind Value.getStr?
  return { tenant, callbackUrl, events, headers := HeaderMap.ofList headers, secret }

/-- The JSON of a subscription; the secret is never written. -/
def Subscription.toJson (s : Subscription) : Value :=
  .obj [("id", .str s.id.render), ("tenant_id", .str s.tenant.text), ("callback_url", .str s.callbackUrl),
    ("events", Value.strs s.events), ("headers", .obj (s.headers.entries.map fun (k, x) => (k, .str x))),
    ("is_active", .bool s.isActive), ("created_at", .str s.createdAt.render),
    ("updated_at", .str s.updatedAt.render)]

/-- The text of the body sent for an event: tenant, event name and data, in that order, with
the data's objects in key order. -/
def payloadBody (tenant : TenantId) (event : String) (data : Value) : String :=
  (Value.obj [("tenant_id", .str tenant.text), ("event", .str event), ("data", data.sortKeys)]).render

end Fulfilment.Webhook
