import Fulfilment.Console.Stock
import Fulfilment.Console.Execution
import Fulfilment.Pipeline.Backends

/-!
Console operations on setting the pipeline up: reading its settings, choosing its backends, and
the calls a client of the inventory service would make.
-/

namespace Fulfilment.Console

open Json Net

def poolView (p : PoolSize) : Value := .obj [("workers", .nat p.workers), ("concurrency", .nat p.concurrency)]

def retryView (p : RetryPolicy) : Value := .obj [("attempts", .nat p.attempts), ("delay_ms", .nat p.delayMs)]

def optionalText : Option String → Value
  | some s => .str s
  | none => .null

def settingsView (s : Settings) : Value :=
  .obj [("bucket", .str s.bucket), ("queue_pool", poolView s.queuePool),
    ("queue_visibility_secs", .nat s.queueVisibilitySecs), ("queue_max_receives", .nat s.queueMaxReceives),
    ("bus_pool", poolView s.busPool), ("retry", retryView s.retry),
    ("finalizer_timeout_ms", .nat s.finalizerTimeoutMs), ("webhook_workers", .nat s.webhookWorkers),
    ("webhook_queue", .nat s.webhookQueue), ("webhook_timeout_ms", .nat s.webhookTimeoutMs),
    ("webhook_retry", retryView s.webhookRetry), ("ims_base_url", optionalText s.imsBaseUrl),
    ("database_url", optionalText s.databaseUrl), ("redis_url", optionalText s.redisUrl),
    ("object_root", optionalText s.objectRoot), ("listen_addr", .str s.listenAddr.render),
    ("is_default", .bool (s == Settings.defaults))]

def envArg (req : Value) : Result (List (String × String)) := do
  match ← arg req "env" with
  | .obj ms => ms.mapM fun (k, v) =>
    match v with
    | .str s => .ok (k, s)
    | _ => .error (badInput "field env must map names to strings")
  | _ => throw (badInput "field env must be an object")

/-- A lookup in named values; the last of equal names wins. -/
def lookupIn (env : List (String × String)) : Settings.Lookup :=
  fun k => (env.reverse.find? (·.1 == k)).map (·.2)

/-- The failure of settings that cannot be made; `keyed` adds the name of a refused setting. -/
def ofSettings (keyed : Bool) : SettingsError → Failure
  | .invalid e => { kind := "Invalid", message := e.message,
                    extra := if keyed then [("key", .str e.key)] else [] }
  | .retriesOverflow => { kind := "Panic", message := SettingsError.retriesOverflow.message }

def configOp (req : Value) : Result Value := do
  match Settings.read (lookupIn (← envArg req)) with
  | .ok s => return settingsView s
  | .error e => throw (ofSettings true e)

/-- `connect_backends`: reads settings and chooses backends; a database that would be opened is
refused. -/
def connectBackendsOp (req : Value) : Result Value := do
  let s ← match Settings.read (lookupIn (← envArg req)) with
    | .ok s => pure s
    | .error e => throw (ofSettings false e)
  match Backends.databaseTarget s with
  | .ok (some _) => throw (badInput "DATABASE_URL would open a connection")
  | .ok none => pure ()
  | .error e => throw (ofPipeline e)
  match Backends.connect s with
  | .ok _ => return .obj [("bucket", .str s.bucket), ("config", settingsView s)]
  | .error e => throw (ofPipeline e)

def ofCatalog (e : CatalogError) : Failure := { kind := "Unavailable", message := e.message }

/-- The answer for a request the client would send: the console does not send it. -/
def unsent {ε : Type} (fail : ε → Failure) : Except ε ServiceRequest → Result Value
  | .ok _ => .error (badInput "call would reach the network")
  | .error e => .error (fail e)

def remoteStep (c : RemoteInventory) (u : Unit) (step : Value) : Result (Unit × Value) := do
  let v ← match ← stepName step with
    | "get" => unsent ofLedger (c.get (← inventoryKeyArg step))
    | "upsert" => unsent ofLedger (c.upsert (← inventoryKeyArg step) (← i64 step "quantity"))
    | "consume" => unsent ofLedger (c.consume (← consumeArg step))
    | "sku_exists" => unsent ofCatalog (c.skuExists (← codeArg step .sku "sku"))
    | "hub_exists" => unsent ofCatalog (c.hubExists (← codeArg step .hub "hub"))
    | other => unknownStep other
  return (u, v)

/-- `http_inventory`: steps against a client of the inventory service. -/
def httpInventoryOp (req : Value) : Result Value := do
  let c ← liftLedger (RemoteInventory.connect (← str req "base_url"))
  let (_, answers) := runSteps (stepOrFail (remoteStep c)) () (← list req "steps")
  return .arr answers

end Fulfilment.Console
