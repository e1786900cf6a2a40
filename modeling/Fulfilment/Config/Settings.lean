import Fulfilment.Config.Pool
import Fulfilment.Config.Error
import Fulfilment.Messaging.Retry
import Fulfilment.Net.SocketAddr
import Fulfilment.Text.Integer
import Fulfilment.Text.Blank

/-!
The pipeline's settings, read from named values such as environment variables. A blank value
counts as unset and takes its default, and the first value that does not read is refused, in the
order the settings are read below.
-/

namespace Fulfilment

open Net

/-- The pipeline's settings. -/
structure Settings where
  bucket : String
  queuePool : PoolSize
  queueVisibilitySecs : Nat
  queueMaxReceives : Nat
  busPool : PoolSize
  retry : RetryPolicy
  finalizerTimeoutMs : Nat
  webhookWorkers : Nat
  webhookQueue : Nat
  webhookTimeoutMs : Nat
  webhookRetry : RetryPolicy
  imsBaseUrl : Option String
  databaseUrl : Option String
  redisUrl : Option String
  objectRoot : Option String
  listenAddr : SocketAddr
  deriving DecidableEq, Repr

namespace Settings

def defaults : Settings where
  bucket := "orders"
  queuePool := PoolSize.make 2 2
  queueVisibilitySecs := 30
  queueMaxReceives := 5
  busPool := PoolSize.make 2 2
  retry := ⟨3, 1000⟩
  finalizerTimeoutMs := 5000
  webhookWorkers := 4
  webhookQueue := 256
  webhookTimeoutMs := 5000
  webhookRetry := ⟨1, 1000⟩
  imsBaseUrl := none
  databaseUrl := none
  redisUrl := none
  objectRoot := none
  listenAddr := .v4 [0, 0, 0, 0] 8080

abbrev Lookup := String → Option String

def value? (env : Lookup) (key : String) : Option String :=
  (env key).filter fun v => !Text.isBlankText v

def unsigned (env : Lookup) (key : String) (bits default : Nat) : Except SettingsError Nat :=
  match value? env key with
  | none => .ok default
  | some raw =>
    match Text.parseUnsigned bits (Text.trimBlank raw) with
    | .ok n => .ok n
    | .error e => .error (.invalid ⟨key, raw, e.message⟩)

def address (env : Lookup) (key : String) (default : SocketAddr) : Except SettingsError SocketAddr :=
  match value? env key with
  | none => .ok default
  | some raw =>
    match SocketAddr.parse (Text.trimBlank raw) with
    | some a => .ok a
    | none => .error (.invalid ⟨key, raw, syntaxError⟩)

/-- Reads the settings; the retry count overflows once every setting before the listen address
has been read. -/
def read (env : Lookup) : Except SettingsError Settings := do
  let d := defaults
  let webhookRetries ← unsigned env "ORDERFLOW_WEBHOOK_RETRIES" 32 0
  let retryDelay ← unsigned env "ORDERFLOW_RETRY_DELAY_MS" 64 d.retry.delayMs
  let bucket := (value? env "ORDERFLOW_BUCKET").getD d.bucket
  let queueWorkers ← unsigned env "ORDERFLOW_QUEUE_WORKERS" 64 d.queuePool.workers
  let queueConcurrency ← unsigned env "ORDERFLOW_QUEUE_CONCURRENCY" 64 d.queuePool.concurrency
  let queueVisibilitySecs ← unsigned env "ORDERFLOW_QUEUE_VISIBILITY_SECS" 64 d.queueVisibilitySecs
  let queueMaxReceives ← unsigned env "ORDERFLOW_QUEUE_MAX_RECEIVES" 32 d.queueMaxReceives
  let busWorkers ← unsigned env "ORDERFLOW_BUS_WORKERS" 64 d.busPool.workers
  let busConcurrency ← unsigned env "ORDERFLOW_BUS_CONCURRENCY" 64 d.busPool.concurrency
  let retryAttempts ← unsigned env "ORDERFLOW_RETRY_ATTEMPTS" 32 d.retry.attempts
  let finalizerTimeoutMs ← unsigned env "ORDERFLOW_FINALIZER_TIMEOUT_MS" 64 d.finalizerTimeoutMs
  let webhookWorkers ← unsigned env "ORDERFLOW_WEBHOOK_WORKERS" 64 d.webhookWorkers
  let webhookQueue ← unsigned env "ORDERFLOW_WEBHOOK_QUEUE" 64 d.webhookQueue
  let webhookTimeoutMs ← unsigned env "ORDERFLOW_WEBHOOK_TIMEOUT_MS" 64 d.webhookTimeoutMs
  let webhookAttempts := webhookRetries + 1
  if webhookAttempts ≥ Nat.pow 2 32 then throw .retriesOverflow
  let listenAddr ← address env "ORDERFLOW_LISTEN_ADDR" d.listenAddr
  return {
    bucket
    queuePool := PoolSize.make queueWorkers queueConcurrency
    queueVisibilitySecs, queueMaxReceives
    busPool := PoolSize.make busWorkers busConcurrency
    retry := ⟨retryAttempts, retryDelay⟩
    finalizerTimeoutMs
    webhookWorkers := max webhookWorkers 1
    webhookQueue := max webhookQueue 1
    webhookTimeoutMs
    webhookRetry := ⟨webhookAttempts, retryDelay⟩
    imsBaseUrl := value? env "ORDERFLOW_IMS_BASE_URL"
    databaseUrl := value? env "DATABASE_URL"
    redisUrl := value? env "REDIS_URL"
    objectRoot := value? env "ORDERFLOW_OBJECT_ROOT"
    listenAddr }

end Settings

end Fulfilment
