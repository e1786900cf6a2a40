import Fulfilment.Json.Decode
import Fulfilment.Console.Redact
import Fulfilment.Console.Orders
import Fulfilment.Console.Ingest
import Fulfilment.Console.Webhooks
import Fulfilment.Console.Execution
import Fulfilment.Console.Messages
import Fulfilment.Console.Stock
import Fulfilment.Console.Messaging
import Fulfilment.Console.Failures
import Fulfilment.Console.Setup
import Fulfilment.Console.Storage
import Fulfilment.Console.Dispatch
import Fulfilment.Console.Pipeline

/-!
The console: one JSON request line in, one JSON answer line out. The request's `op` picks the
operation; its answer is wrapped as `{"ok": ...}` or given as a failure object, written with
sorted keys, stamped instants hidden where the operation stamps them, and made-up identifiers
labelled.
-/

namespace Fulfilment.Console

open Json

def dispatch (op : String) (req : Value) : Result Value :=
  match op with
  | "code" => codeOp req
  | "uuid_id" => uuidIdOp req
  | "quantity" => quantityOp req
  | "status" => statusOp req
  | "order" => orderOp ⟨freshUuid 0⟩ req
  | "order_event_json" => orderEventJsonOp req
  | "ingestion_task" => ingestionTaskOp req
  | "csv_schema" => csvSchemaOp req
  | "idempotency_key" => idempotencyKeyOp req
  | "quarantine_key" => quarantineKeyOp req
  | "sign" => signOp req
  | "verify" => verifyOp req
  | "webhook_payload" => webhookPayloadOp req
  | "subscription" => subscriptionOp ⟨freshUuid 0⟩ req
  | "request_header" => requestHeaderOp req
  | "retry" => retryOp req
  | "pool_size" => poolSizeOp req
  | "deadline" => deadlineOp req
  | "message" => messageOp req
  | "ledger" => ledgerOp req
  | "catalog" => catalogOp req
  | "work_queue" => workQueueOp req
  | "event_bus" => eventBusOp req
  | "pipeline_error" => pipelineErrorOp req
  | "config" => configOp req
  | "connect_backends" => connectBackendsOp req
  | "http_inventory" => httpInventoryOp req
  | "object_store" => objectStoreOp req
  | "order_store" => orderStoreOp req
  | "dispatcher" => dispatcherOp req
  | "pipeline" => pipelineOp req
  | other => .error (badInput ("unknown op " ++ other))

def answer (req : Value) : String × Value :=
  match (req.field? "op").bind Value.getStr? with
  | none => ("", (badInput "missing field op").toValue)
  | some op =>
    let v := match dispatch op req with
      | .ok v => .obj [("ok", v)]
      | .error f => f.toValue
    (op, v)

def hideStamps (op : String) (v : Value) : Value :=
  if op = "pipeline" ∨ op = "ledger" then hideTimes none v
  else if op = "dispatcher" then hideTimes (some "body") v
  else v

def respond (line : String) : String :=
  match parseText line.toUTF8 with
  | .error e => (badInput ("invalid request: " ++ e.text)).toValue.render
  | .ok req =>
    let (op, v) := answer req
    labelUuids line (hideStamps op v).sortKeys.render

end Fulfilment.Console
