import Fulfilment.Console.Stock
import Fulfilment.Console.Execution
import Fulfilment.Pipeline.Error

/-!
Console operation on failures: a collaborator's failure, named by where it comes from and its
variant, turned into a pipeline failure.
-/

namespace Fulfilment.Console

open Json

def unknownVariant {α : Type} : Result α := .error (badInput "unknown variant")

/-- A collaborator's failure from the request: its own text and the pipeline failure. -/
def sourceFailure (req : Value) (source variant : String) : Result (String × PipelineError) := do
  let both {ε : Type} (text : ε → String) (conv : ε → PipelineError) (e : ε) : String × PipelineError :=
    (text e, conv e)
  match source with
  | "ledger" =>
    let e : LedgerError ← match variant with
      | "NotFound" => pure (.notFound (← inventoryKeyArg req))
      | "Conflict" => pure (.conflict (← i64 req "available") (← i64 req "requested"))
      | "InvalidQuantity" => pure (.invalidQuantity (← i64 req "quantity"))
      | "Unavailable" => pure (.unavailable (← str req "message"))
      | "TimedOut" => pure (.timedOut (← str req "message"))
      | _ => unknownVariant
    return both LedgerError.message PipelineError.ofLedger e
  | "store" =>
    let m := fun (k : String → StoreError) => do return k (← str req "message")
    let e : StoreError ← match variant with
      | "NotFound" => m .notFound
      | "Conflict" => m .conflict
      | "Invalid" => m .invalid
      | "Corrupt" => m .corrupt
      | "Backend" => m .backend
      | "TimedOut" => m .timedOut
      | _ => unknownVariant
    return both StoreError.message PipelineError.ofStore e
  | "object_store" =>
    let e : ObjectStoreError ← match variant with
      | "NotFound" => pure (.notFound (← str req "bucket") (← str req "key"))
      | "InvalidKey" => pure (.invalidKey (← str req "message"))
      | "Io" => pure (.io (← str req "message"))
      | _ => unknownVariant
    return both ObjectStoreError.message PipelineError.ofObjects e
  | "domain" =>
    let e : DomainError ← match variant with
      | "Validation" => pure (.validation (← str req "message"))
      | "InvariantViolation" => pure (.invariant (← str req "message"))
      | "InvalidId" => pure (.invalidId (← str req "message"))
      | _ => unknownVariant
    return both DomainError.message PipelineError.ofDomain e
  | "catalog" =>
    return both CatalogError.message PipelineError.ofCatalog (.unavailable (← str req "message"))
  | "queue" =>
    let e : QueueError ← match variant with
      | "Poisoned" => pure .poisoned
      | "Backend" => pure (.backend (← str req "message"))
      | _ => unknownVariant
    return both QueueError.message PipelineError.ofQueue e
  | "bus" =>
    let e : BusError ← match variant with
      | "Poisoned" => pure .poisoned
      | "Serialization" => pure (.serialization (← str req "message"))
      | "Backend" => pure (.backend (← str req "message"))
      | _ => unknownVariant
    return both BusError.message PipelineError.ofBus e
  | "transport" =>
    let e : Webhook.TransportError ← match variant with
      | "Request" => pure (.request (← str req "message"))
      | "Status" => pure (.status (← unsigned req "status" 16))
      | _ => unknownVariant
    return both Webhook.TransportError.message PipelineError.ofTransport e
  | "config" =>
    match variant with
    | "Invalid" =>
      let e : ConfigError := ⟨← str req "key", ← str req "value", ← str req "reason"⟩
      return both ConfigError.message PipelineError.ofConfig e
    | _ => unknownVariant
  | "direct" =>
    let cls : FailureClass ← match variant with
      | "Validation" => pure .validation
      | "NotFound" => pure .notFound
      | "Conflict" => pure .conflict
      | "Transient" => pure .transient
      | "Fatal" => pure .fatal
      | "TimedOut" => pure .timedOut
      | _ => unknownVariant
    return ("", ⟨cls, ← str req "message"⟩)
  | other => throw (badInput ("unknown from " ++ other))

def pipelineErrorOp (req : Value) : Result Value := do
  let (text, e) ← sourceFailure req (← str req "from") (← str req "variant")
  return .obj [("source_message", .str text), ("kind", .str e.cls.name), ("message", .str e.message),
    ("transient", .bool e.isTransient)]

end Fulfilment.Console
