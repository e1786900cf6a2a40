import Fulfilment.Domain.Error
import Fulfilment.Stock.Basic
import Fulfilment.Store.Error
import Fulfilment.Messaging.WorkQueue
import Fulfilment.Messaging.EventBus
import Fulfilment.Webhook.Transport
import Fulfilment.Config.Error

/-!
Failures of the pipeline's stages. The class of a failure says whether it is worth trying again;
its detail text is only for people.
-/

namespace Fulfilment

/-- How a stage failed. -/
inductive FailureClass where
  | validation
  | notFound
  | conflict
  | transient
  | fatal
  | timedOut
  deriving DecidableEq, Repr

namespace FailureClass

def name : FailureClass → String
  | .validation => "Validation"
  | .notFound => "NotFound"
  | .conflict => "Conflict"
  | .transient => "Transient"
  | .fatal => "Fatal"
  | .timedOut => "TimedOut"

def lead : FailureClass → String
  | .validation => "validation error"
  | .notFound => "not found"
  | .conflict => "conflict"
  | .transient => "transient failure"
  | .fatal => "fatal"
  | .timedOut => "timed out"

end FailureClass

/-- A failure of a pipeline stage. -/
structure PipelineError where
  cls : FailureClass
  detail : String
  deriving DecidableEq, Repr

namespace PipelineError

/-- The text of a failure: its class's lead words, a colon and the detail. -/
def message (e : PipelineError) : String := e.cls.lead ++ ": " ++ e.detail

/-- Whether trying again may help: transient failures and timeouts. -/
def isTransient (e : PipelineError) : Bool := e.cls = .transient || e.cls = .timedOut

def ofDomain (e : DomainError) : PipelineError := ⟨.validation, e.message⟩

def ofLedger (e : LedgerError) : PipelineError :=
  let cls : FailureClass := match e with
    | .notFound _ => .notFound
    | .conflict _ _ => .conflict
    | .invalidQuantity _ => .validation
    | .unavailable _ => .transient
    | .timedOut _ => .timedOut
  ⟨cls, e.message⟩

def ofCatalog (e : CatalogError) : PipelineError := ⟨.transient, e.message⟩

def ofStore (e : StoreError) : PipelineError :=
  let cls : FailureClass := match e with
    | .notFound _ => .notFound
    | .conflict _ => .conflict
    | .invalid _ => .validation
    | .corrupt _ => .fatal
    | .backend _ => .transient
    | .timedOut _ => .timedOut
  ⟨cls, e.message⟩

def ofObjects (e : ObjectStoreError) : PipelineError :=
  let cls : FailureClass := match e with
    | .notFound _ _ => .notFound
    | .invalidKey _ => .validation
    | .io _ => .transient
  ⟨cls, e.message⟩

def ofQueue (e : QueueError) : PipelineError := ⟨.transient, e.message⟩

def ofBus (e : BusError) : PipelineError := ⟨.transient, e.message⟩

def ofTransport (e : Webhook.TransportError) : PipelineError := ⟨.transient, e.message⟩

def ofConfig (e : ConfigError) : PipelineError := ⟨.fatal, e.message⟩

end PipelineError

end Fulfilment
