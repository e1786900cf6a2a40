import Fulfilment.Console.Orders
import Fulfilment.Messaging.Message

/-!
Console operations on messages.
-/

namespace Fulfilment.Console

open Json Wire

/-- A UUID argument; its reading problem is the failure text. -/
def uuidArg (req : Value) (k : String) : Result Uuid := do
  match Uuid.parse (← str req k) with
  | .ok u => return u
  | .error e => throw (badInput e.message)

def redeliveries (m : Message) : Nat → List Message
  | 0 => [m]
  | n + 1 => m :: redeliveries m.redelivered n

/-- Reads the payload as JSON of a shape, a failure in place of a bad payload. -/
def payloadAs (sh : Shape) (conv : Value → Value) (m : Message) : Value :=
  match decodeText sh ⟨m.payload.toArray⟩ with
  | .ok v => conv v
  | .error e => (ofJsonError e).toValue

def eventOfPayload (v : Value) : Value :=
  match orderCreatedOf v with
  | some e => orderCreatedJson e
  | none => (ofJson "invalid value").toValue

def redeliveryLimit : Nat := 100

/-- `message`: a message from its parts, redelivered (at most `redeliveryLimit` times), written
and read back. -/
def messageOp (req : Value) : Result Value := do
  let id ← uuidArg req "id"
  let payload ← bytes req "payload"
  let attempt ← match ← unsigned? req "attempt" 64 with
    | some n => fitU32 "attempt" n
    | none => pure 1
  let m := Message.ofParts id (← str req "topic") (← str req "key") payload.toList attempt (← instant req "published_at")
  let stages := redeliveries m (min ((← unsigned? req "redeliver" 64).getD 0) redeliveryLimit)
  let last := stages.getLastD m
  return .obj [("attempts", .arr (stages.map fun s => .nat s.attempt)), ("serialized", last.toJson),
    ("decoded_event", payloadAs orderCreatedShape eventOfPayload last),
    ("decoded_value", payloadAs .any (fun v => v) last)]

end Fulfilment.Console
