import Fulfilment.Console.Stock
import Fulfilment.Messaging.WorkQueue
import Fulfilment.Messaging.EventBus

/-!
Console operations on the work queue and the event bus, driven by steps. Deliveries and
received messages are numbered in the order they arrive, across the whole operation, and a
later step names one by that number; for deliveries a negative number counts from the end.
-/

namespace Fulfilment.Console

open Json

def clockMs : Nat := clockStart

/-- A work queue, the deliveries received from it and the number of identities used. -/
structure QueueSession where
  queue : WorkQueue
  deliveries : List Delivery := []
  used : Nat := 0

def deliveryView (index : Nat) (d : Delivery) : Value :=
  .obj [("index", .nat index), ("message_id", .str d.messageId), ("receipt", .str d.receipt),
    ("body", .str d.body), ("receive_count", .nat d.receives)]

def deadLetterView (d : DeadLetter) : Value :=
  .obj [("message_id", .str d.messageId), ("body", .str d.body), ("receive_count", .nat d.receives)]

def queueStep (s : QueueSession) (step : Value) : Result (QueueSession × Value) := do
  match ← stepName step with
  | "send" =>
    let id := (freshUuid s.used).render
    return ({ s with queue := s.queue.send id (← str step "body"), used := s.used + 1 },
      .obj [("message_id", .str id)])
  | "receive" =>
    let max ← u64 step "max"
    let visibility := (← unsigned? step "visibility_ms" 64).getD 60000
    match s.queue.receive max visibility clockMs fun k => (freshUuid (s.used + k)).render with
    | none => throw { kind := "Panic", message := WorkQueue.instantOverflow }
    | some (q, ds) =>
      let views := ds.zipIdx.map fun (d, k) => deliveryView (s.deliveries.length + k) d
      return ({ queue := q, deliveries := s.deliveries ++ ds, used := s.used + ds.length }, .arr views)
  | "ack" =>
    let d ← indexed "delivery" s.deliveries (← i64 step "delivery")
    return ({ s with queue := s.queue.ack d.receipt }, .str "ok")
  | "nack" =>
    let d ← indexed "delivery" s.deliveries (← i64 step "delivery")
    return ({ s with queue := s.queue.nack d.receipt }, .str "ok")
  | "state" =>
    let q := s.queue
    return (s, .obj [("len", .nat q.size), ("is_empty", .bool (q.size == 0)),
      ("in_flight", .nat (q.inFlight clockMs)), ("dead_letters", .arr (q.dead.map deadLetterView))])
  | other => unknownStep other

def workQueueOp (req : Value) : Result Value := do
  let maxReceives := (← unsigned? req "max_receives" 32).getD WorkQueue.defaultMaxReceives
  let (_, answers) := runSteps (stepOrFail queueStep) { queue := WorkQueue.empty maxReceives }
    (← list req "steps")
  return .arr answers

/-- An event bus, the messages received from it and the number of identities used. -/
structure BusSession where
  bus : EventBus
  received : List Message := []
  used : Nat := 0

def messageMembers (m : Message) : List (String × Value) :=
  [("id", .str m.id.render), ("topic", .str m.topic), ("key", .str m.key),
    ("payload", bytesValue ⟨m.payload.toArray⟩), ("attempt", .nat m.attempt)]

def subscriptionArg (s : BusSession) (step : Value) : Result Nat := do
  let i ← u64 step "sub"
  if i < s.bus.inboxes.length then return i
  else throw (badInput "no such subscription")

def receivedArg (s : BusSession) (step : Value) : Result Message := do
  match s.received[← u64 step "msg"]? with
  | some m => return m
  | none => throw (badInput "no such message")

/-- Takes the next message of a subscription, answering `empty` when there is none. -/
def receiveStep (s : BusSession) (i : Nat) (empty : String) : BusSession × Value :=
  match s.bus.take i with
  | (b, some m) =>
    ({ s with bus := b, received := s.received ++ [m] },
      .obj ([("index", .nat s.received.length)] ++ messageMembers m))
  | (b, none) => ({ s with bus := b }, .obj [("empty", .str empty)])

def busStep (s : BusSession) (step : Value) : Result (BusSession × Value) := do
  match ← stepName step with
  | "subscribe" =>
    let (b, i) := s.bus.subscribe (← str step "topic")
    return ({ s with bus := b }, .obj [("sub", .nat i)])
  | "drop_sub" =>
    let i ← subscriptionArg s step
    return ({ s with bus := s.bus.drop i }, .str "ok")
  | "publish" =>
    let payload ← bytes step "payload"
    let m := Message.fresh (freshUuid s.used) (← str step "topic") (← str step "key") payload.toList clockNow
    return ({ s with bus := s.bus.publish m, used := s.used + 1 }, .str "ok")
  | "recv" => return receiveStep s (← subscriptionArg s step) "Empty"
  | "recv_timeout" => return receiveStep s (← subscriptionArg s step) "Timeout"
  | "ack" =>
    let _ ← subscriptionArg s step
    let _ ← receivedArg s step
    return (s, .str "ok")
  | "nack" =>
    let i ← subscriptionArg s step
    let m ← receivedArg s step
    return ({ s with bus := s.bus.giveBack i m }, .str "ok")
  | "published" =>
    let ms := match ← str? step "topic" with
      | some t => s.bus.publishedTo t
      | none => s.bus.published
    return (s, .arr (ms.map fun m => .obj (messageMembers m)))
  | "dead_letters" => return (s, .arr (s.bus.dead.map fun m => .obj (messageMembers m)))
  | other => unknownStep other

def eventBusOp (req : Value) : Result Value := do
  let b : EventBus := {}
  let b ← match ← unsigned? req "max_deliveries" 64 with
    | some n => pure (b.withMaxDeliveries (← fitU32 "max_deliveries" n))
    | none => pure b
  let b := match ← unsigned? req "history" 64 with
    | some n => b.withHistory n
    | none => b
  let (_, answers) := runSteps (stepOrFail busStep) { bus := b } (← list req "steps")
  return .arr answers

end Fulfilment.Console
