import Fulfilment.Messaging.Message

/-!
An event bus held in memory. Publishing puts a message into the inbox of every subscription to
its topic and into a bounded history; a message given back is delivered again until it has been
tried `maxDeliveries` times, and then goes to the dead letters.
-/

namespace Fulfilment

/-- Why the event bus failed. -/
inductive BusError where
  | poisoned
  | serialization (reason : String)
  | backend (reason : String)
  deriving DecidableEq, Repr

def BusError.message : BusError → String
  | .poisoned => "event bus lock poisoned"
  | .serialization m => "serialization error: " ++ m
  | .backend m => "event bus backend error: " ++ m

/-- A subscription's inbox: the topic it listens to, if any, how many times a message is delivered
through it (fixed when it subscribed) and the messages waiting. -/
structure Inbox where
  topic : Option String
  maxDeliveries : Nat
  waiting : List Message := []
  deriving DecidableEq, Repr

/-- An event bus. -/
structure EventBus where
  maxDeliveries : Nat := 5
  history : Nat := 1024
  inboxes : List Inbox := []
  published : List Message := []
  dead : List Message := []
  deriving DecidableEq, Repr

namespace EventBus

/-- A bus whose later subscriptions try a message at most `n` times, at least once. -/
def withMaxDeliveries (b : EventBus) (n : Nat) : EventBus := { b with maxDeliveries := max n 1 }

/-- A bus that keeps at most `n` published messages from its next publish on, none for zero; the
messages it already keeps stay. -/
def withHistory (b : EventBus) (n : Nat) : EventBus := { b with history := n }

/-- Subscribes to a topic; the subscription is the index of its inbox. -/
def subscribe (b : EventBus) (topic : String) : EventBus × Nat :=
  ({ b with inboxes := b.inboxes ++ [{ topic := some topic, maxDeliveries := b.maxDeliveries }] },
    b.inboxes.length)

def drop (b : EventBus) (i : Nat) : EventBus :=
  { b with inboxes := b.inboxes.modify i fun ib => { ib with topic := none, waiting := [] } }

def remember (b : EventBus) (m : Message) : List Message :=
  if b.history = 0 then b.published
  else if b.published.length = b.history then b.published.drop 1 ++ [m]
  else b.published ++ [m]

def publish (b : EventBus) (m : Message) : EventBus :=
  let inboxes := b.inboxes.map fun ib =>
    if ib.topic = some m.topic then { ib with waiting := ib.waiting ++ [m] } else ib
  { b with inboxes, published := b.remember m }

def take (b : EventBus) (i : Nat) : EventBus × Option Message :=
  match b.inboxes[i]? with
  | some { topic, maxDeliveries, waiting := m :: rest } =>
    ({ b with inboxes := b.inboxes.set i { topic, maxDeliveries, waiting := rest } }, some m)
  | _ => (b, none)

/-- Gives a message back through subscription `i`, under the limit that subscription took. -/
def giveBack (b : EventBus) (i : Nat) (m : Message) : EventBus :=
  match b.inboxes[i]? with
  | none => b
  | some ib =>
    if ib.maxDeliveries ≤ m.attempt then { b with dead := b.dead ++ [m] }
    else { b with inboxes := b.inboxes.set i { ib with waiting := ib.waiting ++ [m.redelivered] } }

def publishedTo (b : EventBus) (topic : String) : List Message := b.published.filter (·.topic == topic)

end EventBus

end Fulfilment
