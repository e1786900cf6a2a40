/-!
A work queue held in memory. Receiving hands out visible messages in the order they were sent and
hides them for the visibility timeout; acknowledging a message's latest receipt removes it, and a
message received `maxReceives` times goes to the dead letters.
-/

namespace Fulfilment

/-- Why the work queue failed. -/
inductive QueueError where
  | poisoned
  | backend (reason : String)
  deriving DecidableEq, Repr

def QueueError.message : QueueError → String
  | .poisoned => "work queue lock poisoned"
  | .backend m => "work queue backend error: " ++ m

/-- A queued message. -/
structure QueueEntry where
  id : String
  body : String
  receives : Nat
  receipt : Option String
  hiddenUntil : Option Nat
  deriving DecidableEq, Repr

def QueueEntry.visible (e : QueueEntry) (now : Nat) : Bool :=
  match e.hiddenUntil with
  | none => true
  | some t => t ≤ now

/-- A message handed to a consumer. -/
structure Delivery where
  messageId : String
  receipt : String
  body : String
  receives : Nat
  deriving DecidableEq, Repr

/-- A message given up on. -/
structure DeadLetter where
  messageId : String
  body : String
  receives : Nat
  deriving DecidableEq, Repr

/-- A work queue. -/
structure WorkQueue where
  maxReceives : Nat
  entries : List QueueEntry := []
  dead : List DeadLetter := []
  deriving DecidableEq, Repr

namespace WorkQueue

def defaultMaxReceives : Nat := 5

/-- An empty queue; a message may be received at least once. -/
def empty (maxReceives : Nat) : WorkQueue := { maxReceives := max maxReceives 1 }

def send (q : WorkQueue) (id body : String) : WorkQueue :=
  { q with entries := q.entries ++ [{ id, body, receives := 0, receipt := none, hiddenUntil := none }] }

/-- Whether an entry has used up its receives and is visible at `now`. -/
def exhausted (q : WorkQueue) (now : Nat) (e : QueueEntry) : Bool :=
  e.visible now && q.maxReceives ≤ e.receives

/-- Hands out up to `max - n` visible entries, the `k`-th receipt being `receiptOf (n + k)`. -/
def handOut (max hideUntil now : Nat) (receiptOf : Nat → String) :
    List QueueEntry → Nat → List QueueEntry × List Delivery
  | [], _ => ([], [])
  | e :: es, n =>
    if max ≤ n then (e :: es, [])
    else if !e.visible now then
      let (es', ds) := handOut max hideUntil now receiptOf es n
      (e :: es', ds)
    else
      let r := receiptOf n
      let e' := { e with receives := e.receives + 1, receipt := some r, hiddenUntil := some hideUntil }
      let (es', ds) := handOut max hideUntil now receiptOf es (n + 1)
      (e' :: es', { messageId := e.id, receipt := r, body := e.body, receives := e'.receives } :: ds)

/-- Receives up to `max` messages at `now`, hiding them for `visibility` milliseconds, where the
time they are hidden until is within the clock's range; the `k`-th delivery's receipt is
`receiptOf k`. -/
def receiveInRange (q : WorkQueue) (max visibility now : Nat) (receiptOf : Nat → String) :
    WorkQueue × List Delivery :=
  let gone := q.entries.filter (q.exhausted now)
  let kept := q.entries.filter fun e => !q.exhausted now e
  let (entries, ds) := handOut max (now + visibility) now receiptOf kept 0
  ({ q with entries, dead := q.dead ++ gone.map fun e => ({ messageId := e.id, body := e.body, receives := e.receives } : DeadLetter) }, ds)

/-- The first time, in milliseconds, whose whole seconds no longer fit the clock's 63 bits. -/
def clockLimitMs : Nat := Nat.pow 2 63 * 1000

/-- The text the program stops with when a time leaves the clock's range. -/
def instantOverflow : String := "overflow when adding duration to instant"

/-- Receives up to `max` messages at `now` as `receiveInRange` does, unless a message it hands
out would be hidden past the clock's range: then the program stops, and there is no result. -/
def receive (q : WorkQueue) (max visibility now : Nat) (receiptOf : Nat → String) :
    Option (WorkQueue × List Delivery) :=
  let r := q.receiveInRange max visibility now receiptOf
  if !r.2.isEmpty && clockLimitMs ≤ now + visibility then none else some r

def ack (q : WorkQueue) (receipt : String) : WorkQueue :=
  { q with entries := q.entries.filter fun e => e.receipt != some receipt }

def nack (q : WorkQueue) (receipt : String) : WorkQueue :=
  match q.entries.findIdx? (·.receipt == some receipt) with
  | none => q
  | some i => { q with entries := q.entries.modify i fun e => { e with hiddenUntil := none } }

def size (q : WorkQueue) : Nat := q.entries.length

def inFlight (q : WorkQueue) (now : Nat) : Nat := (q.entries.filter fun e => !e.visible now).length

end WorkQueue

end Fulfilment
