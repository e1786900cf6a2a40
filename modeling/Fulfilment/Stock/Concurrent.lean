import Fulfilment.Stock.Ledger

/-!
The in-memory ledger shared by threads. The map of slots has a lock that a call holds only to
look its key's slot up, or to add it, and each slot has a mutex. A call runs in steps: it checks
its quantity and finds its key's slot, an upsert of a new key adding one with quantity 0; then it
takes the key's mutex; then, holding it, it does its work on the ledger and returns. A consume
with a deadline gives up with `TimedOut` when it finds the mutex held by another call once the
clock has reached the deadline; the other calls wait for it.
-/

namespace Fulfilment

/-- A call on the shared ledger. A consume may carry the clock reading at which it stops
waiting for its key; an upsert carries the identity a new record gets. -/
inductive LedgerCall where
  | get (k : InventoryKey)
  | consume (r : ConsumeRequest) (deadline : Option Nat)
  | upsert (k : InventoryKey) (q : Int) (freshId : Uuid)
  deriving DecidableEq, Repr

/-- What a call answers when it succeeds. -/
inductive LedgerReply where
  | record (r : StockRecord)
  | consumed (o : ConsumeOutcome)
  deriving DecidableEq, Repr

namespace LedgerCall

def key : LedgerCall → InventoryKey
  | get k | upsert k _ _ => k
  | consume r _ => r.key

def deadline? : LedgerCall → Option Nat
  | consume _ d => d
  | _ => none

/-- The refusal of a call that gave up waiting for its key. -/
def timedOut (c : LedgerCall) : LedgerError := .timedOut (c.key.render ++ " is locked")

/-- The slot a new key gets from the upsert that adds it: quantity 0, no references. -/
def newSlot (k : InventoryKey) (freshId : Uuid) (now : Instant) : Slot :=
  { record := { id := freshId, key := k, quantity := 0, updatedAt := now }, consumed := [] }

/-- A call's first step, under the map's lock: the quantity check and the slot lookup, an
upsert adding the slot of a new key. -/
def enter (c : LedgerCall) (l : Ledger) (now : Instant) : Except LedgerError Ledger :=
  match c with
  | get k => if (l.slot? k).isSome then .ok l else .error (.notFound k)
  | consume r _ =>
    if r.quantity ≤ 0 then .error (.invalidQuantity r.quantity)
    else if (l.slot? r.key).isSome then .ok l else .error (.notFound r.key)
  | upsert k q freshId =>
    if q < 0 then .error (.invalidQuantity q)
    else if (l.slot? k).isSome then .ok l else .ok ⟨l.slots ++ [newSlot k freshId now]⟩

/-- A call's last step, holding its key's mutex: the ledger after it and the answer. -/
def finish (c : LedgerCall) (l : Ledger) (now : Instant) : Ledger × Except LedgerError LedgerReply :=
  match c with
  | get k => (l, (l.get k).map .record)
  | consume r _ =>
    match l.consume r now with
    | .ok (l', o) => (l', .ok (.consumed o))
    | .error e => (l, .error e)
  | upsert k q freshId =>
    match l.upsert k q freshId now with
    | .ok (l', r) => (l', .ok (.record r))
    | .error e => (l, .error e)

end LedgerCall

/-- Where a thread is in its call. -/
inductive LedgerPhase where
  /-- Called, nothing done yet. -/
  | ready
  /-- Its key's slot found; waiting for the key's mutex. -/
  | waiting
  /-- Holding the key's mutex. -/
  | holding
  deriving DecidableEq, Repr

/-- The ledger, the call each thread is in, and the clock. -/
structure SharedLedger where
  ledger : Ledger
  threads : Nat → Option (LedgerCall × LedgerPhase)
  clock : Nat

namespace SharedLedger

def init : SharedLedger := { ledger := {}, threads := fun _ => none, clock := 0 }

def setThread (s : SharedLedger) (t : Nat) (call : Option (LedgerCall × LedgerPhase)) :
    SharedLedger :=
  { s with threads := fun u => if u = t then call else s.threads u }

def HeldByOther (s : SharedLedger) (t : Nat) (k : InventoryKey) : Prop :=
  ∃ u c, u ≠ t ∧ s.threads u = some (c, .holding) ∧ c.key = k

end SharedLedger

/-- What a transition was. -/
inductive LedgerLabel where
  /-- Thread `t` calls `c`. -/
  | call (t : Nat) (c : LedgerCall)
  /-- The call found its key's slot, or added it. -/
  | enter (t : Nat) (c : LedgerCall)
  /-- The call took its key's mutex. -/
  | acquire (t : Nat) (c : LedgerCall)
  /-- The call returned. -/
  | reply (t : Nat) (c : LedgerCall) (answer : Except LedgerError LedgerReply)
  /-- The clock moved on. -/
  | tick

/-- One transition of the shared ledger. -/
inductive LedgerStep : SharedLedger → LedgerLabel → SharedLedger → Prop
  | call {s : SharedLedger} {t : Nat} {c : LedgerCall} (idle : s.threads t = none) :
      LedgerStep s (.call t c) (s.setThread t (some (c, .ready)))
  | refuse {s : SharedLedger} {t : Nat} {c : LedgerCall} {now : Instant} {e : LedgerError}
      (ready : s.threads t = some (c, .ready)) (refused : c.enter s.ledger now = .error e) :
      LedgerStep s (.reply t c (.error e)) (s.setThread t none)
  | enter {s : SharedLedger} {t : Nat} {c : LedgerCall} {now : Instant} {l : Ledger}
      (ready : s.threads t = some (c, .ready)) (entered : c.enter s.ledger now = .ok l) :
      LedgerStep s (.enter t c) ({ s with ledger := l }.setThread t (some (c, .waiting)))
  | acquire {s : SharedLedger} {t : Nat} {c : LedgerCall}
      (waiting : s.threads t = some (c, .waiting)) (free : ¬s.HeldByOther t c.key) :
      LedgerStep s (.acquire t c) (s.setThread t (some (c, .holding)))
  | giveUp {s : SharedLedger} {t : Nat} {c : LedgerCall} {d : Nat}
      (waiting : s.threads t = some (c, .waiting)) (held : s.HeldByOther t c.key)
      (deadline : c.deadline? = some d) (late : d ≤ s.clock) :
      LedgerStep s (.reply t c (.error c.timedOut)) (s.setThread t none)
  | finish {s : SharedLedger} {t : Nat} {c : LedgerCall} (now : Instant)
      (holding : s.threads t = some (c, .holding)) :
      LedgerStep s (.reply t c (c.finish s.ledger now).2)
        ({ s with ledger := (c.finish s.ledger now).1 }.setThread t none)
  | tick {s : SharedLedger} : LedgerStep s .tick { s with clock := s.clock + 1 }

/-- A run of the shared ledger, by the labels of its transitions. -/
inductive LedgerRun : SharedLedger → List LedgerLabel → SharedLedger → Prop
  | done (s : SharedLedger) : LedgerRun s [] s
  | step {s s' s'' : SharedLedger} {ℓ : LedgerLabel} {ls : List LedgerLabel}
      (first : LedgerStep s ℓ s') (rest : LedgerRun s' ls s'') : LedgerRun s (ℓ :: ls) s''

end Fulfilment
