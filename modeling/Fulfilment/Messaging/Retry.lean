/-!
Bounded retries: a policy allows `attempts` tries, at least one, with a fixed delay between
them. `runSleeping` is the loop of `run` with its sleeps made explicit.
-/

namespace Fulfilment

/-- How often to try, and how long to wait between tries. -/
structure RetryPolicy where
  attempts : Nat
  delayMs : Nat
  deriving DecidableEq, Repr

namespace RetryPolicy

def standard : RetryPolicy := ⟨3, 1000⟩

def once : RetryPolicy := ⟨1, 0⟩

def maxAttempts (p : RetryPolicy) : Nat := max p.attempts 1

/-- Tries `op` from attempt number `attempt`, with `more` further tries allowed after it. -/
def tryFrom {m : Type → Type} [Monad m] {ε α : Type} (op : Nat → m (Except ε α)) (attempt : Nat) :
    Nat → m (Except ε α)
  | 0 => op attempt
  | more + 1 => do
    match ← op attempt with
    | .ok v => pure (.ok v)
    | .error _ => tryFrom op (attempt + 1) more

def run {m : Type → Type} [Monad m] {ε α : Type} (p : RetryPolicy) (op : Nat → m (Except ε α)) :
    m (Except ε α) :=
  tryFrom op 1 (p.maxAttempts - 1)

/-- `op`, preceded by a sleep of the policy's delay on every try after the first; a delay of
zero is not slept. -/
def paced {m : Type → Type} [Monad m] {ε α : Type} (p : RetryPolicy) (sleep : Nat → m Unit)
    (op : Nat → m (Except ε α)) (attempt : Nat) : m (Except ε α) :=
  if attempt ≤ 1 ∨ p.delayMs = 0 then op attempt
  else do
    sleep p.delayMs
    op attempt

/-- Runs `op` under the policy, sleeping with `sleep` between a failed try and the next. -/
def runSleeping {m : Type → Type} [Monad m] {ε α : Type} (p : RetryPolicy) (sleep : Nat → m Unit)
    (op : Nat → m (Except ε α)) : m (Except ε α) :=
  p.run (p.paced sleep op)

/-- A handler that runs `handle` under the policy, with the same input on every try. -/
def guard {m : Type → Type} [Monad m] {α ε : Type} (p : RetryPolicy) (handle : α → m (Except ε Unit)) :
    α → m (Except ε Unit) :=
  fun a => p.run fun _ => handle a

end RetryPolicy

end Fulfilment
