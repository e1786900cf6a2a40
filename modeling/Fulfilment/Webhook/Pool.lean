import Fulfilment.Webhook.Dispatch

/-!
The delivery pool: worker threads that drain a bounded channel of delivery jobs, as a machine
whose events are the calls of `submit`, the workers' steps and closing, in any interleaving.
-/

namespace Fulfilment.Webhook

/-- A worker busy with job number `job`, after `calls` transport calls for it. -/
structure Busy where
  job : Nat
  calls : Nat
  deriving DecidableEq, Repr

/-- The pool: its channel's slots, whether it accepts jobs, what each started worker is doing,
the jobs submitted, the numbers of the jobs waiting in the channel (oldest first), the transport
calls made and the outcomes sent. -/
structure Pool where
  slots : Nat
  accepting : Bool
  workers : List (Option Busy)
  jobs : List DeliveryJob := []
  waiting : List Nat := []
  calls : List (Nat × Except TransportError Nat) := []
  outcomes : List (Nat × DeliveryOutcome) := []
  deriving Repr

/-- What can happen to the pool. -/
inductive PoolEvent where
  /-- A job is submitted. -/
  | submit (job : DeliveryJob)
  /-- Worker `worker` takes the oldest waiting job. -/
  | take (worker : Nat)
  /-- Worker `worker` calls the transport for its job, which answers `answer`. -/
  | call (worker : Nat) (answer : Except TransportError Nat)
  /-- The pool stops accepting jobs. -/
  | close
  deriving Repr

namespace Pool

/-- A pool whose channel has `capacity` slots (at least one) and of whose workers `started`
threads started. -/
def new (capacity started : Nat) : Pool :=
  { slots := max capacity 1, accepting := true, workers := List.replicate started none }

/-- Whether a job submitted now is refused: the pool is closed, no worker started (the channel
has no receiver), or the channel is full. -/
def refuses (s : Pool) : Bool := !s.accepting || s.workers.isEmpty || s.slots ≤ s.waiting.length

/-- Submits a job: it is refused with its dropped outcome, or waits in the channel. -/
def submit (s : Pool) (job : DeliveryJob) : Pool :=
  if s.refuses then
    { s with jobs := s.jobs ++ [job], outcomes := s.outcomes ++ [(s.jobs.length, job.dropped)] }
  else { s with jobs := s.jobs ++ [job], waiting := s.waiting ++ [s.jobs.length] }

def take (s : Pool) (w : Nat) : Pool :=
  match s.workers[w]?, s.waiting with
  | some none, n :: rest => { s with workers := s.workers.set w (some ⟨n, 0⟩), waiting := rest }
  | _, _ => s

/-- Worker `w` is done with job number `n`: it is idle again and the job's outcome is sent. -/
def finish (s : Pool) (w n : Nat) (job : DeliveryJob) (attempts : Nat) (status : DeliveryStatus) :
    Pool :=
  { s with workers := s.workers.set w none,
           outcomes := s.outcomes ++
             [(n, { subscription := job.subscription, url := job.request.url, attempts, status })] }

/-- Worker `w`, when busy, calls the transport for its job. A success ends the job delivered;
a failure ends it failed when the retry policy allows no further attempt, and otherwise the
worker tries again. -/
def call (s : Pool) (w : Nat) (answer : Except TransportError Nat) : Pool :=
  match s.workers[w]? with
  | some (some b) =>
    match s.jobs[b.job]? with
    | some job =>
      let called := { s with calls := s.calls ++ [(b.job, answer)] }
      match answer with
      | .ok code => called.finish w b.job job (b.calls + 1) (.delivered code)
      | .error e =>
        if job.retry.maxAttempts ≤ b.calls + 1 then
          called.finish w b.job job (b.calls + 1) (.failed e.message)
        else { called with workers := s.workers.set w (some ⟨b.job, b.calls + 1⟩) }
    | none => s
  | _ => s

def step (s : Pool) : PoolEvent → Pool
  | .submit job => s.submit job
  | .take w => s.take w
  | .call w answer => s.call w answer
  | .close => { s with accepting := false }

def run (s : Pool) (events : List PoolEvent) : Pool := events.foldl step s

/-- Whether closing has returned: the pool accepts no jobs, none waits, and every worker is
idle, so every worker thread has ended. -/
def closed (s : Pool) : Bool := !s.accepting && s.waiting.isEmpty && s.workers.all (·.isNone)

def outcomesOf (s : Pool) (n : Nat) : List DeliveryOutcome := (s.outcomes.filter (·.1 == n)).map (·.2)

/-- The answers of the transport calls made for job `n`, in order. -/
def callsOf (s : Pool) (n : Nat) : List (Except TransportError Nat) :=
  (s.calls.filter (·.1 == n)).map (·.2)

end Pool

end Fulfilment.Webhook
