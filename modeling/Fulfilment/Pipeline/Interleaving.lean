import Fulfilment.Pipeline.Batch
import Fulfilment.Pipeline.Finalize

/-!
The pipeline's workers side by side. Jobs run in stages, one store call each, and the jobs of all
workers take their steps in any order; what happens meanwhile is a step of the surroundings,
which a `World` bounds.
-/

namespace Fulfilment

/-- A worker's job in progress. -/
inductive Job where
  /-- A finalization, at a stage. -/
  | finalize (stage : FinalizeStage)
  /-- The processing of a task, before its object is read. -/
  | fetch (messageId : String) (task : IngestionTask)
  /-- The processing of a task, placing its rows. -/
  | ingest (stage : BatchStage)
  deriving DecidableEq, Repr

/-- How a job ended. -/
inductive JobResult where
  | finalized (outcome : FinalizeOutcome)
  | processed (report : BatchReport)
  deriving DecidableEq, Repr

namespace FinalizeStage

/-- Whether the stage makes a call that can fail. Telling the webhooks cannot, and a stage with
nothing left to do makes no call. -/
def Fallible : FinalizeStage → Prop
  | .settle order _ => order.status ≠ .newOrder
  | .tell order _ => order.progress.notified = false
  | .announce .. => False
  | _ => True

instance (s : FinalizeStage) : Decidable s.Fallible :=
  match s with
  | .settle order _ => inferInstanceAs (Decidable (order.status ≠ .newOrder))
  | .tell order _ => inferInstanceAs (Decidable (order.progress.notified = false))
  | .announce .. => isFalse id
  | .load _ | .lookup _ | .consume _ | .hold .. | .record .. => isTrue trivial

end FinalizeStage

namespace BatchStage

/-- What the stage can end in when its call fails: at a read of the catalog the processing
stops, and a row whose order cannot be stored is rejected. Publishing, telling the webhooks and
the quarantine write do not fail the task. -/
def Interrupted : BatchStage → Except PipelineError (JobResult ⊕ Job) → Prop
  | .row b (raw :: _), r =>
    (∃ fields entry, Csv.texts raw = .ok fields ∧ b.schema.extract fields = .ok entry) ∧
      ∃ e, r = .error e
  | .hub .., r => ∃ e, r = .error e
  | .claim b raw _ rest, r =>
    ∃ reason, r = .ok (.inr (.ingest (.row (b.place raw (.rejected (.persistFailed reason))) rest)))
  | _, _ => False

end BatchStage

namespace Job

/-- The jobs a worker starts: a finalization before it loads its order, and the processing of a
task before it reads its object. -/
def Initial : Job → Prop
  | .finalize (.load _) => True
  | .fetch .. => True
  | _ => False

/-- One step of a job: how it ended, or the job that goes on. -/
def advance : Job → PipelineM (JobResult ⊕ Job)
  | .finalize s => do
    match ← s.advance with
    | .finish outcome => return .inl (.finalized outcome)
    | .goto t _ => return .inr (.finalize t)
  | .fetch messageId task => do
    let (b, rows) ← Pipeline.fetch messageId task
    return .inr (.ingest (.row b rows))
  | .ingest s => do
    match ← s.advance with
    | .finish report => return .inl (.processed report)
    | .goto t _ => return .inr (.ingest t)

/-- What a step of a job can end in when the call it makes fails. -/
def Interrupted : Job → Except PipelineError (JobResult ⊕ Job) → Prop
  | .finalize s, r => s.Fallible ∧ ∃ e, r = .error e
  | .fetch .., r => ∃ e, r = .error e
  | .ingest s, r => s.Interrupted r

def after : Except PipelineError (JobResult ⊕ Job) → Option Job
  | .ok (.inr job) => some job
  | _ => none

end Job

/-- The pipeline, with the jobs of its workers by number. -/
structure System where
  pipeline : Pipeline
  jobs : Nat → Option Job

namespace System

def init (p : Pipeline) : System := { pipeline := p, jobs := fun _ => none }

def setJob (s : System) (j : Nat) (job : Option Job) : System :=
  { s with jobs := fun i => if i = j then job else s.jobs i }

end System

/-- Which jobs may start, and what may happen around the workers. -/
structure World where
  admits : Job → Prop
  env : Pipeline → Pipeline → Prop

/-- What a transition was. -/
inductive Label where
  /-- Job `j` starts. -/
  | start (j : Nat) (job : Job)
  /-- Job `j` takes a step from `job`, with that result. -/
  | step (j : Nat) (job : Job) (result : Except PipelineError (JobResult ⊕ Job))
  /-- The call of job `j` fails, and the job goes on as that result says. -/
  | fail (j : Nat) (job : Job) (result : Except PipelineError (JobResult ⊕ Job))
  /-- Something happens around the workers. -/
  | env

/-- One transition of the system. -/
inductive Step (w : World) : System → Label → System → Prop
  | start {s : System} {j : Nat} {job : Job} (idle : s.jobs j = none) (initial : job.Initial)
      (admitted : w.admits job) : Step w s (.start j job) (s.setJob j (some job))
  | step {s : System} {j : Nat} {job : Job} (ctx : Context) (running : s.jobs j = some job) :
      Step w s (.step j job (Pipeline.runIn job.advance ctx s.pipeline).1)
        ({ s with pipeline := (Pipeline.runIn job.advance ctx s.pipeline).2 }.setJob j
          (Job.after (Pipeline.runIn job.advance ctx s.pipeline).1))
  | fail {s : System} {j : Nat} {job : Job} {r : Except PipelineError (JobResult ⊕ Job)}
      (running : s.jobs j = some job) (failed : job.Interrupted r) :
      Step w s (.fail j job r) (s.setJob j (Job.after r))
  | env {s : System} {p : Pipeline} (around : w.env s.pipeline p) :
      Step w s .env { s with pipeline := p }

/-- A transition with the system before and after it. -/
structure Transition where
  before : System
  label : Label
  after : System

/-- An execution from one system to another: each transition starts where the one before it
ended. -/
inductive Execution (w : World) : System → List Transition → System → Prop
  | done (s : System) : Execution w s [] s
  | step {s s' s'' : System} {ℓ : Label} {ts : List Transition} (first : Step w s ℓ s')
      (rest : Execution w s' ts s'') : Execution w s (⟨s, ℓ, s'⟩ :: ts) s''

end Fulfilment
