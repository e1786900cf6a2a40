import Fulfilment.Pipeline.State
import Fulfilment.Ingest.Task
import Fulfilment.Ingest.Schema
import Fulfilment.Ingest.RowKey
import Fulfilment.Ingest.Quarantine
import Fulfilment.Csv.Writer
import Fulfilment.Order.Wire

/-!
Turning one ingestion task into orders. The first record of the task's object is the header;
each later row becomes an order, a duplicate of a stored key, or a rejected row, and the rejected
rows are written to a quarantine object. The rows are placed in stages, each making at most one
call to a store, so that runs can interleave at those calls.
-/

namespace Fulfilment

open Wire

/-- What processing a task did. -/
structure BatchReport where
  created : List OrderId := []
  quarantined : Nat := 0
  skippedDuplicates : Nat := 0
  quarantineKey : Option String := none
  deriving DecidableEq, Repr

/-- What became of one row. -/
inductive RowOutcome where
  | created (id : OrderId)
  | duplicate
  | rejected (why : RowRejection)
  deriving DecidableEq, Repr

namespace Pipeline

/-- Writes the quarantine object for rejected rows: its key, unless writing failed. -/
def quarantine (task : IngestionTask) (header : Csv.Record) (rows : List Csv.Record) :
    Effect (Option String) := do
  let key := quarantineKey task.key (← read).now
  let p ← get
  let written := p.objects.put task.bucket key (Csv.write (header :: rows))
  set { p with objects := written.1 }
  return if written.2 matches .ok () then some key else none

end Pipeline

/-- What is fixed for a whole task once its header is read, with the rows placed so far and
what became of each, in order. -/
structure Batch where
  messageId : String
  task : IngestionTask
  rawHeader : Csv.Record
  schema : CsvSchema
  placed : List (Csv.Record × RowOutcome) := []
  deriving DecidableEq, Repr

namespace Batch

/-- The number of the next row: rows are numbered from zero. -/
def index (b : Batch) : Nat := b.placed.length

def key (b : Batch) : RowKey := RowKey.forRow b.messageId b.task.bucket b.task.key b.index

def place (b : Batch) (raw : Csv.Record) (o : RowOutcome) : Batch :=
  { b with placed := b.placed ++ [(raw, o)] }

def rejected (b : Batch) : List Csv.Record :=
  b.placed.filterMap fun (raw, o) => if o matches .rejected _ then some raw else none

def report (b : Batch) : BatchReport :=
  { created := b.placed.filterMap fun (_, o) => match o with | .created id => some id | _ => none,
    quarantined := (b.placed.filter fun (_, o) => o matches .rejected _).length,
    skippedDuplicates := (b.placed.filter fun (_, o) => o matches .duplicate).length }

end Batch

/-- Where the placing of a task's rows stands, before its next call. `pending` is the rows after
the one at hand. -/
inductive BatchStage where
  /-- The next row is to be read and its SKU checked; with no row left, the task is done. -/
  | row (b : Batch) (pending : List Csv.Record)
  /-- The SKU of the row is known; its hub is to be checked. -/
  | hub (b : Batch) (raw : Csv.Record) (entry : NewOrder) (pending : List Csv.Record)
  /-- The row is to be stored as an order under its idempotency key. -/
  | claim (b : Batch) (raw : Csv.Record) (entry : NewOrder) (pending : List Csv.Record)
  /-- The order is stored; it is to be announced on the bus. -/
  | announce (b : Batch) (raw : Csv.Record) (order : Order) (pending : List Csv.Record)
  /-- The webhooks are to be told of the order. -/
  | tell (b : Batch) (raw : Csv.Record) (order : Order) (pending : List Csv.Record)
  /-- The rejected rows are to be written to a quarantine object. -/
  | quarantine (b : Batch)
  deriving DecidableEq, Repr

namespace BatchStage

def rank : BatchStage → Nat
  | .row _ pending => 6 * pending.length + 1
  | .hub _ _ _ pending => 6 * pending.length + 6
  | .claim _ _ _ pending => 6 * pending.length + 5
  | .announce _ _ _ pending => 6 * pending.length + 4
  | .tell _ _ _ pending => 6 * pending.length + 3
  | .quarantine _ => 0

/-- What a stage leads to: the end of the run, or a stage of lower rank. -/
inductive Next (s : BatchStage) where
  | finish (report : BatchReport)
  | goto (t : BatchStage)
      (lower : t.rank < s.rank := by simp only [BatchStage.rank, List.length_cons]; omega)

def advance : (s : BatchStage) → PipelineM (Next s)
  | .row b [] =>
    if b.rejected.isEmpty then return .finish b.report else return .goto (.quarantine b)
  | .row b (raw :: rest) => do
    match Csv.texts raw with
    | .error fault => return .goto (.row (b.place raw (.rejected (.invalidEncoding fault.field))) rest)
    | .ok fields =>
      match b.schema.extract fields with
      | .error why => return .goto (.row (b.place raw (.rejected why)) rest)
      | .ok entry =>
        if !(← get).knowsSku entry.sku then
          return .goto (.row (b.place raw (.rejected (.unknownSku entry.sku))) rest)
        return .goto (.hub b raw entry rest)
  | .hub b raw entry rest => do
    if !(← get).knowsHub entry.hub then
      return .goto (.row (b.place raw (.rejected (.unknownHub entry.hub))) rest)
    return .goto (.claim b raw entry rest)
  | .claim b raw entry rest => do
    let order := Order.place ⟨← Pipeline.freshId⟩ entry (← read).now
    let p ← get
    match p.orders.insertIngested order b.key with
    | .error e => return .goto (.row (b.place raw (.rejected (.persistFailed e.message))) rest)
    | .ok (_, false) => return .goto (.row (b.place raw .duplicate) rest)
    | .ok (orders, true) =>
      set { p with orders }
      return .goto (.announce b raw order rest)
  | .announce b raw order rest => do
    let event := orderCreatedJson (OrderCreated.ofOrder order)
    Pipeline.publish
      (Message.ofJson (← Pipeline.freshId) orderCreatedTopic order.id.render event (← read).now)
    return .goto (.tell b raw order rest)
  | .tell b raw order rest => do
    let _ ← Pipeline.notify order.tenant orderCreatedTopic (orderJson order)
    return .goto (.row (b.place raw (.created order.id)) rest)
  | .quarantine b => do
    let key ← Pipeline.quarantine b.task b.rawHeader b.rejected
    return .finish { b.report with quarantineKey := key }

def run (s : BatchStage) : PipelineM BatchReport := do
  match ← s.advance with
  | .finish report => return report
  | .goto t _ => t.run
termination_by s.rank

end BatchStage

namespace Pipeline

/-- Reads the object of a task and its header: the batch its rows are placed in, and the rows. -/
def fetch (messageId : String) (task : IngestionTask) : PipelineM (Batch × List Csv.Record) := do
  let bytes ← lift PipelineError.ofObjects ((← get).objects.get task.bucket task.key)
  match Csv.records bytes with
  | [] => throw ⟨.validation, task.key ++ " is empty"⟩
  | rawHeader :: rows =>
    let header ← match Csv.texts rawHeader with
      | .ok h => pure h
      | .error fault =>
        throw ⟨.validation, task.key ++ ": header is not valid UTF-8: " ++ fault.message⟩
    let schema ← lift PipelineError.ofDomain (CsvSchema.ofHeader header)
    return ({ messageId, task, rawHeader, schema }, rows)

def process (messageId body : String) : PipelineM BatchReport := do
  match IngestionTask.parse body with
  | .error _ => return {}
  | .ok task =>
    let (b, rows) ← fetch messageId task
    (BatchStage.row b rows).run

end Pipeline

end Fulfilment
