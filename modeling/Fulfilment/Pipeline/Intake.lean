import Fulfilment.Pipeline.State
import Fulfilment.Ingest.Task
import Fulfilment.Text.Blank

/-!
Submitting an upload for ingestion. The path is trimmed of blanks and of leading slashes; what
remains is the object key in the pipeline's bucket. An empty key is refused, and so is a key
with no object behind it; otherwise an ingestion task for the object is queued and its receipt
returned.
-/

namespace Fulfilment

/-- What a submission queued. -/
structure IngestionReceipt where
  messageId : String
  bucket : String
  key : String
  deriving DecidableEq, Repr

def submittedKey (path : String) : String :=
  String.ofList ((Text.trimBlankList path.toList).dropWhile (· = '/'))

namespace Pipeline

def submit (path : String) : PipelineM IngestionReceipt := do
  let key := submittedKey path
  if key.isEmpty then throw ⟨.validation, "path is required"⟩
  let p ← get
  let _ ← lift PipelineError.ofObjects (p.objects.head p.bucket key)
  let task : IngestionTask := { bucket := p.bucket, key }
  let id ← freshId
  modify fun p => { p with queue := p.queue.send id.render task.toJson }
  return { messageId := id.render, bucket := task.bucket, key := task.key }

end Pipeline

end Fulfilment
