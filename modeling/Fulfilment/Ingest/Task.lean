import Fulfilment.Json.Decode
import Fulfilment.Json.Write
import Fulfilment.Domain.Error
import Fulfilment.Text.Blank

/-!
Ingestion tasks: the message that asks for one uploaded object to be processed. Its JSON form
is `{"Bucket": ..., "Key": ...}`; either member may be absent (it is then empty), and a task
whose bucket or key is blank once trimmed is refused.
-/

namespace Fulfilment

open Json

/-- A request to process the object `key` of `bucket`. -/
structure IngestionTask where
  bucket : String
  key : String
  deriving DecidableEq, Repr

namespace IngestionTask

/-- The JSON shape of a task: both members default to the empty string. -/
def shape : Shape := .record "IngestionTask" [("Bucket", .text, some (.str "")), ("Key", .text, some (.str ""))]

def toJson (t : IngestionTask) : String :=
  (Value.obj [("Bucket", .str t.bucket), ("Key", .str t.key)]).render

/-- Reads a task from JSON text; refuses bad JSON and blank members. -/
def parse (body : String) : Except DomainError IngestionTask :=
  match decodeText shape body.toUTF8 with
  | .error e => .error (.validation ("invalid ingestion task JSON: " ++ e.text))
  | .ok v =>
    let bucket := ((v.field? "Bucket").bind Value.getStr?).getD ""
    let key := ((v.field? "Key").bind Value.getStr?).getD ""
    if Text.isBlankText bucket ∨ Text.isBlankText key then
      .error (.validation "ingestion task is missing Bucket or Key")
    else .ok { bucket, key }

end IngestionTask

end Fulfilment
