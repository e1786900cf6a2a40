import Fulfilment.Console.Orders
import Fulfilment.Ingest.Task
import Fulfilment.Ingest.Schema
import Fulfilment.Ingest.RowKey
import Fulfilment.Ingest.Quarantine

/-!
Console operations on ingestion: tasks, the CSV schema and its rows, the idempotency key of a
row and the quarantine key of a rejected upload.
-/

namespace Fulfilment.Console

open Json Wire

def RowRejection.kind : RowRejection → String
  | .invalidEncoding _ => "InvalidEncoding"
  | .tooFewColumns _ _ => "TooFewColumns"
  | .missingField _ => "MissingField"
  | .invalidQuantity _ => "InvalidQuantity"
  | .unknownSku _ => "UnknownSku"
  | .unknownHub _ => "UnknownHub"
  | .persistFailed _ => "PersistFailed"

def ofRejection (r : RowRejection) : Failure := { kind := RowRejection.kind r, message := r.message }

def taskView (t : IngestionTask) : Value := .obj [("bucket", .str t.bucket), ("key", .str t.key)]

/-- `ingestion_task`: a task from a body or from its parts, and its JSON read back. -/
def ingestionTaskOp (req : Value) : Result Value := do
  let t ← match ← str? req "body" with
    | some body => liftDomain (IngestionTask.parse body)
    | none => pure { bucket := ← str req "bucket", key := ← str req "key" }
  let json := t.toJson
  let reparsed := Result.toValue ((liftDomain (IngestionTask.parse json)).map taskView)
  return .obj [("bucket", .str t.bucket), ("key", .str t.key), ("json", .str json), ("reparsed", reparsed)]

/-- `csv_schema`: a schema from a header and the orders of some rows. -/
def csvSchemaOp (req : Value) : Result Value := do
  let header ← (← list req "header").mapM fun h =>
    match h with
    | .str s => .ok s
    | _ => .error (badInput "header must hold strings")
  let rows ← (← list req "rows").mapM fun r =>
    match r with
    | .arr xs => xs.mapM fun x =>
      match x with
      | .str s => .ok s
      | _ => .error (badInput "cells must be strings")
    | _ => .error (badInput "rows must hold arrays")
  let schema ← liftDomain (CsvSchema.ofHeader header)
  let answers := rows.map fun row =>
    match schema.extract row with
    | .ok n => .obj [("order", newOrderJson n)]
    | .error r => (ofRejection r).toValue
  return .obj [("width", .nat schema.width), ("rows", .arr answers)]

def idempotencyKeyOp (req : Value) : Result Value := do
  let k := RowKey.forRow (← str req "message_id") (← str req "bucket") (← str req "key") (← u64 req "row_index")
  return .obj [("key", .str k.hex), ("display", .str k.hex)]

def quarantineKeyOp (req : Value) : Result Value := do
  return .obj [("key", .str (quarantineKey (← str req "key") (← instant req "at")))]

end Fulfilment.Console
