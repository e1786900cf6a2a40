import Fulfilment.Console.Stock
import Fulfilment.Store.Objects
import Fulfilment.Store.Files
import Fulfilment.Store.Orders
import Fulfilment.Console.Orders

/-!
Console operations on storage: an object store in memory and one over files, and the order
store, driven by steps.
-/

namespace Fulfilment.Console

open Json

def ObjectStoreError.kind : ObjectStoreError → String
  | .notFound _ _ => "NotFound"
  | .invalidKey _ => "InvalidKey"
  | .io _ => "Io"

def ofObjects (e : ObjectStoreError) : Failure := { kind := ObjectStoreError.kind e, message := e.message }

def liftObjects {α : Type} : Except ObjectStoreError α → Result α
  | .ok a => .ok a
  | .error e => .error (ofObjects e)

def bodyValue (b : List UInt8) : Value := bytesValue ⟨b.toArray⟩

/-- The two stores of the operation. -/
structure StorageSession where
  memory : ObjectStore := {}
  files : FileStore := {}

def storageStep (s : StorageSession) (step : Value) : Result (StorageSession × Value) := do
  match ← stepName step with
  | "put" =>
    let m := s.memory.put (← str step "bucket") (← str step "key") (← bytes step "body").toList
    return ({ s with memory := m }, .str "ok")
  | "get" => return (s, bodyValue (← liftObjects (s.memory.get (← str step "bucket") (← str step "key"))))
  | "head" => return (s, .nat (← liftObjects (s.memory.head (← str step "bucket") (← str step "key"))))
  | "keys" =>
    let ks := s.memory.keys (← str step "bucket") ((← str? step "prefix").getD "")
    return (s, Value.strs ks)
  | "fs_put" =>
    let body := (← bytes step "body").toList
    let (f, r) := s.files.put (← str step "bucket") (← str step "key") body
    return ({ s with files := f }, match r with
      | .ok () => .str "ok"
      | .error e => (ofObjects e).toValue)
  | "fs_get" => return (s, bodyValue (← liftObjects (s.files.get (← str step "bucket") (← str step "key"))))
  | "fs_head" => return (s, .nat (← liftObjects (s.files.head (← str step "bucket") (← str step "key"))))
  | other => unknownStep other

def objectStoreOp (req : Value) : Result Value := do
  let (_, answers) := runSteps (stepOrFail storageStep) {} (← list req "steps")
  return .arr answers

def StoreError.kind : StoreError → String
  | .notFound _ => "NotFound"
  | .conflict _ => "Conflict"
  | .invalid _ => "Invalid"
  | .corrupt _ => "Corrupt"
  | .backend _ => "Backend"
  | .timedOut _ => "TimedOut"

def ofStore (e : StoreError) : Failure := { kind := StoreError.kind e, message := e.message }

def liftStore {α : Type} : Except StoreError α → Result α
  | .ok a => .ok a
  | .error e => .error (ofStore e)

def orderIds (os : List Order) : Value := Value.strs (os.map (·.id.render))

def orderStoreStep (s : OrderStore) (step : Value) : Result (OrderStore × Value) := do
  match ← stepName step with
  | "insert" => return (← liftStore (s.insert (← orderArg (← arg step "order"))), .str "ok")
  | "insert_ingested" =>
    let o ← orderArg (← arg step "order")
    let k := RowKey.forRow (← str step "message_id") (← str step "bucket") (← str step "key")
      (← u64 step "row_index")
    let (s', stored) ← liftStore (s.insertIngested o k)
    return (s', .bool stored)
  | "get" =>
    let id ← liftDomain (OrderId.parse (← str step "id"))
    return (s, orderView (← liftStore (s.get id)))
  | "save" => return (← liftStore (s.save (← orderArg (← arg step "order"))), .str "ok")
  | "list_by_tenant" => return (s, orderIds (s.listByTenant (← codeArg step .tenant "tenant_id")))
  | "all" => return (s, orderIds s.all)
  | "len" => return (s, .obj [("len", .nat s.size), ("is_empty", .bool (s.size == 0))])
  | other => unknownStep other

def orderStoreOp (req : Value) : Result Value := do
  let (_, answers) := runSteps (stepOrFail orderStoreStep) {} (← list req "steps")
  return .arr answers

end Fulfilment.Console
