import Fulfilment.Config.Settings
import Fulfilment.Stock.Remote
import Fulfilment.Pipeline.Error

/-!
Choosing the pipeline's backends from its settings. An object root selects files under that
root instead of memory. A database URL must be a URL; the database it names is then used for
orders, webhooks and, unless an inventory service is set, stock. An inventory service URL must
be a URL too. Redis is not available, so setting its URL is refused. The checks are made in
that order, and each refusal is fatal.
-/

namespace Fulfilment

open Net

/-- Where uploaded objects are kept. -/
inductive ObjectBackend where
  | memory
  | files (root : String)
  deriving DecidableEq, Repr

/-- Where stock is kept. -/
inductive InventoryBackend where
  | memory
  | database
  | service (client : RemoteInventory)
  deriving DecidableEq, Repr

/-- The backends of a pipeline. -/
structure Backends where
  objects : ObjectBackend
  database : Option Url
  inventory : InventoryBackend
  deriving DecidableEq, Repr

/-- The database the settings name, if any; a database URL that is not a URL is fatal. This is
where a database would be opened, before the inventory service is looked at. -/
def Backends.databaseTarget (s : Settings) : Except PipelineError (Option Url) :=
  match s.databaseUrl with
  | none => .ok none
  | some text =>
    match Url.parse text with
    | .ok u => .ok (some u)
    | .error e => .error ⟨.fatal, "invalid DATABASE_URL: error with configuration: " ++ e.message⟩

def Backends.connect (s : Settings) : Except PipelineError Backends := do
  let objects := match s.objectRoot with
    | some root => .files root
    | none => .memory
  let database ← Backends.databaseTarget s
  let inventory ← match s.imsBaseUrl with
    | some base =>
      match RemoteInventory.connect base with
      | .ok c => pure (.service c)
      | .error e => throw ⟨.fatal, "inventory service client: " ++ e.message⟩
    | none => pure (if database.isSome then .database else .memory)
  if s.redisUrl.isSome then throw ⟨.fatal, "REDIS_URL is set but this build lacks the " ++
    String.singleton (Char.ofNat 96) ++ "redis" ++ String.singleton (Char.ofNat 96) ++ " feature"⟩
  return { objects, database, inventory }

end Fulfilment
