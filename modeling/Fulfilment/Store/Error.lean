/-!
Failures of storage: of the order store, and of the object store that holds uploaded files.
-/

namespace Fulfilment

/-- Why the order store failed. -/
inductive StoreError where
  | notFound (what : String)
  | conflict (reason : String)
  | invalid (reason : String)
  | corrupt (reason : String)
  | backend (reason : String)
  | timedOut (call : String)
  deriving DecidableEq, Repr

def StoreError.message : StoreError → String
  | .notFound w => w ++ " not found"
  | .conflict m => "conflict: " ++ m
  | .invalid m => "invalid input: " ++ m
  | .corrupt m => "corrupt record: " ++ m
  | .backend m => "store backend error: " ++ m
  | .timedOut m => "store call timed out: " ++ m

/-- Why the object store failed. -/
inductive ObjectStoreError where
  | notFound (bucket key : String)
  | invalidKey (path : String)
  | io (reason : String)
  deriving DecidableEq, Repr

def ObjectStoreError.message : ObjectStoreError → String
  | .notFound b k => "object " ++ b ++ "/" ++ k ++ " not found"
  | .invalidKey p => "invalid object key: " ++ p
  | .io m => "object store io error: " ++ m

end Fulfilment
