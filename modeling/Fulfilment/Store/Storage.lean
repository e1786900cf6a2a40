import Fulfilment.Store.Objects
import Fulfilment.Store.Files

/-!
Where uploaded objects are kept: in memory, or as files under a root. Both read, size and write
objects; only the store in memory lists keys. Writing to memory cannot fail, writing files can,
and a failed write may still have made directories.
-/

namespace Fulfilment

/-- An object store of either kind. -/
inductive ObjectStorage where
  | memory (s : ObjectStore)
  | files (s : FileStore)
  deriving DecidableEq, Repr

namespace ObjectStorage

def get : ObjectStorage → String → String → Except ObjectStoreError (List UInt8)
  | .memory s, b, k => s.get b k
  | .files s, b, k => s.get b k

def head : ObjectStorage → String → String → Except ObjectStoreError Nat
  | .memory s, b, k => s.head b k
  | .files s, b, k => s.head b k

/-- Puts an object, replacing one under the same bucket and key: the store after the attempt,
and the failure if there was one. -/
def put : ObjectStorage → String → String → List UInt8 → ObjectStorage × Except ObjectStoreError Unit
  | .memory s, b, k, body => (.memory (s.put b k body), .ok ())
  | .files s, b, k, body => let (s', r) := s.put b k body; (.files s', r)

/-- The keys of a bucket that start with `start`, in order, when the store can list them. -/
def keys? : ObjectStorage → String → String → Option (List String)
  | .memory s, b, start => some (s.keys b start)
  | .files _, _, _ => none

end ObjectStorage

end Fulfilment
