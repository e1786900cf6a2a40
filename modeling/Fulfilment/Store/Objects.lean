import Fulfilment.Store.Error

/-!
An object store held in memory: bodies of bytes under a bucket and a key. Putting replaces
what was there; listing gives the keys of a bucket that start with a prefix, in order.
-/

namespace Fulfilment

/-- Objects by bucket and key, in the order they were first put. -/
structure ObjectStore where
  objects : List ((String × String) × List UInt8) := []
  deriving DecidableEq, Repr

namespace ObjectStore

def get (s : ObjectStore) (bucket key : String) : Except ObjectStoreError (List UInt8) :=
  match s.objects.find? (·.1 == (bucket, key)) with
  | some (_, body) => .ok body
  | none => .error (.notFound bucket key)

def head (s : ObjectStore) (bucket key : String) : Except ObjectStoreError Nat :=
  (s.get bucket key).map List.length

def put (s : ObjectStore) (bucket key : String) (body : List UInt8) : ObjectStore :=
  if s.objects.any (·.1 == (bucket, key)) then
    ⟨s.objects.map fun o => if o.1 == (bucket, key) then ((bucket, key), body) else o⟩
  else ⟨s.objects ++ [((bucket, key), body)]⟩

def keys (s : ObjectStore) (bucket start : String) : List String :=
  ((s.objects.filter fun o => o.1.1 == bucket && o.1.2.startsWith start).map (·.1.2)).mergeSort
    fun a b => decide (a ≤ b)

end ObjectStore

end Fulfilment
