/-!
Worker pool sizes: a number of workers, each running a number of items at once. Both are at
least one, so a pool always makes progress. The number of items in flight is counted in 64
bits: a product past that stops the program.
-/

namespace Fulfilment

/-- The size of a worker pool. -/
structure PoolSize where
  workers : Nat
  concurrency : Nat
  deriving DecidableEq, Repr

namespace PoolSize

def make (workers concurrency : Nat) : PoolSize := ⟨max workers 1, max concurrency 1⟩

/-- The text the program stops with when a product of sizes overflows. -/
def multiplyOverflow : String := "attempt to multiply with overflow"

/-- The most items in flight at once, when that number fits in 64 bits; otherwise counting it
stops the program, and there is no number. -/
def threads (p : PoolSize) : Option Nat :=
  if p.workers * p.concurrency < UInt64.size then some (p.workers * p.concurrency) else none

end PoolSize

end Fulfilment
