/-!
Binary64 numbers by their bits. A finite value is `(-1)^neg · mant · 2^exp` with an integer
significand; `ofRatio` gives the binary64 nearest to a positive ratio of naturals, a tie going
to the even significand, as the bits of that float.
-/

namespace Fulfilment.Binary64

/-- A finite binary64 value as `(-1)^neg · mant · 2^exp`. -/
structure Parts where
  neg : Bool
  mant : Nat
  exp : Int
  deriving DecidableEq, Repr

def exponentField (b : UInt64) : Nat := ((b >>> 52) &&& 0x7FF).toNat

def fractionField (b : UInt64) : Nat := (b &&& 0xFFFFFFFFFFFFF).toNat

def signBit (b : UInt64) : Bool := (b >>> 63) == 1

def isFinite (b : UInt64) : Bool := exponentField b != 0x7FF

def isZero (b : UInt64) : Bool := (b &&& 0x7FFFFFFFFFFFFFFF) == 0

def parts (b : UInt64) : Parts :=
  let e := exponentField b
  let f := fractionField b
  if e = 0 then ⟨signBit b, f, -1074⟩ else ⟨signBit b, f + Nat.pow 2 52, (e : Int) - 1075⟩

def negate (b : UInt64) : UInt64 := b ^^^ 0x8000000000000000

/-- Nearest natural to `n / d`, a tie going to the even one. -/
def roundHalfEven (n d : Nat) : Nat :=
  let q := n / d
  let r := n % d
  if 2 * r > d then q + 1
  else if 2 * r < d then q
  else if q % 2 = 0 then q else q + 1

def scaleRatio (num den : Nat) (e : Int) : Nat × Nat :=
  if 0 ≤ e then (num, den * Nat.pow 2 e.toNat) else (num * Nat.pow 2 (-e).toNat, den)

def floorLog2 (num den : Nat) : Int :=
  let l : Int := (num.log2 : Int) - den.log2
  let (n, d) := scaleRatio num den l
  if n ≥ d then l else l - 1

/-- Bits of the binary64 nearest to `num / den` (positive zero when `num = 0`). -/
def ofRatio (num den : Nat) : UInt64 :=
  if num = 0 ∨ den = 0 then 0 else
  let e0 := floorLog2 num den - 52
  let e := if e0 < -1074 then -1074 else e0
  let (n, d) := scaleRatio num den e
  let m := roundHalfEven n d
  let (m, e) := if m = Nat.pow 2 53 then (Nat.pow 2 52, e + 1) else (m, e)
  if e > 971 then 0x7FF0000000000000
  else if m < Nat.pow 2 52 then m.toUInt64
  else ((((e + 1075).toNat) <<< 52) ||| (m - Nat.pow 2 52)).toUInt64

def pow10 (k : Nat) : UInt64 := ofRatio (Nat.pow 10 k) 1

end Fulfilment.Binary64
