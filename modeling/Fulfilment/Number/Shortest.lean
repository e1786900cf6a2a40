import Fulfilment.Number.Binary64

/-!
The shortest decimal that reads back as a given binary64. A positive value `m · 2^q` owns the
interval of reals that round to it; on the decimal grid of `k` significant digits the two
neighbours of the value are tested for membership in that interval, for `k = 1, 2, …, 17`.
The first grid with a member wins; of two members the nearer one, and of two equally near the
one with an even last digit. Texts of the result are in `Fulfilment.FloatText`.
-/

namespace Fulfilment.Shortest

/-- A decimal `digits · 10^exp`; `digits` has no trailing zero unless it is zero. -/
structure Decimal where
  digits : Nat
  exp : Int
  deriving DecidableEq, Repr

def cmpScaled (d : Nat) (e : Int) (x : Nat) (s : Int) : Ordering :=
  let lhs := d * Nat.pow 10 e.toNat * Nat.pow 2 (-s).toNat
  let rhs := x * Nat.pow 10 (-e).toNat * Nat.pow 2 s.toNat
  compare lhs rhs

/-- `⌊d / 10^e⌋`-style quotient: `⌊m · 2^q / 10^e⌋`. -/
def floorDiv (m : Nat) (q e : Int) : Nat :=
  (m * Nat.pow 2 q.toNat * Nat.pow 10 (-e).toNat) / (Nat.pow 2 (-q).toNat * Nat.pow 10 e.toNat)

/-- The largest `p` with `10^p ≤ m · 2^q`, for `m > 0`. -/
def decimalExponent (m : Nat) (q : Int) : Int :=
  let guess : Int := Int.fdiv (((m.log2 : Int) + q) * 78913) 262144
  -- the guess is at most one below the answer
  let up (p : Int) : Int := if cmpScaled 1 (p + 1) m q != .gt then p + 1 else p
  let down (p : Int) : Int := if cmpScaled 1 p m q == .gt then p - 1 else p
  down (down (up (up guess)))

/-- Removes trailing zeros, moving them into the exponent (at most `fuel` of them). -/
def normalize : Nat → Decimal → Decimal
  | 0, d => d
  | fuel + 1, d =>
    if d.digits ≠ 0 ∧ d.digits % 10 = 0 then normalize fuel ⟨d.digits / 10, d.exp + 1⟩ else d

/-- The rounding interval of `m · 2^q` in units of `2^(q-2)`: low end, high end, and whether
the ends belong to it. -/
def interval (m : Nat) (q : Int) : Nat × Nat × Bool :=
  let closeBelow := m = Nat.pow 2 52 ∧ q > -1074
  (4 * m - (if closeBelow then 1 else 2), 4 * m + 2, m % 2 = 0)

/-- Whether `d · 10^e` lies in the rounding interval of `m · 2^q`. -/
def inInterval (m : Nat) (q : Int) (d : Nat) (e : Int) : Bool :=
  let (lo, hi, closed) := interval m q
  let a := cmpScaled d e lo (q - 2)
  let b := cmpScaled d e hi (q - 2)
  if closed then a != .lt && b != .gt else a == .gt && b == .lt

/-- The member of `{d, d+1} · 10^e` nearer to `m · 2^q`, a tie going to the even one. -/
def nearer (m : Nat) (q : Int) (d : Nat) (e : Int) : Nat :=
  match cmpScaled (2 * d + 1) e (2 * m) q with
  | .gt => d
  | .lt => d + 1
  | .eq => if d % 2 = 0 then d else d + 1

/-- The choice on the grid of `k` significant digits, if a neighbour lies in the interval. -/
def onGrid (m : Nat) (q p : Int) (k : Nat) : Option Decimal :=
  let e := p - k + 1
  let d := floorDiv m q e
  let lowIn := inInterval m q d e
  let highIn := inInterval m q (d + 1) e
  if lowIn && highIn then some ⟨nearer m q d e, e⟩
  else if lowIn then some ⟨d, e⟩
  else if highIn then some ⟨d + 1, e⟩
  else none

/-- The first grid, of 1 to 17 digits, holding a member of the interval. -/
def firstGrid (m : Nat) (q p : Int) : List Nat → Decimal
  | [] => ⟨floorDiv m q (p - 16), p - 16⟩
  | k :: ks =>
    match onGrid m q p k with
    | some d => d
    | none => firstGrid m q p ks

/-- The shortest decimal of the positive value `m · 2^q` (zero for `m = 0`). -/
def ofParts (m : Nat) (q : Int) : Decimal :=
  if m = 0 then ⟨0, 0⟩ else
  let p := decimalExponent m q
  normalize 20 (firstGrid m q p ((List.range 17).map (· + 1)))

def ofBits (b : UInt64) : Decimal :=
  let ps := Binary64.parts b
  ofParts ps.mant ps.exp

end Fulfilment.Shortest
