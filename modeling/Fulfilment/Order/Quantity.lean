import Fulfilment.Domain.Error
import Fulfilment.Text.Blank
import Fulfilment.Text.Integer
import Fulfilment.Text.Quoted

/-!
Ordered quantities: whole numbers from 1 to 2^63 - 1. A quantity is made from a number, which
must be positive, or read from text: the trimmed text must be a signed 64-bit decimal integer,
and then positive.
-/

namespace Fulfilment

/-- A positive quantity that fits in 64 signed bits. -/
structure Quantity where
  val : Int
  pos : 0 < val
  fits : val ≤ Int.pow 2 63 - 1

instance : DecidableEq Quantity := fun a b =>
  if h : a.val = b.val then
    isTrue (by cases a; cases b; simp only at h; subst h; rfl)
  else isFalse (fun e => h (by rw [e]))

instance : Repr Quantity := ⟨fun q _ => repr q.val⟩

namespace Quantity

/-- The quantity `n`, refused unless `0 < n`; `n` is a signed 64-bit value. -/
def make (n : Int) : Except DomainError Quantity :=
  if h : 0 < n then
    if h' : n ≤ Int.pow 2 63 - 1 then .ok ⟨n, h, h'⟩
    else .error (.validation ("quantity must be greater than zero, got " ++ toString n))
  else .error (.validation ("quantity must be greater than zero, got " ++ toString n))

/-- Reads a quantity from text: trimmed, a signed 64-bit integer, positive. -/
def parse (raw : String) : Except DomainError Quantity :=
  match Text.parseInt64 (Text.trimBlank raw) with
  | .error _ => .error (.validation ("quantity is not an integer: " ++ Text.quoted raw))
  | .ok n => make n

end Quantity

end Fulfilment
