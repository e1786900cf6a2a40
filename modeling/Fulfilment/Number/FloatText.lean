import Fulfilment.Number.Shortest

/-!
Texts of a binary64 from its shortest decimal: `json` switches to an exponent outside 16 places
and keeps `.0` on integral values, `plain` is always positional.
-/

namespace Fulfilment.FloatText

open Shortest

def digitsOf (n : Nat) : String := toString n

def zeros (n : Nat) : String := String.ofList (List.replicate n '0')

def signText (b : UInt64) : String := if Binary64.signBit b then "-" else ""

def json (b : UInt64) : String :=
  if Binary64.isZero b then signText b ++ "0.0" else
  let d := Shortest.ofBits b
  let s := digitsOf d.digits
  let len : Int := s.length
  let k := d.exp
  let kk := len + k
  let body :=
    if 0 ≤ k ∧ kk ≤ 16 then s ++ zeros k.toNat ++ ".0"
    else if 0 < kk ∧ kk ≤ 16 then
      String.ofList (s.toList.take kk.toNat) ++ "." ++ String.ofList (s.toList.drop kk.toNat)
    else if -5 < kk ∧ kk ≤ 0 then "0." ++ zeros (-kk).toNat ++ s
    else
      let ex := if kk - 1 < 0 then toString (kk - 1) else "+" ++ toString (kk - 1)
      if len = 1 then s ++ "e" ++ ex
      else String.ofList (s.toList.take 1) ++ "." ++ String.ofList (s.toList.drop 1) ++ "e" ++ ex
  signText b ++ body

def plain (b : UInt64) : String :=
  if Binary64.isZero b then signText b ++ "0" else
  let d := Shortest.ofBits b
  let s := digitsOf d.digits
  let len : Int := s.length
  let kk := len + d.exp
  let body :=
    if kk ≤ 0 then "0." ++ zeros (-kk).toNat ++ s
    else if kk ≥ len then s ++ zeros (kk - len).toNat
    else String.ofList (s.toList.take kk.toNat) ++ "." ++ String.ofList (s.toList.drop kk.toNat)
  signText b ++ body

def withPoint (b : UInt64) : String :=
  let t := plain b
  if t.toList.contains '.' then t else t ++ ".0"

end Fulfilment.FloatText
