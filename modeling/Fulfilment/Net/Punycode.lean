/-!
Punycode (RFC 3492), the encoding of a label's code points in the ASCII letters, digits and
hyphen that domain names allow. The ASCII code points of the label come first, then a hyphen if
there were any, then each further code point as a variable-length integer of base-36 digits
(`a`–`z` for 0–25, `0`–`9` for 26–35) giving how far to move past the code points already
placed. Decoding refuses digits that are not of that alphabet, integers that do not end, values
that reach 2^32 on the way, and code points that are surrogates or beyond U+10FFFF.
-/

namespace Fulfilment.Net

/-- The value of a punycode digit: letters of either case, then digits. -/
def punyDigit? (c : Nat) : Option Nat :=
  if 97 ≤ c ∧ c ≤ 122 then some (c - 97)
  else if 65 ≤ c ∧ c ≤ 90 then some (c - 65)
  else if 48 ≤ c ∧ c ≤ 57 then some (c - 22)
  else none

def punyDigitChar (d : Nat) : Char :=
  if d < 26 then Char.ofNat (97 + d) else Char.ofNat (22 + d)

def punyAdapt (delta numPoints : Nat) (first : Bool) : Nat :=
  let delta := if first then delta / 700 else delta / 2
  let delta := delta + delta / numPoints
  let rec scale : Nat → Nat → Nat → Nat
    | 0, d, k => k + 36 * d / (d + 38)
    | fuel + 1, d, k => if d > 455 then scale fuel (d / 35) (k + 36) else k + 36 * d / (d + 38)
  scale 8 delta 0

def punyThreshold (bias k : Nat) : Nat :=
  if k ≤ bias then 1 else if k ≥ bias + 26 then 26 else k - bias

/-- Reads one variable-length integer added to `acc`: the sum and the rest. The sum and every
weight must stay below 2^32. -/
def punyInteger (bias : Nat) : Nat → List Nat → Nat → Nat → Nat → Option (Nat × List Nat)
  | 0, _, _, _, _ => none
  | fuel + 1, cs, k, w, acc =>
    match cs with
    | [] => none
    | c :: rest => do
      let d ← punyDigit? c
      let acc := acc + d * w
      if acc ≥ Nat.pow 2 32 then none
      let t := punyThreshold bias k
      if d < t then some (acc, rest)
      else
        let w := w * (36 - t)
        if w ≥ Nat.pow 2 32 then none
        punyInteger bias fuel rest (k + 36) w acc

/-- Decodes the part of a label after `xn--`, given as code points. -/
def punycodeDecode (cs : List Nat) : Option (List Nat) :=
  let (basic, encoded) := match cs.reverse.findIdx? (· = 45) with
    | some j => (cs.take (cs.length - 1 - j), cs.drop (cs.length - j))
    | none => ([], cs)
  if basic.any (· ≥ 0x80) then none else
  let rec go : Nat → List Nat → List Nat → Nat → Nat → Nat → Option (List Nat)
    | 0, _, _, _, _, _ => none
    | fuel + 1, rest, out, i, n, bias =>
      match rest with
      | [] => some out
      | _ => do
        let (i', rest') ← punyInteger bias (rest.length + 1) rest 36 1 i
        let len := out.length + 1
        let bias' := punyAdapt (i' - i) len (i = 0)
        let n' := n + i' / len
        let pos := i' % len
        if n' > 0x10FFFF ∨ (0xD800 ≤ n' ∧ n' ≤ 0xDFFF) then none
        go fuel rest' (out.insertIdx pos n') (pos + 1) n' bias'
  go (encoded.length + 1) encoded basic 0 128 72

def punyIntegerDigits (bias : Nat) : Nat → Nat → Nat → List Char
  | 0, _, _ => []
  | fuel + 1, k, q =>
    let t := punyThreshold bias k
    if q < t then [punyDigitChar q]
    else punyDigitChar (t + (q - t) % (36 - t)) :: punyIntegerDigits bias fuel (k + 36) ((q - t) / (36 - t))

def punycodeEncode (input : List Nat) : String :=
  let basic := input.filter (· < 0x80)
  let start := basic.map Char.ofNat ++ (if basic.isEmpty then [] else ['-'])
  -- each round places every code point equal to the smallest one not yet placed
  let rec rounds : Nat → List Char → Nat → Nat → Nat → Nat → List Char
    | 0, out, _, _, _, _ => out
    | fuel + 1, out, n, delta, bias, h =>
      if h ≥ input.length then out else
      let m := (input.filter (· ≥ n)).foldl min (0x10FFFF + 1)
      let delta := delta + (m - n) * (h + 1)
      let (out, delta, bias, h) := input.foldl (fun (out, delta, bias, h) c =>
        if c < m then (out, delta + 1, bias, h)
        else if c = m then
          (out ++ punyIntegerDigits bias 32 36 delta, 0, punyAdapt delta (h + 1) (h = basic.length), h + 1)
        else (out, delta, bias, h)) (out, delta, bias, h)
      rounds fuel out (m + 1) (delta + 1) bias h
  String.ofList (rounds (input.length + 1) start 128 0 72 basic.length)

end Fulfilment.Net
