import Fulfilment.Text.CodeTable
import Fulfilment.Text.CanonicalData

/-!
Canonical normalization, form C (Unicode Standard Annex 15), over code points: full canonical
decomposition, canonical ordering of marks, then composition with the last unblocked starter.
-/

namespace Fulfilment.Text

def combiningClasses : Array (Span Nat) := readTable hexCode? combiningClassText

def decompositions : Array (Span (List Nat)) := readTable (hexCodes? ",") decompositionText

def readComposite? (s : String) : Option (Nat × Nat) :=
  match s.splitOn ">" with
  | [b, c] => do pure (← hexCode? b, ← hexCode? c)
  | _ => none

def compositions : Array (Span (List (Nat × Nat))) :=
  readTable (fun s => (s.splitOn ",").mapM readComposite?) compositionText

/-- The canonical combining class of a code point; zero for starters. -/
def combiningClass (n : Nat) : Nat := (Span.lookup? combiningClasses n).getD 0

def hangulFirst : Nat := 0xAC00

/-- The number of precomposed Hangul syllables: 19 leading consonants, 21 vowels, 28 trailing
consonants counting none. -/
def hangulCount : Nat := 11172

def isHangulSyllable (n : Nat) : Bool := hangulFirst ≤ n && n < hangulFirst + hangulCount

/-- The jamo of a Hangul syllable: leading consonant, vowel and, unless there is none, trailing
consonant. -/
def hangulJamo (n : Nat) : List Nat :=
  let s := n - hangulFirst
  let t := s % 28
  [0x1100 + s / 588, 0x1161 + s % 588 / 28] ++ (if t = 0 then [] else [0x11A7 + t])

/-- The complete canonical decomposition of a code point; `fuel` bounds the depth, and no
decomposition in Unicode is more than a few steps deep. -/
def decompose : Nat → Nat → List Nat
  | 0, n => [n]
  | fuel + 1, n =>
    if isHangulSyllable n then hangulJamo n
    else match Span.lookup? decompositions n with
      | some ds => ds.flatMap (decompose fuel)
      | none => [n]

/-- Puts each run of marks in the order of their classes, equal classes keeping their order;
`fuel` is at least the length. -/
def reorder : Nat → List Nat → List Nat
  | 0, xs => xs
  | _, [] => []
  | fuel + 1, x :: rest =>
    if combiningClass x = 0 then x :: reorder fuel rest
    else
      let isMark := fun y => combiningClass y != 0
      let run := x :: rest.takeWhile isMark
      run.mergeSort (fun a b => combiningClass a ≤ combiningClass b) ++
        reorder fuel (rest.dropWhile isMark)

def composePair? (a b : Nat) : Option Nat :=
  if 0x1100 ≤ a ∧ a < 0x1100 + 19 ∧ 0x1161 ≤ b ∧ b < 0x1161 + 21 then
    some (hangulFirst + ((a - 0x1100) * 21 + (b - 0x1161)) * 28)
  else if isHangulSyllable a ∧ (a - hangulFirst) % 28 = 0 ∧ 0x11A7 < b ∧ b < 0x11A7 + 28 then
    some (a + (b - 0x11A7))
  else (Span.lookup? compositions a).bind fun ps => (ps.find? (·.1 == b)).map (·.2)

/-- One step of composition: the text so far, the place of its last starter and the class of
its last code point (256 before any starter). A code point joins the starter when they form a
composite and the last code point does not block it. -/
def composeStep (st : Array Nat × Nat × Nat) (c : Nat) : Array Nat × Nat × Nat :=
  let (out, starter, last) := st
  let cc := combiningClass c
  let keep := (out.push c, if cc = 0 then out.size else starter, cc)
  match out[starter]?.bind (composePair? · c) with
  | some comp => if last < cc ∨ last = 0 then (out.setIfInBounds starter comp, starter, last) else keep
  | none => keep

def compose : List Nat → List Nat
  | [] => []
  | first :: rest =>
    let init := (#[first], 0, if combiningClass first = 0 then 0 else 256)
    (rest.foldl composeStep init).1.toList

def nfc (xs : List Nat) : List Nat :=
  let ds := xs.flatMap (decompose 8)
  compose (reorder ds.length ds)

def isNfc (xs : List Nat) : Bool := nfc xs == xs

end Fulfilment.Text
