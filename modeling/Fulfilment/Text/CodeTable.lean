/-!
Code point tables kept as text and read into sorted arrays. A table is a list of entries
separated by `;`; an entry is a closed range of code points `first-last` (or a single code point
`first`) in uppercase hex, a colon, and a payload that each table reads its own way. The ranges
are sorted and do not overlap, so a code point is looked up by halving the array.
-/

namespace Fulfilment.Text

/-- A closed range of code points carrying a value. -/
structure Span (α : Type) where
  first : Nat
  last : Nat
  value : α
  deriving Repr

def hexDigitOf? (c : Char) : Option Nat :=
  if '0' ≤ c ∧ c ≤ '9' then some (c.toNat - 48)
  else if 'A' ≤ c ∧ c ≤ 'F' then some (c.toNat - 55)
  else if 'a' ≤ c ∧ c ≤ 'f' then some (c.toNat - 87)
  else none

/-- A hex number: `none` unless the text is one or more hex digits. -/
def hexCode? (s : String) : Option Nat :=
  if s.isEmpty then none else
  s.toList.foldlM (fun acc c => (hexDigitOf? c).map fun d => acc * 16 + d) 0

/-- Hex numbers separated by `sep`; the empty text is the empty list. -/
def hexCodes? (sep : String) (s : String) : Option (List Nat) :=
  if s.isEmpty then some [] else (s.splitOn sep).mapM hexCode?

def readSpan? {α : Type} (payload : String → Option α) (entry : String) : Option (Span α) := do
  match entry.splitOn ":" with
  | [range, rest] =>
    let (first, last) ← match range.splitOn "-" with
      | [a] => do let n ← hexCode? a; pure (n, n)
      | [a, b] => do pure (← hexCode? a, ← hexCode? b)
      | _ => none
    return { first, last, value := ← payload rest }
  | _ => none

/-- A table read from its text; entries that do not read are left out. -/
def readTable {α : Type} (payload : String → Option α) (text : String) : Array (Span α) :=
  ((text.splitOn ";").filterMap (readSpan? payload)).toArray

/-- The value of the span holding `n`, looked up by halving `[lo, hi)`; each step at least
halves the width, so 64 steps cover any array that fits in memory. -/
def Span.lookup? {α : Type} (spans : Array (Span α)) (n : Nat) : Option α :=
  let rec go : Nat → Nat → Nat → Option α
    | 0, _, _ => none
    | fuel + 1, lo, hi =>
      if lo ≥ hi then none else
      let mid := (lo + hi) / 2
      match spans[mid]? with
      | none => none
      | some s =>
        if n < s.first then go fuel lo mid
        else if n > s.last then go fuel (mid + 1) hi
        else some s.value
  go 64 0 spans.size

end Fulfilment.Text
