/-!
Well-formed UTF-8. Bytes are read as a run of well-formed sequences: an ASCII byte, or a lead
byte followed by one to three continuation bytes, each in the range its place allows, so that
overlong forms, surrogates and values past U+10FFFF are refused. `validPrefix` is the length of
the longest prefix made of whole well-formed sequences, which is the index at which reading
first fails; the bytes are UTF-8 exactly when that prefix is all of them.
-/

namespace Fulfilment.Text

/-- The ranges the bytes after a lead byte must fall in, or none for a byte that cannot lead. -/
def continuationRanges (b : UInt8) : Option (List (UInt8 × UInt8)) :=
  if b < 0x80 then some []
  else if b < 0xC2 then none
  else if b ≤ 0xDF then some [(0x80, 0xBF)]
  else if b = 0xE0 then some [(0xA0, 0xBF), (0x80, 0xBF)]
  else if b = 0xED then some [(0x80, 0x9F), (0x80, 0xBF)]
  else if b ≤ 0xEF then some [(0x80, 0xBF), (0x80, 0xBF)]
  else if b = 0xF0 then some [(0x90, 0xBF), (0x80, 0xBF), (0x80, 0xBF)]
  else if b ≤ 0xF3 then some [(0x80, 0xBF), (0x80, 0xBF), (0x80, 0xBF)]
  else if b = 0xF4 then some [(0x80, 0x8F), (0x80, 0xBF), (0x80, 0xBF)]
  else none

/-- Whether the bytes start with one byte in each range, in order. -/
def fitsRanges : List (UInt8 × UInt8) → List UInt8 → Bool
  | [], _ => true
  | (lo, hi) :: rs, b :: bs => decide (lo ≤ b) && decide (b ≤ hi) && fitsRanges rs bs
  | _ :: _, [] => false

/-- The length of the well-formed sequence at the front of the bytes, if one is there. -/
def sequenceAt : List UInt8 → Option Nat
  | [] => none
  | b :: bs =>
    (continuationRanges b).bind fun rs => if fitsRanges rs bs then some (rs.length + 1) else none

/-- The length of the prefix of whole well-formed sequences, reading at most `fuel` of them. -/
def validPrefixFrom : Nat → List UInt8 → Nat
  | 0, _ => 0
  | fuel + 1, bs =>
    match sequenceAt bs with
    | some n => n + validPrefixFrom fuel (bs.drop n)
    | none => 0

/-- The length of the longest prefix of whole well-formed sequences. Every sequence takes at
least one byte, so reading as many sequences as there are bytes is enough. -/
def validPrefix (bs : List UInt8) : Nat := validPrefixFrom bs.length bs

def isUtf8 (bs : List UInt8) : Bool := validPrefix bs == bs.length

def utf8Text? (bs : List UInt8) : Option String :=
  if isUtf8 bs then String.fromUTF8? ⟨bs.toArray⟩ else none

end Fulfilment.Text
