import Fulfilment.Json.Value
import Fulfilment.Number.Binary64
import Fulfilment.Text.Utf8

/-!
Reading JSON text byte by byte: a reader takes the index of the next byte and returns what it
read with the index after it, or an error placed at a byte index.
-/

namespace Fulfilment.Json

/-- The problems a reader reports. -/
inductive Problem where
  | eofValue
  | eofList
  | eofObject
  | eofString
  | expectedColon
  | expectedListCommaOrEnd
  | expectedObjectCommaOrEnd
  | expectedIdent
  | expectedValue
  | invalidEscape
  | invalidNumber
  | numberOutOfRange
  | invalidUnicode
  | controlCharacter
  | keyMustBeString
  | loneLeadingSurrogate
  | trailingComma
  | trailingCharacters
  | unexpectedEndOfHex
  | recursionLimit
  /-- A problem found by a decoder rather than by the syntax. -/
  | message (text : String)
  deriving DecidableEq, Repr

def Problem.text : Problem → String
  | .eofValue => "EOF while parsing a value"
  | .eofList => "EOF while parsing a list"
  | .eofObject => "EOF while parsing an object"
  | .eofString => "EOF while parsing a string"
  | .expectedColon => "expected `:`"
  | .expectedListCommaOrEnd => "expected `,` or `]`"
  | .expectedObjectCommaOrEnd => "expected `,` or `\x7d`"
  | .expectedIdent => "expected ident"
  | .expectedValue => "expected value"
  | .invalidEscape => "invalid escape"
  | .invalidNumber => "invalid number"
  | .numberOutOfRange => "number out of range"
  | .invalidUnicode => "invalid unicode code point"
  | .controlCharacter => "control character (\\u0000-\\u001F) found while parsing a string"
  | .keyMustBeString => "key must be a string"
  | .loneLeadingSurrogate => "lone leading surrogate in hex escape"
  | .trailingComma => "trailing comma"
  | .trailingCharacters => "trailing characters"
  | .unexpectedEndOfHex => "unexpected end of hex escape"
  | .recursionLimit => "recursion limit exceeded"
  | .message t => t

/-- A line and a column of a text. -/
structure Position where
  line : Nat
  column : Nat
  deriving DecidableEq, Repr

/-- A reading error, with its position once it has one. -/
structure Error where
  problem : Problem
  position : Option Position
  deriving DecidableEq, Repr

/-- The text of an error: the problem, then its position when it has one. -/
def Error.text (e : Error) : String :=
  match e.position with
  | some p => e.problem.text ++ " at line " ++ toString p.line ++ " column " ++ toString p.column
  | none => e.problem.text

def Error.plain (t : String) : Error := ⟨.message t, none⟩

/-- Line and column of the byte index `i` (clamped to the text). -/
def positionAt (s : ByteArray) (i : Nat) : Position :=
  let before := (s.toList.take i)
  let lineStart := (before.length - (before.reverse.findIdx? (· == 10)).getD before.length)
  let lines := (before.take lineStart).count 10
  ⟨lines + 1, min i s.size - lineStart⟩

def errAt (s : ByteArray) (i : Nat) (p : Problem) : Error := ⟨p, some (positionAt s (min i s.size))⟩

/-- An error found on looking at the byte at `i`: placed after it. -/
def peekErr (s : ByteArray) (i : Nat) (p : Problem) : Error := errAt s (min (i + 1) s.size) p

/-- Gives an error without a position the position of byte index `i`. -/
def placeAt (s : ByteArray) (i : Nat) (e : Error) : Error :=
  match e.position with
  | some _ => e
  | none => errAt s i e.problem

/-- The result of a reader: a value and the index after it. -/
abbrev Step (α : Type) := Except Error (α × Nat)

def byteAt? (s : ByteArray) (i : Nat) : Option UInt8 := s[i]?

def skipBlank (s : ByteArray) (i : Nat) : Nat :=
  if h : i < s.size then
    let b := s[i]
    if b == 32 || b == 10 || b == 9 || b == 13 then skipBlank s (i + 1) else i
  else i
termination_by s.size - i

def readIdent (s : ByteArray) (i : Nat) : List UInt8 → Except Error Nat
  | [] => .ok i
  | c :: cs =>
    match byteAt? s i with
    | none => .error (errAt s i .eofValue)
    | some b => if b == c then readIdent s (i + 1) cs else .error (errAt s (i + 1) .expectedIdent)

def isDigit (b : UInt8) : Bool := 48 ≤ b && b ≤ 57

def hexValue? (b : UInt8) : Option Nat :=
  if 48 ≤ b && b ≤ 57 then some (b.toNat - 48)
  else if 97 ≤ b && b ≤ 102 then some (b.toNat - 87)
  else if 65 ≤ b && b ≤ 70 then some (b.toNat - 55)
  else none

def readHex4 (s : ByteArray) (i : Nat) : Step Nat :=
  if i + 4 > s.size then .error (errAt s s.size .eofString) else
  let ds := [i, i + 1, i + 2, i + 3].map fun j => (byteAt? s j).bind hexValue?
  match ds with
  | [some a, some b, some c, some d] => .ok (((a * 16 + b) * 16 + c) * 16 + d, i + 4)
  | _ => .error (errAt s (i + 4) .invalidEscape)

def utf8Bytes (n : Nat) : List UInt8 :=
  (String.singleton (Char.ofNat n)).toUTF8.toList

/-- A `\u` escape whose four hex digits start at `i`: a character, or a surrogate pair. -/
def readUnicodeEscape (s : ByteArray) (i : Nat) : Except Error (List UInt8 × Nat) := do
  let (n, j) ← readHex4 s i
  if 0xDC00 ≤ n ∧ n ≤ 0xDFFF then throw (errAt s j .loneLeadingSurrogate)
  if n < 0xD800 ∨ n > 0xDBFF then return (utf8Bytes n, j)
  match byteAt? s j with
  | none => throw (errAt s s.size .eofString)
  | some b =>
    if b != 92 then throw (errAt s (j + 1) .unexpectedEndOfHex)
    match byteAt? s (j + 1) with
    | none => throw (errAt s s.size .eofString)
    | some b' =>
      if b' != 117 then throw (errAt s (j + 2) .unexpectedEndOfHex)
      let (n2, k) ← readHex4 s (j + 2)
      if n2 < 0xDC00 ∨ n2 > 0xDFFF then throw (errAt s k .loneLeadingSurrogate)
      return (utf8Bytes ((n - 0xD800) * 1024 + (n2 - 0xDC00) + 0x10000), k)

def readEscape (s : ByteArray) (i : Nat) : Step (List UInt8) :=
  match byteAt? s i with
  | none => .error (errAt s s.size .eofString)
  | some c =>
    if c == 34 then .ok ([34], i + 1)
    else if c == 92 then .ok ([92], i + 1)
    else if c == 47 then .ok ([47], i + 1)
    else if c == 98 then .ok ([8], i + 1)
    else if c == 102 then .ok ([12], i + 1)
    else if c == 110 then .ok ([10], i + 1)
    else if c == 114 then .ok ([13], i + 1)
    else if c == 116 then .ok ([9], i + 1)
    else if c == 117 then readUnicodeEscape s (i + 1)
    else .error (errAt s (i + 1) .invalidEscape)

/-- The bytes of a string body starting at `i` (after the opening quote), up to and past the
closing quote. -/
def readStrBytes (s : ByteArray) (i : Nat) (acc : Array UInt8) : Step (Array UInt8) :=
  if h : i < s.size then
    let b := s[i]
    if b == 34 then .ok (acc, i + 1)
    else if b == 92 then
      match readEscape s (i + 1) with
      | .error e => .error e
      | .ok (bs, j) => if j > i then readStrBytes s j (acc ++ bs.toArray) else .ok (acc, j)
    else if b < 32 then .error (errAt s (i + 1) .controlCharacter)
    else readStrBytes s (i + 1) (acc.push b)
  else .error (errAt s s.size .eofString)
termination_by s.size - i

/-- The offset of the first byte of a well-formed string body that breaks UTF-8, the bytes
between escapes read as they stand; escapes themselves always stand for whole characters. -/
def firstBadByte (bs : List UInt8) (offset : Nat) : Option Nat :=
  let run := bs.takeWhile (· != 92)
  let v := Text.validPrefix run
  if v < run.length then some (offset + v)
  else
    match h : bs.drop run.length with
    | _ :: c :: rest =>
      let skip := if c == 117 then 4 else 0
      firstBadByte (rest.drop skip) (offset + run.length + 2 + skip)
    | _ => none
termination_by bs.length
decreasing_by
  have hl := congrArg List.length h
  simp only [List.length_drop, List.length_cons] at hl
  simp only [List.length_drop]
  omega

/-- A string body starting at `i` (after the opening quote). Bytes that are not UTF-8 are
reported just after the first of them. -/
def readStr (s : ByteArray) (i : Nat) : Except Error (String × Nat) := do
  let (bs, j) ← readStrBytes s i #[]
  match String.fromUTF8? ⟨bs⟩ with
  | some t => return (t, j)
  | none =>
    match firstBadByte (s.extract i (j - 1)).toList 0 with
    | some k => throw (errAt s (i + k + 1) .invalidUnicode)
    | none => throw (errAt s j .invalidUnicode)

/-- Skips a string body starting at `i`, checking escapes but not their values. -/
def skipStr (s : ByteArray) (i : Nat) : Except Error Nat :=
  if h : i < s.size then
    let b := s[i]
    if b == 34 then .ok (i + 1)
    else if b == 92 then
      match byteAt? s (i + 1) with
      | none => .error (errAt s s.size .eofString)
      | some c =>
        if c == 34 || c == 92 || c == 47 || c == 98 || c == 102 || c == 110 || c == 114 || c == 116
        then skipStr s (i + 2)
        else if c == 117 then
          match readHex4 s (i + 2) with
          | .error e => .error e
          | .ok (_, j) => if j > i then skipStr s j else .ok j
        else .error (errAt s (i + 2) .invalidEscape)
    else if b < 32 then .error (errAt s i .controlCharacter)
    else skipStr s (i + 1)
  else .error (errAt s s.size .eofString)
termination_by s.size - i

def pow10Float (k : Nat) : Float := Float.ofBits (Binary64.pow10 k)

/-- `significand · 10^exp` as binary64 arithmetic: multiply or divide by a power of ten,
dividing by `10^308` first while the power is out of the table. An infinite product is an
error. -/
def floatFromParts (s : ByteArray) (i : Nat) (positive : Bool) (significand : Nat) (exp : Int) :
    Except Error UInt64 :=
  let f0 := significand.toUInt64.toFloat
  let rec go (f : Float) (e : Int) (fuel : Nat) : Except Error Float :=
    match fuel with
    | 0 => .ok f
    | fuel + 1 =>
      if e.natAbs ≤ 308 then
        if 0 ≤ e then
          let g := f * pow10Float e.toNat
          if g.isInf then .error (errAt s i .numberOutOfRange) else .ok g
        else .ok (f / pow10Float e.natAbs)
      else if f == 0 then .ok f
      else if 0 ≤ e then .error (errAt s i .numberOutOfRange)
      else go (f / pow10Float 308) (e + 308) fuel
  match go f0 exp (exp.natAbs / 308 + 2) with
  | .ok f => .ok (if positive then f.toBits else Binary64.negate f.toBits)
  | .error e => .error e

def countDigits (s : ByteArray) (i : Nat) : Nat :=
  if h : i < s.size then
    if isDigit s[i] then countDigits s (i + 1) + 1 else 0
  else 0
termination_by s.size - i

/-- The number made of the digits of `s` from `i`, `n` of them. -/
def digitsValue (s : ByteArray) (i n : Nat) : Nat :=
  ((List.range n).map fun k => ((byteAt? s (i + k)).getD 48).toNat - 48).foldl (fun a d => a * 10 + d) 0

def u64Max : Nat := Nat.pow 2 64 - 1

/-- Keeps digits while the significand fits in 64 bits: the significand and how many of the
`n` digits at `i` it took. -/
def takeDigits (s : ByteArray) (i : Nat) (start : Nat) : Nat → Nat → Nat × Nat
  | 0, _ => (start, 0)
  | fuel + 1, k =>
    if k = 0 then (start, 0) else
    let d := ((byteAt? s i).getD 48).toNat - 48
    if start * 10 + d > u64Max then (start, 0)
    else
      let (v, t) := takeDigits s (i + 1) (start * 10 + d) fuel (k - 1)
      (v, t + 1)

/-- Reading `n` exponent digits at `j` onto `acc`: the index just past the digit at which the
exponent first passes `2^31 - 1`, if it does. -/
def exponentOverflowAt (s : ByteArray) (j : Nat) : Nat → Nat → Option Nat
  | 0, _ => none
  | n + 1, acc =>
    let v := acc * 10 + (((byteAt? s j).getD 48).toNat - 48)
    if v > 2147483647 then some (j + 1) else exponentOverflowAt s (j + 1) n v

/-- The exponent part at `i` (at `e` or `E`), then the float. -/
def readExponent (s : ByteArray) (i : Nat) (positive : Bool) (significand : Nat) (start : Int) :
    Step UInt64 :=
  let j := i + 1
  let (positiveExp, j) :=
    match byteAt? s j with
    | some 43 => (true, j + 1)
    | some 45 => (false, j + 1)
    | _ => (true, j)
  match byteAt? s j with
  | none => .error (errAt s j .eofValue)
  | some b =>
    if !isDigit b then .error (errAt s (j + 1) .invalidNumber) else
    let n := countDigits s j
    let k := j + n
    let exp := digitsValue s j n
    match exponentOverflowAt s j n 0 with
    | some past =>
      -- an exponent past the 32-bit range: zero, or out of range
      if significand ≠ 0 ∧ positiveExp then .error (errAt s past .numberOutOfRange)
      else .ok (if positive then 0 else 0x8000000000000000, k)
    | none =>
      let e := if positiveExp then start + exp else start - exp
      let e := max (-2147483648) (min 2147483647 e)
      match floatFromParts s k positive significand e with
      | .ok b => .ok (b, k)
      | .error err => .error err

/-- The fraction part at `i` (at the point), then maybe an exponent, then the float. -/
def readFraction (s : ByteArray) (i : Nat) (positive : Bool) (significand : Nat) (start : Int) :
    Step UInt64 :=
  let j := i + 1
  let n := countDigits s j
  if n = 0 then
    match byteAt? s j with
    | some _ => .error (peekErr s j .invalidNumber)
    | none => .error (peekErr s j .eofValue)
  else
    let (v, used) := takeDigits s j significand (n + 1) n
    let k := j + n
    let e := start - used
    match byteAt? s k with
    | some 101 | some 69 => readExponent s k positive v e
    | _ =>
      match floatFromParts s k positive v e with
      | .ok b => .ok (b, k)
      | .error err => .error err

def readUnsigned (s : ByteArray) (i : Nat) (positive : Bool) : Step Number :=
  match byteAt? s i with
  | none => .error (errAt s i .eofValue)
  | some b =>
    if b == 48 then
      match byteAt? s (i + 1) with
      | some c =>
        if isDigit c then .error (peekErr s (i + 1) .invalidNumber)
        else afterInt s (i + 1) positive 0 0
      | none => afterInt s (i + 1) positive 0 0
    else if isDigit b then
      let n := countDigits s i
      let (v, used) := takeDigits s i 0 (n + 1) n
      afterInt s (i + used) positive v (n - used)
    else .error (errAt s (i + 1) .invalidNumber)
where
  /-- After the whole part: `dropped` digits were past 64 bits. -/
  afterInt (s : ByteArray) (k : Nat) (positive : Bool) (v : Nat) (dropped : Nat) : Step Number :=
    let k' := k + dropped
    match byteAt? s k' with
    | some 46 =>
      match readFraction s k' positive v dropped with
      | .ok (b, j) => .ok (.float b, j)
      | .error e => .error e
    | some 101 | some 69 =>
      match readExponent s k' positive v dropped with
      | .ok (b, j) => .ok (.float b, j)
      | .error e => .error e
    | _ =>
      if dropped > 0 then
        match floatFromParts s k' positive v dropped with
        | .ok b => .ok (.float b, k')
        | .error e => .error e
      else if positive then .ok (.int v, k')
      else if v = 0 then .ok (.float 0x8000000000000000, k')
      else if v ≤ Nat.pow 2 63 then .ok (.int (-(v : Int)), k')
      else .ok (.float (Binary64.negate v.toUInt64.toFloat.toBits), k')

def skipNumber (s : ByteArray) (i : Nat) : Except Error Nat :=
  let i := if byteAt? s i == some 45 then i + 1 else i
  let first := (byteAt? s i).getD 0
  let afterWhole : Except Error Nat :=
    if first == 48 then
      match byteAt? s (i + 1) with
      | some c => if isDigit c then .error (peekErr s (i + 1) .invalidNumber) else .ok (i + 1)
      | none => .ok (i + 1)
    else if isDigit first then .ok (i + countDigits s i)
    else .error (errAt s (i + 1) .invalidNumber)
  match afterWhole with
  | .error e => .error e
  | .ok k =>
    let skipExp (k : Nat) : Except Error Nat :=
      let j := k + 1
      let j := match byteAt? s j with
        | some 43 | some 45 => j + 1
        | _ => j
      if isDigit ((byteAt? s j).getD 0) then .ok (j + countDigits s j)
      else .error (errAt s (j + 1) .invalidNumber)
    match byteAt? s k with
    | some 46 =>
      let n := countDigits s (k + 1)
      if n = 0 then .error (peekErr s (k + 1) .invalidNumber)
      else
        let m := k + 1 + n
        match byteAt? s m with
        | some 101 | some 69 => skipExp m
        | _ => .ok m
    | some 101 | some 69 => skipExp k
    | _ => .ok k

/-- Where the skipper stands: before a value, just after an opening bracket, or just after a
value inside the open brackets. -/
inductive SkipState where
  | value
  | opened
  | after
  deriving DecidableEq

/-- One step of skipping: `frames` are the open brackets, innermost first. -/
def skipSteps (s : ByteArray) : Nat → SkipState → Nat → List UInt8 → Except Error Nat
  | 0, _, i, _ => .error (errAt s i .eofValue)
  | fuel + 1, .value, i, frames =>
    let i := skipBlank s i
    match byteAt? s i with
    | none => .error (peekErr s i .eofValue)
    | some b =>
      let scalar : Option (Except Error Nat) :=
        if b == 110 then some (readIdent s (i + 1) [117, 108, 108])
        else if b == 116 then some (readIdent s (i + 1) [114, 117, 101])
        else if b == 102 then some (readIdent s (i + 1) [97, 108, 115, 101])
        else if b == 45 || isDigit b then some (skipNumber s i)
        else if b == 34 then some (skipStr s (i + 1))
        else none
      match scalar with
      | some (.error e) => .error e
      | some (.ok j) => skipSteps s fuel .after j frames
      | none =>
        if b == 91 || b == 123 then skipSteps s fuel .opened (i + 1) (b :: frames)
        else .error (peekErr s i .expectedValue)
  | fuel + 1, st, i, frames =>
    match frames with
    | [] => .ok i
    | f :: rest =>
      let j := skipBlank s i
      let closer : UInt8 := if f == 91 then 93 else 125
      match byteAt? s j with
      | none => .error (peekErr s j (if f == 91 then .eofList else .eofObject))
      | some c =>
        if c == closer then skipSteps s fuel .after (j + 1) rest
        else if st == .after && c != 44 then
          .error (peekErr s j (if f == 91 then .expectedListCommaOrEnd else .expectedObjectCommaOrEnd))
        else
          -- after a comma, or on the first element: an object wants a key and a colon first
          let j := if st == .after then j + 1 else j
          if f == 91 then skipSteps s fuel .value j frames
          else
            let j := skipBlank s j
            match byteAt? s j with
            | none => .error (peekErr s j .eofObject)
            | some k =>
              if k != 34 then .error (peekErr s j .keyMustBeString) else
              match skipStr s (j + 1) with
              | .error e => .error e
              | .ok k =>
                let k := skipBlank s k
                match byteAt? s k with
                | none => .error (peekErr s k .eofObject)
                | some d =>
                  if d != 58 then .error (peekErr s k .expectedColon)
                  else skipSteps s fuel .value (k + 1) frames

/-- Skips one value at `i` (blanks first), checking its syntax as a value nobody keeps: no
string is decoded, no number is converted, nesting has no limit. -/
def skipValue (s : ByteArray) (i : Nat) : Except Error Nat :=
  skipSteps s (3 * s.size + 3) .value i []

end Fulfilment.Json
