import Fulfilment.Text.Blank

/-!
Instants in UTC, kept as whole seconds since 1970-01-01T00:00:00Z and nanoseconds past them,
with their RFC 3339 text and two readers: `parseExact` for RFC 3339 as written and the relaxed
`parse`.
-/

namespace Fulfilment

/-- An instant in UTC. -/
structure Instant where
  /-- Whole seconds since the epoch. -/
  seconds : Int
  /-- Nanoseconds past `seconds`; 10^9 or more during a leap second. -/
  nanos : Nat
  deriving DecidableEq, Repr, Inhabited

namespace Instant

def epoch : Instant := ⟨0, 0⟩

def ofUnix (s : Int) : Instant := ⟨s, 0⟩

def lt (a b : Instant) : Bool := a.seconds < b.seconds || (a.seconds == b.seconds && a.nanos < b.nanos)

def isLeapYear (y : Int) : Bool := (y % 4 == 0 && y % 100 != 0) || y % 400 == 0

def monthDays (y : Int) (m : Nat) : Nat :=
  match m with
  | 2 => if isLeapYear y then 29 else 28
  | 4 | 6 | 9 | 11 => 30
  | _ => 31

/-- Days from 1970-01-01 to the given date of the proleptic Gregorian calendar. -/
def daysFromCivil (y : Int) (m d : Nat) : Int :=
  let y := if m ≤ 2 then y - 1 else y
  let era := Int.fdiv y 400
  let yoe := y - era * 400
  let mp : Int := if m > 2 then m - 3 else m + 9
  let doy := (153 * mp + 2) / 5 + d - 1
  let doe := yoe * 365 + yoe / 4 - yoe / 100 + doy
  era * 146097 + doe - 719468

def civilFromDays (z : Int) : Int × Nat × Nat :=
  let z := z + 719468
  let era := Int.fdiv z 146097
  let doe := z - era * 146097
  let yoe := (doe - doe / 1460 + doe / 36524 - doe / 146096) / 365
  let y := yoe + era * 400
  let doy := doe - (365 * yoe + yoe / 4 - yoe / 100)
  let mp := (5 * doy + 2) / 153
  let d := doy - (153 * mp + 2) / 5 + 1
  let m := if mp < 10 then mp + 3 else mp - 9
  ((if m ≤ 2 then y + 1 else y), m.toNat, d.toNat)

def padded (width n : Nat) : String :=
  let s := toString n
  String.ofList (List.replicate (width - s.length) '0') ++ s

/-- The year as written: four digits, or a sign and at least four digits outside 0..9999. -/
def yearText (y : Int) : String :=
  if 0 ≤ y ∧ y ≤ 9999 then padded 4 y.toNat
  else (if y < 0 then "-" else "+") ++ padded 4 y.natAbs

/-- The fraction as written: nothing, or 3, 6 or 9 digits. -/
def fractionText (n : Nat) : String :=
  if n = 0 then ""
  else if n % 1000000 = 0 then "." ++ padded 3 (n / 1000000)
  else if n % 1000 = 0 then "." ++ padded 6 (n / 1000)
  else "." ++ padded 9 n

def render (t : Instant) : String :=
  let days := Int.fdiv t.seconds 86400
  let secs := (t.seconds - days * 86400).toNat
  let (y, m, d) := civilFromDays days
  let leap := t.nanos ≥ 1000000000
  let nanos := if leap then t.nanos - 1000000000 else t.nanos
  let sec := secs % 60 + (if leap then 1 else 0)
  yearText y ++ "-" ++ padded 2 m ++ "-" ++ padded 2 d ++ "T" ++ padded 2 (secs / 3600) ++ ":" ++
    padded 2 (secs / 60 % 60) ++ ":" ++ padded 2 sec ++ fractionText nanos ++ "Z"

/-- Why a text is not an instant. -/
inductive ParseError where
  | outOfRange
  | impossible
  | notEnough
  | invalid
  | tooShort
  | tooLong
  deriving DecidableEq, Repr

def ParseError.message : ParseError → String
  | .outOfRange => "input is out of range"
  | .impossible => "no possible date and time matching input"
  | .notEnough => "input is not enough for unique date and time"
  | .invalid => "input contains invalid characters"
  | .tooShort => "premature end of input"
  | .tooLong => "trailing input"

/-- A step of reading: a value and the rest of the text. -/
abbrev Scan (α : Type) := Except ParseError (α × List Char)

def dropBlank (cs : List Char) : List Char := cs.dropWhile Text.isBlank

def int64Max : Nat := 9223372036854775807

/-- Up to `max` ASCII digits, at least one; the value must fit in 64 signed bits. -/
def number (cs : List Char) (max : Nat) : Scan Nat :=
  if cs.isEmpty then .error .tooShort else
  let ds := (cs.take max).takeWhile Char.isDigit
  if ds.isEmpty then .error .invalid else
  let v := ds.foldl (fun a c => a * 10 + (c.toNat - 48)) 0
  -- the value is built digit by digit, and stops at the first that overflows
  let overflow := (List.range ds.length).any fun k =>
    (ds.take (k + 1)).foldl (fun a c => a * 10 + (c.toNat - 48)) 0 > int64Max
  if overflow then .error .outOfRange else .ok (v, cs.drop ds.length)

def literal (c : Char) (cs : List Char) : Except ParseError (List Char) :=
  match cs with
  | [] => .error .tooShort
  | d :: rest => if d = c then .ok rest else .error .invalid

def field (cs : List Char) (lo hi : Nat) : Except ParseError (Nat × List Char) := do
  let (v, rest) ← number (dropBlank cs) 2
  if v < lo ∨ v > hi then throw .outOfRange
  return (v, rest)

/-- The year: a sign and any number of digits, or up to four digits. -/
def year (cs : List Char) : Except ParseError (Int × List Char) := do
  let cs := dropBlank cs
  let (y, rest) ← match cs with
    | '-' :: r => do let (v, r) ← number r 1000000; pure (-(v : Int), r)
    | '+' :: r => do let (v, r) ← number r 1000000; pure ((v : Int), r)
    | r => do let (v, r) ← number r 4; pure ((v : Int), r)
  if y < -2147483648 ∨ y > 2147483647 then throw .outOfRange
  return (y, rest)

/-- The fraction after a point: at most nine digits count, and the value is scaled to
nanoseconds. -/
def fraction (cs : List Char) : Except ParseError (Nat × List Char) :=
  match cs with
  | '.' :: r => do
    let (v, rest) ← number r 9
    let used := (r.length - rest.length)
    let v := v * Nat.pow 10 (9 - used)
    return (v, rest.dropWhile Char.isDigit)
  | _ => .ok (0, cs)

def twoDigits : List Char → Option (Nat × Nat)
  | a :: b :: _ => if a.isDigit ∧ b.isDigit then some (a.toNat - 48, b.toNat - 48) else none
  | _ => none

def byteLength (cs : List Char) : Nat := cs.foldl (fun n c => n + c.utf8Size) 0

/-- Two ASCII digits at the front, counted in bytes: fewer than two bytes are too short, two
bytes that are not both digits are invalid. -/
def digitPair (cs : List Char) : Except ParseError Nat :=
  if byteLength cs < 2 then .error .tooShort else
  match twoDigits cs with
  | some (a, b) => .ok (a * 10 + b)
  | none => .error .invalid

/-- The offset east of UTC, in seconds; `sep` reads what stands between hours and minutes. -/
def offset (sep : List Char → Except ParseError (List Char)) (cs : List Char) :
    Except ParseError (Int × List Char) :=
  match cs with
  | 'Z' :: r | 'z' :: r => .ok (0, r)
  | c :: r =>
    let sign : Option Int := if c = '+' then some 1 else if c = '-' ∨ c.toNat = 0x2212 then some (-1) else none
    match sign with
    | none => .error .invalid
    | some sgn => do
      let h ← digitPair r
      let r ← sep (r.drop 2)
      if byteLength r < 2 then throw .tooShort
      match r with
      | m1 :: m2 :: rest =>
        if m1.isDigit ∧ m2.isDigit then
          if m1.toNat - 48 ≥ 6 then throw .outOfRange
          return (sgn * (h * 3600 + ((m1.toNat - 48) * 10 + (m2.toNat - 48)) * 60), rest)
        else throw .invalid
      | _ => throw .invalid
  | [] => .error .tooShort

/-- The separator of the relaxed offset: any colons and blanks. -/
def colonsOrBlanks (cs : List Char) : Except ParseError (List Char) :=
  .ok (cs.dropWhile fun c => c = ':' || Text.isBlank c)

def firstDay : Int := -96465292

def lastDay : Int := 95026236

def yearInRange (y : Int) : Bool := -262143 ≤ y && y ≤ 262142

/-- The instant of a local date and time at an offset; out of range when the local date cannot
be written, impossible when the instant in UTC cannot. -/
def assemble (y : Int) (mo d h mi sec nano : Nat) (off : Int) : Except ParseError Instant := do
  if !yearInRange y ∨ d > monthDays y mo then throw .outOfRange
  let (sec, nano) := if sec = 60 then (59, nano + 1000000000) else (sec, nano)
  let utc := daysFromCivil y mo d * 86400 + (h * 3600 + mi * 60 + sec : Nat) - off
  if utc < firstDay * 86400 ∨ utc ≥ (lastDay + 1) * 86400 then throw .impossible
  return ⟨utc, nano⟩

def unixInRange (s : Int) : Bool := firstDay * 86400 ≤ s && s < (lastDay + 1) * 86400

/-- Exactly `w` ASCII digits, counted in bytes: too short when fewer than `w` bytes remain,
invalid when one of the first `w` is not a digit. -/
def digits (w : Nat) (cs : List Char) : Scan Nat :=
  if byteLength cs < w then .error .tooShort else
  let ds := cs.take w
  if ds.length = w ∧ ds.all Char.isDigit then
    .ok (ds.foldl (fun a c => a * 10 + (c.toNat - 48)) 0, cs.drop w)
  else .error .invalid

def exactField (cs : List Char) (lo hi : Nat) : Except ParseError (Nat × List Char) := do
  let (v, rest) ← digits 2 cs
  if v < lo ∨ v > hi then throw .outOfRange
  return (v, rest)

/-- Reads RFC 3339 as written, with nothing before or after it. The date is checked against the
calendar as soon as it is read. -/
def parseExact (s : String) : Except ParseError Instant := do
  let (y, cs) ← digits 4 s.toList
  let cs ← literal '-' cs
  let (mo, cs) ← exactField cs 1 12
  let cs ← literal '-' cs
  let (d, cs) ← exactField cs 1 31
  if d > monthDays y mo then throw .outOfRange
  let cs ← match cs with
    | c :: r => if c = 'T' ∨ c = 't' ∨ c = ' ' then pure r else throw .invalid
    | [] => throw .tooShort
  let (h, cs) ← exactField cs 0 23
  let cs ← literal ':' cs
  let (mi, cs) ← exactField cs 0 59
  let cs ← literal ':' cs
  let (sec, cs) ← exactField cs 0 60
  let (nano, cs) ← fraction cs
  let (off, cs) ← offset (literal ':') cs
  if off.natAbs > 23 * 3600 + 59 * 60 then throw .outOfRange
  if !cs.isEmpty then throw .tooLong
  assemble y mo d h mi sec nano off

def startsWithUtc (cs : List Char) : Bool :=
  match cs with
  | a :: b :: c :: _ => a.toUpper = 'U' && b.toUpper = 'T' && c.toUpper = 'C'
  | _ => false

def parse (s : String) : Except ParseError Instant := do
  let cs := s.toList
  let (y, cs) ← year cs
  let cs ← literal '-' (dropBlank cs)
  let (mo, cs) ← field cs 1 12
  let cs ← literal '-' (dropBlank cs)
  let (d, cs) ← field cs 1 31
  let cs ← match cs with
    | c :: r => if c = 'T' ∨ c = 't' ∨ c = ' ' then pure r else throw .invalid
    | [] => throw .tooShort
  let (h, cs) ← field cs 0 23
  let cs ← literal ':' (dropBlank cs)
  let (mi, cs) ← field cs 0 59
  let cs ← literal ':' (dropBlank cs)
  let (sec, cs) ← field cs 0 60
  let (nano, cs) ← fraction cs
  let cs := dropBlank cs
  let (off, cs) ← if startsWithUtc cs then pure (0, cs.drop 3) else offset colonsOrBlanks cs
  if !(dropBlank cs).isEmpty then throw .tooLong
  if off.natAbs ≥ 86400 then throw .outOfRange
  assemble y mo d h mi sec nano off

end Instant

end Fulfilment
