import Fulfilment.Json.Write
import Fulfilment.Domain.Error
import Fulfilment.Time.Instant
import Fulfilment.Ident.Uuid
import Fulfilment.Text.Quoted

/-!
Requests and answers of the JSON-line console. A request is a JSON object naming an operation
and its arguments; an answer is `{"ok": value}` or a failure object with the kind of error, its
message and sometimes more members. Arguments are read by name: a missing one or one of the
wrong type is a failure of kind `BadInput`. Byte strings are given as text (`name`) or as hex
(`name_hex`, which wins) and are answered as `{"text": ...}` when they are UTF-8, else as
`{"hex": ...}`.
-/

namespace Fulfilment.Console

open Json

/-- A failed answer: the kind of error, its message, and further members. -/
structure Failure where
  kind : String
  message : String
  extra : List (String × Value) := []

def Failure.toValue (f : Failure) : Value :=
  .obj ([("error", .str f.kind), ("message", .str f.message)] ++ f.extra)

abbrev Result (α : Type) := Except Failure α

def badInput (m : String) : Failure := { kind := "BadInput", message := m }

def DomainError.kind : DomainError → String
  | .validation _ => "Validation"
  | .invariant _ => "InvariantViolation"
  | .invalidId _ => "InvalidId"

def ofDomain (e : DomainError) : Failure := { kind := DomainError.kind e, message := e.message }

def ofJson (m : String) : Failure := { kind := "Json", message := m }

def liftDomain {α : Type} : Except DomainError α → Result α
  | .ok a => .ok a
  | .error e => .error (ofDomain e)

def Result.toValue : Result Value → Value
  | .ok v => v
  | .error f => f.toValue

/-- The millisecond at which the console's clock starts: 2026-01-01T00:00:00Z. -/
def clockStart : Nat := 1767225600000

def clockNow : Instant := Instant.ofUnix (clockStart / 1000)

/-- The `n`-th identity the console makes up: time-ordered, so later ones sort after earlier
ones. -/
def freshUuid (n : Nat) : Uuid := Uuid.v7 clockStart n

def int64Max : Int := Int.pow 2 63 - 1

def arg (req : Value) (k : String) : Result Value :=
  match req.field? k with
  | some v => .ok v
  | none => .error (badInput ("missing field " ++ k))

/-- The argument `k`, if given; a null counts as given. -/
def arg? (req : Value) (k : String) : Option Value := req.field? k

def str (req : Value) (k : String) : Result String := do
  match ← arg req k with
  | .str s => return s
  | _ => throw (badInput ("field " ++ k ++ " must be a string"))

def str? (req : Value) (k : String) : Result (Option String) :=
  match arg? req k with
  | none => .ok none
  | some (.str s) => .ok (some s)
  | some _ => .error (badInput ("field " ++ k ++ " must be a string"))

/-- A whole-number value in `lo..hi`, described as `what` when it is not. -/
def intIn (k : String) (what : String) (lo hi : Int) (v : Value) : Result Int :=
  match v with
  | .num (.int i) => if lo ≤ i ∧ i ≤ hi then .ok i else .error (badInput ("field " ++ k ++ " must be " ++ what))
  | _ => .error (badInput ("field " ++ k ++ " must be " ++ what))

def i64 (req : Value) (k : String) : Result Int := do
  intIn k "an integer in i64 range" (-Int.pow 2 63) int64Max (← arg req k)

def u64 (req : Value) (k : String) : Result Nat := do
  return (← intIn k "an integer in u64 range" 0 (Int.pow 2 64 - 1) (← arg req k)).toNat

def unsigned? (req : Value) (k : String) (bits : Nat) : Result (Option Nat) :=
  match arg? req k with
  | none => .ok none
  | some v => (intIn k ("an integer in u" ++ toString bits ++ " range") 0 (Int.pow 2 bits - 1) v).map
      fun i => some i.toNat

def i64? (req : Value) (k : String) : Result (Option Int) :=
  match arg? req k with
  | none => .ok none
  | some v => (intIn k "an integer in i64 range" (-Int.pow 2 63) int64Max v).map some

def bool? (req : Value) (k : String) : Result (Option Bool) :=
  match arg? req k with
  | none => .ok none
  | some (.bool b) => .ok (some b)
  | some _ => .error (badInput ("field " ++ k ++ " must be a boolean"))

def list (req : Value) (k : String) : Result (List Value) := do
  match ← arg req k with
  | .arr xs => return xs
  | _ => throw (badInput ("field " ++ k ++ " must be an array"))

def list? (req : Value) (k : String) : Result (List Value) :=
  match arg? req k with
  | none => .ok []
  | some (.arr xs) => .ok xs
  | some _ => .error (badInput ("field " ++ k ++ " must be an array"))

def strings (k : String) (xs : List Value) : Result (List String) :=
  xs.mapM fun x =>
    match x with
    | .str s => .ok s
    | _ => .error (badInput ("field " ++ k ++ " must be an array of strings"))

/-- Why text is not bytes written in hex. -/
inductive HexError where
  /-- The text has an odd number of bytes. -/
  | oddLength
  /-- The byte at `index` is not a hex digit; it is shown as the character of that code. -/
  | invalidCharacter (c : Char) (index : Nat)

def HexError.message : HexError → String
  | .oddLength => "Odd number of digits"
  | .invalidCharacter c i => "Invalid character " ++ Text.quotedCharacter c ++ " at position " ++ toString i

def hexNibble? (b : UInt8) : Option Nat :=
  let n := b.toNat
  if 48 ≤ n ∧ n ≤ 57 then some (n - 48)
  else if 97 ≤ n ∧ n ≤ 102 then some (n - 87)
  else if 65 ≤ n ∧ n ≤ 70 then some (n - 55)
  else none

def nibbleAt (b : UInt8) (i : Nat) : Except HexError Nat :=
  match hexNibble? b with
  | some v => .ok v
  | none => .error (.invalidCharacter (Char.ofNat b.toNat) i)

/-- Bytes written as pairs of hex digits, the first of them at byte `i`. -/
def hexPairs (i : Nat) : List UInt8 → Except HexError (List UInt8)
  | [] => .ok []
  | a :: b :: rest => do
    let x ← nibbleAt a i
    let y ← nibbleAt b (i + 1)
    let r ← hexPairs (i + 2) rest
    return (x * 16 + y).toUInt8 :: r
  | [_] => .error .oddLength

/-- Bytes written in hex: an odd length is refused before any digit is looked at. -/
def ofHex (s : String) : Except HexError (List UInt8) :=
  let bs := s.toUTF8.toList
  if bs.length % 2 = 1 then .error .oddLength else hexPairs 0 bs

/-- A byte string argument: `k_hex` as hex, else `k` as UTF-8 text, else empty. -/
def bytes (req : Value) (k : String) : Result ByteArray := do
  match arg? req (k ++ "_hex") with
  | some (.str h) =>
    match ofHex h with
    | .ok bs => return ⟨bs.toArray⟩
    | .error e => throw (badInput (k ++ "_hex: " ++ e.message))
  | some _ => throw (badInput (k ++ "_hex must be a string"))
  | none =>
    match arg? req k with
    | some (.str s) => return s.toUTF8
    | some _ => throw (badInput (k ++ " must be a string"))
    | none => return ByteArray.empty

/-- A count read as 64 bits that must also fit in 32. -/
def fitU32 (k : String) (n : Nat) : Result Nat :=
  if n < Nat.pow 2 32 then .ok n else .error (badInput (k ++ " must fit u32"))

def hexText (b : ByteArray) : String :=
  String.join (b.toList.map fun x => String.ofList [hexDigit (x.toNat / 16), hexDigit (x.toNat % 16)])

def bytesValue (b : ByteArray) : Value :=
  match String.fromUTF8? b with
  | some s => .obj [("text", .str s)]
  | none => .obj [("hex", .str (hexText b))]

/-- An instant argument: whole unix seconds on a day that can be written, or RFC 3339 text
read exactly; the epoch when absent. -/
def instant (req : Value) (k : String) : Result Instant :=
  match arg? req k with
  | none => .ok Instant.epoch
  | some (.num (.int i)) =>
    if Instant.unixInRange i then .ok (Instant.ofUnix i)
    else .error (badInput (k ++ ": timestamp out of range"))
  | some (.num _) => .error (badInput (k ++ ": timestamp out of range"))
  | some (.str s) =>
    match Instant.parseExact s with
    | .ok t => .ok t
    | .error e => .error (badInput (k ++ ": " ++ e.message))
  | some _ => .error (badInput (k ++ " must be unix seconds or an RFC 3339 string"))

/-- Runs steps in order over a state: each gives the next state and its answer. -/
def runSteps {σ : Type} (step : σ → Value → σ × Value) : σ → List Value → σ × List Value
  | s, [] => (s, [])
  | s, x :: xs =>
    let (s', r) := step s x
    let (s'', rs) := runSteps step s' xs
    (s'', r :: rs)

/-- Runs steps in order over a state, stopping at the first step that fails. -/
def runStepsOrFail {σ : Type} (step : σ → Value → Result (σ × Value)) :
    σ → List Value → Result (σ × List Value)
  | s, [] => .ok (s, [])
  | s, x :: xs => do
    let (s', r) ← step s x
    let (s'', rs) ← runStepsOrFail step s' xs
    return (s'', r :: rs)

end Fulfilment.Console
