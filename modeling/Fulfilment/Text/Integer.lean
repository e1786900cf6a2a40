/-!
Decimal integers as configuration values and quantities are written: an optional `+` (or `-`
where negatives are allowed), then one or more ASCII digits, nothing else. The digits are read
left to right, and reading stops at the first character that is not a digit or at the first
digit that takes the value out of its range, whichever comes first.
-/

namespace Fulfilment.Text

/-- Why a text is not an integer of the wanted range. -/
inductive IntError where
  | empty
  | invalidDigit
  | posOverflow
  | negOverflow
  deriving DecidableEq, Repr

def IntError.message : IntError → String
  | .empty => "cannot parse integer from empty string"
  | .invalidDigit => "invalid digit found in string"
  | .posOverflow => "number too large to fit in target type"
  | .negOverflow => "number too small to fit in target type"

/-- Reads digits onto `acc`, moving away from zero in the direction `negative` says, within
`lo..hi`. -/
def readDigits (lo hi : Int) (negative : Bool) : List Char → Int → Except IntError Int
  | [], acc => .ok acc
  | c :: cs, acc =>
    if !c.isDigit then .error .invalidDigit else
    let d : Int := c.toNat - 48
    let next := if negative then acc * 10 - d else acc * 10 + d
    if next > hi then .error .posOverflow
    else if next < lo then .error .negOverflow
    else readDigits lo hi negative cs next

/-- Reads a decimal integer in `lo..hi`; a minus sign is a digit error when `lo` is not
negative. -/
def parseInt (lo hi : Int) (s : String) : Except IntError Int :=
  match s.toList with
  | [] => .error .empty
  | ['+'] | ['-'] => .error .invalidDigit
  | '+' :: cs => readDigits lo hi false cs 0
  | '-' :: cs => if lo < 0 then readDigits lo hi true cs 0 else .error .invalidDigit
  | cs => readDigits lo hi false cs 0

def int64Range : Int × Int := (-Int.pow 2 63, Int.pow 2 63 - 1)

def parseInt64 (s : String) : Except IntError Int := parseInt int64Range.1 int64Range.2 s

def parseUnsigned (bits : Nat) (s : String) : Except IntError Nat :=
  (parseInt 0 (Int.pow 2 bits - 1) s).map Int.toNat

end Fulfilment.Text
