import Fulfilment.Net.IdnaData
import Fulfilment.Net.Punycode
import Fulfilment.Text.Normalization
import Fulfilment.Text.Direction

/-!
Domain names made ASCII the way URLs need them: UTS 46 compatibility processing, not
transitional, with hyphens unchecked, joiners and bidi checked, and the characters a URL host
cannot hold refused.
-/

namespace Fulfilment.Net

open Text

/-- What the table says of a code point. -/
inductive IdnaStatus where
  | valid
  | deviation
  | ignored
  | disallowed
  | mapped (image : List Nat)
  deriving DecidableEq, Repr

def readIdnaStatus? (s : String) : Option IdnaStatus :=
  match s.toList with
  | ['v'] => some .valid
  | ['w'] => some .deviation
  | ['g'] => some .ignored
  | ['x'] => some .disallowed
  | 'm' :: rest => (hexCodes? "," (String.ofList rest)).map .mapped
  | _ => none

def idnaTable : Array (Span IdnaStatus) := readTable readIdnaStatus? idnaMappingText

/-- The status of a code point; one the table does not cover is disallowed. -/
def idnaStatus (n : Nat) : IdnaStatus := (Span.lookup? idnaTable n).getD .disallowed

/-- Whether a code point may stand in a label as it is. -/
def isValidInLabel (n : Nat) : Bool :=
  match idnaStatus n with
  | .valid | .deviation => true
  | _ => false

/-- The ASCII code points a URL host cannot hold: controls, space, delete and
`%#/:<>?@[\]^|`. -/
def deniedInHost (n : Nat) : Bool :=
  n ≤ 0x20 || n = 0x7F || "%#/:<>?@[\\]^|".toList.any (·.toNat == n)

/-- The code points after mapping; none when one is disallowed. -/
def mapCodePoints (cps : List Nat) : Option (List Nat) :=
  (cps.mapM fun n =>
    match idnaStatus n with
    | .valid | .deviation => some [n]
    | .ignored => some []
    | .mapped image => some image
    | .disallowed => none).map List.flatten

def acePrefix : List Nat := [0x78, 0x6E, 0x2D, 0x2D]

/-- A label after punycode, and whether it was decoded; none when a label `xn--…` is not
ASCII, does not decode, or decodes to nothing or to ASCII only. -/
def decodeLabel? (l : List Nat) : Option (List Nat × Bool) :=
  if l.take 4 != acePrefix then some (l, false) else
  if l.any (· ≥ 0x80) then none else do
  let d ← punycodeDecode (l.drop 4)
  if d.isEmpty || d.all (· < 0x80) then none
  return (d, true)

def afterVirama (l : List Nat) (i : Nat) : Bool :=
  match i with
  | 0 => false
  | i + 1 => match l[i]? with
    | some c => combiningClass c == 9
    | none => false

/-- Whether the non-joiner at place `i` stands between letters that join towards it, with only
transparent characters in between. -/
def joinsAround (l : List Nat) (i : Nat) : Bool :=
  let transparent := fun c => joiningType? c == some .transparent
  let before := ((l.take i).reverse.dropWhile transparent).head?
  let after := ((l.drop (i + 1)).dropWhile transparent).head?
  (match before.bind joiningType? with
    | some .left | some .dual => true
    | _ => false) &&
  (match after.bind joiningType? with
    | some .right | some .dual => true
    | _ => false)

/-- The joiner rules: a zero-width joiner follows a virama; a zero-width non-joiner follows a
virama or stands between joining letters. -/
def joinersAllowed (l : List Nat) : Bool :=
  l.zipIdx.all fun (c, i) =>
    if c = 0x200D then afterVirama l i
    else if c = 0x200C then afterVirama l i || joinsAround l i
    else true

def isRightToLeftish (n : Nat) : Bool :=
  match bidiClass n with
  | .rightToLeft | .arabicLetter | .arabicNumber => true
  | _ => false

def allowedRightToLeft : BidiClass → Bool
  | .rightToLeft | .arabicLetter | .arabicNumber | .europeanNumber | .europeanSeparator
  | .commonSeparator | .europeanTerminator | .otherNeutral | .boundaryNeutral | .nonspacingMark => true
  | _ => false

def allowedLeftToRight : BidiClass → Bool
  | .leftToRight | .europeanNumber | .europeanSeparator | .commonSeparator
  | .europeanTerminator | .otherNeutral | .boundaryNeutral | .nonspacingMark => true
  | _ => false

/-- The last class of a label that is not a nonspacing mark. -/
def lastBase (cs : List BidiClass) : Option BidiClass :=
  (cs.reverse.dropWhile (· == .nonspacingMark)).head?

/-- The bidi rule of RFC 5893 for one label: it starts with a letter of either direction; a
right-to-left label holds only the classes allowed there, ends (before any nonspacing marks) in
a right-to-left letter or a digit, and does not mix European and Arabic digits; a left-to-right
label holds only the classes allowed there and ends in a letter or a European digit. -/
def bidiRuleHolds (l : List Nat) : Bool :=
  let cs := l.map bidiClass
  match cs with
  | [] => true
  | first :: _ =>
    match first with
    | .rightToLeft | .arabicLetter =>
      cs.all allowedRightToLeft &&
      (match lastBase cs with
        | some .rightToLeft | some .arabicLetter | some .europeanNumber | some .arabicNumber => true
        | _ => false) &&
      !(cs.contains .europeanNumber && cs.contains .arabicNumber)
    | .leftToRight =>
      cs.all allowedLeftToRight &&
      (match lastBase cs with
        | some .leftToRight | some .europeanNumber => true
        | _ => false)
    | _ => false

def labelAllowed (l : List Nat) (decoded : Bool) : Bool :=
  (!decoded || (isNfc l && l.all isValidInLabel && l.take 4 != acePrefix)) &&
  !l.contains 0x2E &&
  (match l.head? with
    | some c => !isMark c
    | none => true) &&
  joinersAllowed l

/-- The ASCII form of a label: itself when it is ASCII, else `xn--` and its punycode. -/
def asciiLabel (l : List Nat) : String :=
  if l.all (· < 0x80) then String.ofList (l.map Char.ofNat)
  else "xn--" ++ punycodeEncode l

/-- A domain name in its ASCII form, or none when it is not a valid name. -/
def domainToAscii (text : String) : Option String := do
  let mapped ← mapCodePoints (text.toList.map Char.toNat)
  if mapped.any deniedInHost then none
  let labels := (nfc mapped).splitOn 0x2E
  let decoded ← labels.mapM decodeLabel?
  if !(decoded.all fun (l, d) => labelAllowed l d) then none
  if decoded.any (fun (l, _) => l.any isRightToLeftish) && !(decoded.all fun (l, _) => bidiRuleHolds l)
  then none
  return String.intercalate "." (labels.map asciiLabel)

end Fulfilment.Net
