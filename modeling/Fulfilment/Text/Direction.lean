import Fulfilment.Text.CodeTable
import Fulfilment.Text.BidiData

/-!
The character properties that the rules for domain names look at: the bidi class of a code
point (Unicode Standard Annex 9), its joining type in cursive scripts, and whether it is a mark.
Code points missing from the tables are left-to-right, do not join, and are not marks.
-/

namespace Fulfilment.Text

/-- Bidi classes. The explicit embeddings, overrides and isolates are kept together: the rules
here refuse them all alike. -/
inductive BidiClass where
  | leftToRight
  | rightToLeft
  | arabicLetter
  | europeanNumber
  | europeanSeparator
  | europeanTerminator
  | arabicNumber
  | commonSeparator
  | nonspacingMark
  | boundaryNeutral
  | paragraphSeparator
  | segmentSeparator
  | whiteSpace
  | otherNeutral
  | explicitFormatting
  deriving DecidableEq, Repr

def readBidiClass? : String → Option BidiClass
  | "L" => some .leftToRight
  | "R" => some .rightToLeft
  | "AL" => some .arabicLetter
  | "EN" => some .europeanNumber
  | "ES" => some .europeanSeparator
  | "ET" => some .europeanTerminator
  | "AN" => some .arabicNumber
  | "CS" => some .commonSeparator
  | "NSM" => some .nonspacingMark
  | "BN" => some .boundaryNeutral
  | "B" => some .paragraphSeparator
  | "S" => some .segmentSeparator
  | "WS" => some .whiteSpace
  | "ON" => some .otherNeutral
  | "LRE" | "LRO" | "RLE" | "RLO" | "PDF" | "LRI" | "RLI" | "FSI" | "PDI" => some .explicitFormatting
  | _ => none

def bidiClasses : Array (Span BidiClass) := readTable readBidiClass? bidiClassText

def bidiClass (n : Nat) : BidiClass := (Span.lookup? bidiClasses n).getD .leftToRight

/-- How a character joins its neighbours in cursive scripts; a character that does not join
has none. -/
inductive JoiningType where
  | dual
  | left
  | right
  | transparent
  | causing
  deriving DecidableEq, Repr

def readJoiningType? : String → Option JoiningType
  | "D" => some .dual
  | "L" => some .left
  | "R" => some .right
  | "T" => some .transparent
  | "C" => some .causing
  | _ => none

def joiningTypes : Array (Span JoiningType) := readTable readJoiningType? joiningTypeText

def joiningType? (n : Nat) : Option JoiningType := Span.lookup? joiningTypes n

def markRanges : Array (Span Unit) := readTable (fun _ => some ()) markText

def isMark (n : Nat) : Bool := (Span.lookup? markRanges n).isSome

end Fulfilment.Text
