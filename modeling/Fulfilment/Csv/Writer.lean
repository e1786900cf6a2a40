import Fulfilment.Csv.Reader

/-!
Writing records as comma-separated text. A field is quoted only when it holds a comma, a double
quote, a carriage return or a line feed, and inside quotes a double quote is doubled. Every
record ends with a line feed. A record that would be written as nothing at all is written as
two double quotes, so that it reads back as one empty field instead of vanishing as a blank
line.
-/

namespace Fulfilment.Csv

def needsQuotes (f : List UInt8) : Bool := f.any fun b => b == comma || b == quote || isBreak b

/-- A byte inside quotes: a double quote is doubled. -/
def escapeByte (b : UInt8) : List UInt8 := if b == quote then [quote, quote] else [b]

def writeField (f : List UInt8) : List UInt8 :=
  if needsQuotes f then quote :: f.flatMap escapeByte ++ [quote] else f

def writeRecord (r : Record) : List UInt8 :=
  let body := [comma].intercalate (r.map writeField)
  (if body.isEmpty then [quote, quote] else body) ++ [10]

def write (rs : List Record) : List UInt8 := rs.flatMap writeRecord

@[simp] theorem escapeByte_quote : escapeByte quote = [quote, quote] := rfl

@[simp] theorem write_cons (r : Record) (rs : List Record) :
    write (r :: rs) = writeRecord r ++ write rs := by
  simp [write]

end Fulfilment.Csv
