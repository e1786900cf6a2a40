import Fulfilment.Text.Utf8

/-!
Reading comma-separated records from bytes. In a quoted field commas, line breaks and doubled
quotes are data; a run of line breaks ends one record, and a record's fields are text when each
is well-formed UTF-8.
-/

namespace Fulfilment.Csv

abbrev Record := List (List UInt8)

def comma : UInt8 := 44

def quote : UInt8 := 34

def isBreak (b : UInt8) : Bool := b == 13 || b == 10

/-- Where the reader stands. -/
inductive Position where
  /-- Before a record: line breaks are skipped. -/
  | betweenRecords
  /-- At the start of a field. -/
  | fieldStart
  /-- Inside a field that did not start with a quote. -/
  | plain
  /-- Inside a quoted field. -/
  | quoted
  /-- Just after a quote inside a quoted field. -/
  | quoteInQuoted
  deriving DecidableEq, Repr

/-- What has been read: the position, the bytes of the field so far (last first), the fields
of the record so far (last first) and the records so far (last first). -/
structure Cursor where
  pos : Position
  field : List UInt8 := []
  fields : List (List UInt8) := []
  records : List Record := []
  deriving DecidableEq, Repr

namespace Cursor

def push (c : Cursor) (b : UInt8) : Cursor := { c with field := b :: c.field }

def endField (c : Cursor) : Cursor :=
  { c with pos := .fieldStart, field := [], fields := c.field.reverse :: c.fields }

def endRecord (c : Cursor) : Cursor :=
  let c := c.endField
  { c with pos := .betweenRecords, fields := [], records := c.fields.reverse :: c.records }

def startField (c : Cursor) (b : UInt8) : Cursor :=
  if b == quote then { c with pos := .quoted }
  else if b == comma then c.endField
  else if isBreak b then c.endRecord
  else { c.push b with pos := .plain }

def step (c : Cursor) (b : UInt8) : Cursor :=
  match c.pos with
  | .betweenRecords => if isBreak b then c else c.startField b
  | .fieldStart => c.startField b
  | .plain =>
    if b == comma then c.endField
    else if isBreak b then c.endRecord
    else c.push b
  | .quoted => if b == quote then { c with pos := .quoteInQuoted } else c.push b
  | .quoteInQuoted =>
    if b == quote then { c.push b with pos := .quoted }
    else if b == comma then c.endField
    else if isBreak b then c.endRecord
    else { c.push b with pos := .plain }

def finish (c : Cursor) : List Record :=
  match c.pos with
  | .betweenRecords => c.records.reverse
  | _ => c.endRecord.records.reverse

end Cursor

def dropMark : List UInt8 → List UInt8
  | 0xEF :: 0xBB :: 0xBF :: rest => rest
  | bs => bs

def records (bs : List UInt8) : List Record :=
  ((dropMark bs).foldl Cursor.step { pos := .betweenRecords }).finish

/-- A field that is not well-formed UTF-8: its place in the record and the length of its
well-formed prefix. -/
structure Utf8Fault where
  field : Nat
  validUpTo : Nat
  deriving DecidableEq, Repr

def Utf8Fault.message (f : Utf8Fault) : String :=
  "invalid utf-8: invalid UTF-8 in field " ++ toString f.field ++ " near byte index " ++
    toString f.validUpTo

/-- The fields of a record as text, from field number `index` on. -/
def textsFrom (index : Nat) : Record → Except Utf8Fault (List String)
  | [] => .ok []
  | f :: fs =>
    match Text.utf8Text? f with
    | some s => (textsFrom (index + 1) fs).map (s :: ·)
    | none => .error ⟨index, Text.validPrefix f⟩

def texts (r : Record) : Except Utf8Fault (List String) := textsFrom 0 r

end Fulfilment.Csv
