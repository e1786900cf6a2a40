import Fulfilment.Order.Basic

/-!
Reading order rows by a header. The header must name the five required columns (a cell names
a column when it equals the name once trimmed; the first such cell counts). A row is refused
when it is shorter than the header, when one of the four codes is blank (checked in the order
tenant, seller, hub, SKU), or when its quantity does not read as a positive integer.
-/

namespace Fulfilment

/-- The columns every header must name, in the order they are checked. -/
def requiredColumns : List String := ["tenant_id", "seller_id", "hub_id", "sku_id", "quantity"]

/-- Why a data row does not become an order. -/
inductive RowRejection where
  /-- A field that is not UTF-8. -/
  | invalidEncoding (field : Nat)
  /-- A row shorter than the header. -/
  | tooFewColumns (expected found : Nat)
  /-- A required code that is blank. -/
  | missingField (column : String)
  /-- A quantity that is not a positive integer (trimmed text). -/
  | invalidQuantity (raw : String)
  /-- A SKU the catalog does not know. -/
  | unknownSku (sku : SkuCode)
  /-- A hub the catalog does not know. -/
  | unknownHub (hub : HubCode)
  /-- The order could not be stored. -/
  | persistFailed (reason : String)
  deriving DecidableEq, Repr

def RowRejection.message : RowRejection → String
  | .invalidEncoding f => "field " ++ toString f ++ " is not valid UTF-8"
  | .tooFewColumns e f => "row has " ++ toString f ++ " columns, header has " ++ toString e
  | .missingField c => "column " ++ c ++ " is empty"
  | .invalidQuantity raw => "invalid quantity " ++ Text.quoted raw
  | .unknownSku s => "unknown sku " ++ s.text
  | .unknownHub h => "unknown hub " ++ h.text
  | .persistFailed r => "order could not be saved: " ++ r

/-- Where the required columns stand in a header, and how wide it is. -/
structure CsvSchema where
  width : Nat
  positions : List (String × Nat)
  deriving DecidableEq, Repr

namespace CsvSchema

def position? (header : List String) (column : String) : Option Nat :=
  header.findIdx? fun h => Text.trimBlank h = column

/-- Reads a header; refuses the first required column it does not name. -/
def ofHeader (header : List String) : Except DomainError CsvSchema := do
  let positions ← requiredColumns.mapM fun c =>
    match position? header c with
    | some i => .ok (c, i)
    | none => .error (.validation ("header is missing column " ++ c))
  return { width := header.length, positions }

/-- The trimmed field of a row in the column named `column` (empty if there is none). -/
def field (s : CsvSchema) (row : List String) (column : String) : String :=
  match (s.positions.find? (·.1 == column)).bind fun p => row[p.2]? with
  | some v => Text.trimBlank v
  | none => ""

def code (s : CsvSchema) (row : List String) (k : CodeKind) (column : String) :
    Except RowRejection (Code k) :=
  match Code.make k (s.field row column) with
  | .ok c => .ok c
  | .error _ => .error (.missingField column)

def extract (s : CsvSchema) (row : List String) : Except RowRejection NewOrder := do
  if row.length < s.width then throw (.tooFewColumns s.width row.length)
  let tenant ← s.code row .tenant "tenant_id"
  let seller ← s.code row .seller "seller_id"
  let hub ← s.code row .hub "hub_id"
  let sku ← s.code row .sku "sku_id"
  let raw := s.field row "quantity"
  let quantity ← match Quantity.parse raw with
    | .ok q => pure q
    | .error _ => throw (.invalidQuantity raw)
  return { tenant, seller, hub, sku, quantity }

end CsvSchema

end Fulfilment
