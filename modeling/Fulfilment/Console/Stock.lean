import Fulfilment.Console.Request
import Fulfilment.Stock.Ledger
import Fulfilment.Stock.Catalog
import Fulfilment.Ident.Code

/-!
Console operations on stock: a ledger and a catalog driven by steps.
-/

namespace Fulfilment.Console

open Json

/-- Runs one step: a failed step leaves the state as it was and answers its failure. -/
def stepOrFail {σ : Type} (act : σ → Value → Result (σ × Value)) (s : σ) (step : Value) : σ × Value :=
  match act s step with
  | .ok r => r
  | .error f => (s, f.toValue)

def stepName (step : Value) : Result String := str step "do"

def unknownStep {α : Type} (name : String) : Result α := .error (badInput ("unknown step " ++ name))

/-- The item a step names by its number in `xs`; negative numbers count from the end. -/
def indexed {α : Type} (field : String) (xs : List α) (i : Int) : Result α :=
  let j := if i < 0 then i + xs.length else i
  match (if j < 0 then none else xs[j.toNat]?) with
  | some x => .ok x
  | none => .error (badInput ("no " ++ field ++ " with index " ++ toString i))

def codeArg (req : Value) (k : CodeKind) (name : String) : Result (Code k) := do
  liftDomain (Code.make k (← str req name))

def codeArgOr (req : Value) (k : CodeKind) (name other : String) : Result (Code k) :=
  match arg? req name with
  | some _ => codeArg req k name
  | none => codeArg req k other

def inventoryKeyArg (req : Value) : Result InventoryKey := do
  let tenant ← codeArg req .tenant "tenant_id"
  let seller ← codeArg req .seller "seller_id"
  let hub ← codeArgOr req .hub "hub_code" "hub_id"
  let sku ← codeArgOr req .sku "sku_code" "sku_id"
  return { tenant, seller, hub, sku }

def LedgerError.kind : LedgerError → String
  | .notFound _ => "NotFound"
  | .conflict _ _ => "Conflict"
  | .invalidQuantity _ => "InvalidQuantity"
  | .unavailable _ => "Unavailable"
  | .timedOut _ => "TimedOut"

/-- A ledger refusal as a failure; a conflict also tells the quantities. -/
def ofLedger (e : LedgerError) : Failure :=
  let extra := match e with
    | .conflict a r => [("available", Value.int a), ("requested", Value.int r)]
    | _ => []
  { kind := LedgerError.kind e, message := e.message, extra }

def liftLedger {α : Type} : Except LedgerError α → Result α
  | .ok a => .ok a
  | .error e => .error (ofLedger e)

def stockRecordView (r : StockRecord) : Value :=
  .obj [("id", .str r.id.render), ("tenant_id", .str r.key.tenant.text), ("seller_id", .str r.key.seller.text),
    ("hub_code", .str r.key.hub.text), ("sku_code", .str r.key.sku.text), ("quantity", .int r.quantity),
    ("updated_at", .str r.updatedAt.render)]

def consumeOutcomeView (o : ConsumeOutcome) : Value :=
  .obj ([("remaining", .int o.remaining)] ++ if o.replayed then [("replayed", .bool true)] else [])

def consumeArg (req : Value) : Result ConsumeRequest := do
  let key ← inventoryKeyArg req
  let quantity ← i64 req "quantity"
  let reference ← str? req "reference"
  let expired := ((arg? req "deadline_passed").bind Value.getBool?).getD false
  return { key, quantity, reference, expired }

/-- A ledger and the number of identities it has used. -/
structure LedgerSession where
  ledger : Ledger := {}
  used : Nat := 0

def ledgerStep (s : LedgerSession) (step : Value) : Result (LedgerSession × Value) := do
  match ← stepName step with
  | "upsert" =>
    let key ← inventoryKeyArg step
    let q ← i64 step "quantity"
    let (l, r) ← liftLedger (s.ledger.upsert key q (freshUuid s.used) clockNow)
    let used := if s.ledger.slot? key = none then s.used + 1 else s.used
    return ({ ledger := l, used }, stockRecordView r)
  | "get" =>
    let r ← liftLedger (s.ledger.get (← inventoryKeyArg step))
    return (s, stockRecordView r)
  | "consume" =>
    let (l, o) ← liftLedger (s.ledger.consume (← consumeArg step) clockNow)
    return ({ s with ledger := l }, consumeOutcomeView o)
  | "sku_exists" => return (s, .bool (s.ledger.hasSku (← codeArg step .sku "sku")))
  | "hub_exists" => return (s, .bool (s.ledger.hasHub (← codeArg step .hub "hub")))
  | other => unknownStep other

def ledgerOp (req : Value) : Result Value := do
  let (_, answers) := runSteps (stepOrFail ledgerStep) {} (← list req "steps")
  return .arr answers

def catalogStep (c : Catalog) (step : Value) : Result (Catalog × Value) := do
  match ← stepName step with
  | "add_sku" => return (c.addSku (← codeArg step .sku "sku"), .str "ok")
  | "add_hub" => return (c.addHub (← codeArg step .hub "hub"), .str "ok")
  | "sku_exists" => return (c, .bool (c.hasSku (← codeArg step .sku "sku")))
  | "hub_exists" => return (c, .bool (c.hasHub (← codeArg step .hub "hub")))
  | other => unknownStep other

def catalogOp (req : Value) : Result Value := do
  let (_, answers) := runSteps (stepOrFail catalogStep) {} (← list req "steps")
  return .arr answers

end Fulfilment.Console
