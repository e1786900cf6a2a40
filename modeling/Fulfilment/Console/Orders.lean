import Fulfilment.Console.Request
import Fulfilment.Order.Wire

/-!
Console operations on identifiers and orders: codes, UUID identities, quantities, statuses,
the order lifecycle and the order-created event.
-/

namespace Fulfilment.Console

open Json Wire

def codeKind (name : String) : Result CodeKind :=
  match name with
  | "tenant" => .ok .tenant
  | "seller" => .ok .seller
  | "hub" => .ok .hub
  | "sku" => .ok .sku
  | _ => .error (badInput "unknown kind")

def ofJsonError (e : Json.Error) : Failure := ofJson e.text

def decodeArg (sh : Shape) (text : String) : Result Value :=
  match decodeText sh text.toUTF8 with
  | .ok v => .ok v
  | .error e => .error (ofJsonError e)

/-- Reads a parsed value of a shape, as the console reports it. -/
def decodeArgValue (sh : Shape) (v : Value) : Result Value :=
  match decodeValue sh v with
  | .ok w => .ok w
  | .error m => .error (ofJson m)

/-- `code`: a code from JSON text when `json` is given, else from a value. -/
def codeOp (req : Value) : Result Value := do
  match arg? req "json" with
  | some (.str text) =>
    let k ← codeKind (← str req "kind")
    let v ← decodeArg (codeShape k) text
    return .obj [("value", v)]
  | some _ => throw (badInput "json must be a string")
  | none =>
    let k ← codeKind (← str req "kind")
    let c ← liftDomain (Code.make k (← str req "value"))
    return .obj [("value", .str c.text)]

def uuidIdOp (req : Value) : Result Value := do
  let kind ← str req "kind"
  let value ← str req "value"
  let u ← match kind with
    | "order" => liftDomain ((OrderId.parse value).map (·.uuid))
    | "subscription" => liftDomain ((SubscriptionId.parse value).map (·.uuid))
    | _ => throw (badInput "unknown kind")
  return .obj [("value", .str u.render)]

def quantityAnswer (q : Quantity) : Value :=
  .obj [("value", .int q.val), ("display", .str (toString q.val)), ("json", .int q.val)]

/-- `quantity`: from text, else from JSON text, else from a number. -/
def quantityOp (req : Value) : Result Value := do
  if let some raw ← str? req "raw" then
    return quantityAnswer (← liftDomain (Quantity.parse raw))
  if let some text ← str? req "json" then
    let q ← match finishText quantityOf (decodeText quantityShape text.toUTF8) with
      | .ok q => pure q
      | .error e => throw (ofJsonError e)
    return quantityAnswer q
  match ← i64? req "value" with
  | some n => return quantityAnswer (← liftDomain (Quantity.make n))
  | none => throw (badInput "missing field value")

def statusAnswer (s : OrderStatus) : Value :=
  .obj [("value", .str s.name), ("display", .str s.name), ("json", .str s.name)]

def statusOp (req : Value) : Result Value := do
  if let some text ← str? req "json" then
    match finishText statusOf (decodeText statusShape text.toUTF8) with
    | .ok s => return statusAnswer s
    | .error e => throw (ofJsonError e)
  return statusAnswer (← liftDomain (OrderStatus.parse (← str req "value")))

/-- An order as the console shows it: its JSON and whether it is complete. -/
def orderView (o : Order) : Value :=
  match orderJson o with
  | .obj ms => .obj (ms ++ [("is_complete", .bool o.progress.isComplete)])
  | v => v

def orderArg (v : Value) : Result Order :=
  match finish orderOf (decodeValue orderShape v) with
  | .ok o => .ok o
  | .error m => .error (ofJson m)

def newOrderArg (v : Value) : Result NewOrder :=
  match finish newOrderOf (decodeValue newOrderShape v) with
  | .ok n => .ok n
  | .error m => .error (ofJson m)

def orderAction (action : String) (o : Order) (now : Instant) : Result Order :=
  match action with
  | "mark_consumed" => .ok (o.markConsumed now)
  | "confirm" => liftDomain (o.confirm now)
  | "hold" => liftDomain (o.hold now)
  | "mark_notified" => .ok (o.markNotified now)
  | other => .error (badInput ("unknown step " ++ other))

/-- One step of the `order` operation. A step without an action or with a bad time fails the
whole operation; a refused action is the step's answer. -/
def orderStep (o : Order) (step : Value) : Result (Order × Value) := do
  let action ← str step "do"
  let now ← instant step "at"
  match orderAction action o now with
  | .ok o' => return (o', .obj [("result", .str "ok"), ("order", orderView o')])
  | .error f => return (o, .obj [("result", f.toValue), ("order", orderView o)])

/-- `order`: an order placed from a row, else one given whole, then lifecycle steps; steps that
are not an array are none. -/
def orderOp (freshId : OrderId) (req : Value) : Result Value := do
  let o ← match arg? req "place" with
    | some p => do
      let n ← newOrderArg p
      let now ← instant req "at"
      pure (Order.place freshId n now)
    | none => orderArg (← arg req "order")
  let steps := match arg? req "steps" with
    | some (.arr xs) => xs
    | _ => []
  let (final, answers) ← runStepsOrFail orderStep o steps
  return .obj [("initial", orderView o), ("steps", .arr answers),
    ("event", orderCreatedJson (OrderCreated.ofOrder final))]

/-- `order_event_json`: reads an event from JSON text and writes it again. -/
def orderEventJsonOp (req : Value) : Result Value := do
  let text ← str req "json"
  match finishText orderCreatedOf (decodeText orderCreatedShape text.toUTF8) with
  | .ok e => return .obj [("event", orderCreatedJson e)]
  | .error e => throw (ofJsonError e)

end Fulfilment.Console
