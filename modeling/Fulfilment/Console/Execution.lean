import Fulfilment.Console.Request
import Fulfilment.Messaging.Retry
import Fulfilment.Pipeline.Deadline
import Fulfilment.Config.Pool

/-!
Console operations on how work is run: retries, pool sizes and deadlines.
-/

namespace Fulfilment.Console

open Json

def ofPipeline (e : PipelineError) : Failure := { kind := e.cls.name, message := e.message }

def unsigned (req : Value) (k : String) (bits : Nat) : Result Nat := do
  match ← unsigned? req k bits with
  | some n => return n
  | none => throw (badInput ("missing field " ++ k))

/-- An operation that fails its first `failFirst` calls with `failure k` for call `k`; it
counts its calls and notes the attempt numbers it is given. -/
def flaky (failFirst : Nat) (attempt : Nat) : StateM (Nat × List Nat) (Except String String) := do
  let (calls, seen) ← get
  let k := calls + 1
  set (k, seen ++ [attempt])
  if k ≤ failFirst then return .error ("failure " ++ toString k)
  else return .ok ("ok at attempt " ++ toString attempt)

def flakyHandler (failFirst : Nat) (_ : Unit) : StateM Nat (Except String Unit) := do
  let k := (← get) + 1
  set k
  if k ≤ failFirst then return .error ("failure " ++ toString k) else return .ok ()

/-- `retry`: runs a flaky operation under a policy, as a handler when `via` says so and
directly otherwise. -/
def retryOp (req : Value) : Result Value := do
  let attempts ← fitU32 "attempts" (← u64 req "attempts")
  let failFirst ← u64 req "fail_first"
  let delay := (← unsigned? req "delay_ms" 64).getD 0
  let policy : RetryPolicy := ⟨attempts, delay⟩
  let (result, calls, numbers) := if (← str? req "via") = some "handler" then
      let (r, calls) := ((policy.guard (flakyHandler failFirst) ()).run 0).run
      let result := match r with
        | .ok () => Value.str "ok"
        | .error m => Value.obj [("error", .str "Handler"), ("message", .str m)]
      (result, calls, [])
    else
      let (r, calls, seen) := ((policy.run (flaky failFirst)).run (0, [])).run
      let result := match r with
        | .ok m => Value.obj [("ok", .str m)]
        | .error m => Value.obj [("error", .str "Failed"), ("message", .str m)]
      (result, calls, seen)
  return .obj [("result", result), ("calls", .nat calls), ("attempt_numbers", .arr (numbers.map .nat)),
    ("max_attempts", .nat policy.maxAttempts), ("no_retry_max", .nat RetryPolicy.once.maxAttempts),
    ("default", .obj [("attempts", .nat RetryPolicy.standard.attempts),
      ("delay_ms", .nat RetryPolicy.standard.delayMs)])]

def poolSizeOp (req : Value) : Result Value := do
  let p := PoolSize.make (← u64 req "workers") (← u64 req "concurrency")
  match p.threads with
  | some n => return .obj [("workers", .nat p.workers), ("concurrency", .nat p.concurrency), ("threads", .nat n)]
  | none => throw { kind := "Panic", message := PoolSize.multiplyOverflow }

def deadlineOp (req : Value) : Result Value := do
  let d : Deadline := ⟨← u64 req "budget_ms"⟩
  let step ← str req "step"
  return match d.check 0 step with
    | .ok () => .str "ok"
    | .error e => (ofPipeline e).toValue

end Fulfilment.Console
