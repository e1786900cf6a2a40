import Fulfilment.Pipeline.Error

/-!
Time budgets. A deadline is a budget of milliseconds; it is checked with the time spent so
far, and has run out once nothing of the budget is left, so a budget of zero has run out from
the start.
-/

namespace Fulfilment

/-- A budget of milliseconds for one piece of work. -/
structure Deadline where
  budgetMs : Nat
  deriving DecidableEq, Repr

namespace Deadline

def remaining (d : Deadline) (spentMs : Nat) : Nat := d.budgetMs - spentMs

/-- Checks the budget before `step`: a timeout once nothing is left. -/
def check (d : Deadline) (spentMs : Nat) (step : String) : Except PipelineError Unit :=
  if d.remaining spentMs = 0 then
    .error ⟨.timedOut, step ++ ": finalization exceeded " ++ toString d.budgetMs ++ "ms"⟩
  else .ok ()

end Deadline

end Fulfilment
