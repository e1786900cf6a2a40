/-!
Refusals of the domain rules: a value that fails validation, an order that would break its
lifecycle, an identifier that does not parse. Each carries its detail; `message` prefixes it
with the kind of refusal.
-/

namespace Fulfilment

/-- A refusal of a domain rule. -/
inductive DomainError where
  /-- A value that fails validation. -/
  | validation (detail : String)
  /-- A transition the lifecycle forbids. -/
  | invariant (detail : String)
  /-- An identifier that is blank or does not parse. -/
  | invalidId (detail : String)
  deriving DecidableEq, Repr

def DomainError.message : DomainError → String
  | .validation d => "validation failed: " ++ d
  | .invariant d => "invariant violated: " ++ d
  | .invalidId d => "invalid identifier: " ++ d

end Fulfilment
