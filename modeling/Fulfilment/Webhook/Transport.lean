import Fulfilment.Webhook.Request

/-!
Failures of sending a webhook request: the request could not be made, or the destination
answered with a status outside 2xx.
-/

namespace Fulfilment.Webhook

/-- Why a webhook request failed. -/
inductive TransportError where
  | request (reason : String)
  | status (code : Nat)
  deriving DecidableEq, Repr

def TransportError.message : TransportError → String
  | .request m => "webhook request failed: " ++ m
  | .status c => "webhook destination returned status " ++ toString c

end Fulfilment.Webhook
