/-!
Requests sent to a webhook's callback URL: the URL, the headers in the order they are applied,
and the body. A later header replaces an earlier one whose name is the same up to ASCII case.
-/

namespace Fulfilment.Webhook

/-- One POST to a callback URL. -/
structure Request where
  url : String
  headers : List (String × String)
  body : List UInt8
  deriving DecidableEq, Repr

def sameHeaderName (a b : String) : Bool := a.toList.map Char.toLower == b.toList.map Char.toLower

/-- The value of the last header called `name` in a list of headers. -/
def headerValue? (headers : List (String × String)) (name : String) : Option String :=
  (headers.reverse.find? fun h => sameHeaderName h.1 name).map (·.2)

def Request.header? (r : Request) (name : String) : Option String := headerValue? r.headers name

end Fulfilment.Webhook
