import Fulfilment.Digest.Sha256

/-!
Webhook signatures: `sha256=` and the lowercase hex of the HMAC-SHA-256 of the body under the
subscription's secret. A header verifies when it is `sha256=` followed by an even number of hex
digits of either case that spell exactly that HMAC.
-/

namespace Fulfilment.Webhook

def signatureHeader : String := "X-Webhook-Signature"

def sign (secret : String) (body : ByteArray) : String :=
  "sha256=" ++ Digest.toHex (Digest.hmacSha256 secret.toUTF8 body)

def hexValue? (c : Char) : Option Nat :=
  if '0' ≤ c ∧ c ≤ '9' then some (c.toNat - 48)
  else if 'a' ≤ c ∧ c ≤ 'f' then some (c.toNat - 87)
  else if 'A' ≤ c ∧ c ≤ 'F' then some (c.toNat - 55)
  else none

def decodeHex : List Char → Option (List UInt8)
  | [] => some []
  | a :: b :: rest => do
    let x ← hexValue? a
    let y ← hexValue? b
    let r ← decodeHex rest
    return (x * 16 + y).toUInt8 :: r
  | [_] => none

/-- Whether a header value is the signature of the body under the secret. -/
def verify (secret : String) (body : ByteArray) (header : String) : Bool :=
  match header.toList with
  | 's' :: 'h' :: 'a' :: '2' :: '5' :: '6' :: '=' :: hex =>
    match decodeHex hex with
    | some sig => sig == (Digest.hmacSha256 secret.toUTF8 body).toList
    | none => false
  | _ => false

end Fulfilment.Webhook
