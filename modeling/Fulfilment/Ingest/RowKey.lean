import Fulfilment.Digest.Sha256

/-!
The idempotency key of an ingested row: the SHA-256, in lowercase hex, of the message id, the
bucket and the object key, each followed by a zero byte, and then the row index as eight
big-endian bytes. A row processed again under the same message gets the same key.
-/

namespace Fulfilment

/-- The idempotency key of a row. -/
structure RowKey where
  hex : String
  deriving DecidableEq, Repr

def RowKey.preimage (messageId bucket key : String) (rowIndex : Nat) : ByteArray :=
  messageId.toUTF8 ++ ⟨#[0]⟩ ++ bucket.toUTF8 ++ ⟨#[0]⟩ ++ key.toUTF8 ++ ⟨#[0]⟩ ++
    ⟨(Digest.bigEndian rowIndex 8).toArray⟩

/-- The key of row `rowIndex` of object `key` in `bucket`, ingested under `messageId`. -/
def RowKey.forRow (messageId bucket key : String) (rowIndex : Nat) : RowKey :=
  ⟨Digest.toHex (Digest.sha256 (RowKey.preimage messageId bucket key rowIndex))⟩

end Fulfilment
