import Fulfilment.Ident.Uuid
import Fulfilment.Time.Instant
import Fulfilment.Json.Write

/-!
Messages carried by the work queue and the event bus: an identity, a topic, a partition key,
a payload of bytes, the delivery attempt (from one, counted in 32 bits and never wrapping) and
the instant of publication. A redelivered message keeps everything but its attempt, which
grows by one.
-/

namespace Fulfilment

open Json

def attemptMax : Nat := Nat.pow 2 32 - 1

/-- A message. -/
structure Message where
  id : Uuid
  topic : String
  key : String
  payload : List UInt8
  attempt : Nat
  publishedAt : Instant
  deriving DecidableEq, Repr

namespace Message

/-- A message from its parts; attempt zero counts as the first. -/
def ofParts (id : Uuid) (topic key : String) (payload : List UInt8) (attempt : Nat) (publishedAt : Instant) :
    Message :=
  { id, topic, key, payload, attempt := max attempt 1, publishedAt }

def fresh (id : Uuid) (topic key : String) (payload : List UInt8) (now : Instant) : Message :=
  { id, topic, key, payload, attempt := 1, publishedAt := now }

def ofJson (id : Uuid) (topic key : String) (v : Value) (now : Instant) : Message :=
  fresh id topic key v.render.toUTF8.toList now

def redelivered (m : Message) : Message := { m with attempt := min (m.attempt + 1) attemptMax }

def redeliveredTimes (m : Message) (n : Nat) : Message :=
  { m with attempt := min (m.attempt + n) attemptMax }

/-- The JSON form: the payload as an array of byte values. -/
def toJson (m : Message) : Value :=
  .obj [("id", .str m.id.render), ("topic", .str m.topic), ("key", .str m.key),
    ("payload", .arr (m.payload.map fun b => .nat b.toNat)), ("attempt", .nat m.attempt),
    ("published_at", .str m.publishedAt.render)]

end Message

end Fulfilment
