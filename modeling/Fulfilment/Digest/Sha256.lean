/-!
SHA-256 (FIPS 180-4) of a byte string: the message is padded with `0x80`, zeros and its bit
length as 64 big-endian bits to a multiple of 64 bytes, and each 64-byte block is compressed
into the eight-word state in 64 rounds. The digest is the final state, big-endian.
-/

namespace Fulfilment.Digest

def roundConstants : Array UInt32 := #[
  0x428A2F98, 0x71374491, 0xB5C0FBCF, 0xE9B5DBA5, 0x3956C25B, 0x59F111F1, 0x923F82A4, 0xAB1C5ED5,
  0xD807AA98, 0x12835B01, 0x243185BE, 0x550C7DC3, 0x72BE5D74, 0x80DEB1FE, 0x9BDC06A7, 0xC19BF174,
  0xE49B69C1, 0xEFBE4786, 0x0FC19DC6, 0x240CA1CC, 0x2DE92C6F, 0x4A7484AA, 0x5CB0A9DC, 0x76F988DA,
  0x983E5152, 0xA831C66D, 0xB00327C8, 0xBF597FC7, 0xC6E00BF3, 0xD5A79147, 0x06CA6351, 0x14292967,
  0x27B70A85, 0x2E1B2138, 0x4D2C6DFC, 0x53380D13, 0x650A7354, 0x766A0ABB, 0x81C2C92E, 0x92722C85,
  0xA2BFE8A1, 0xA81A664B, 0xC24B8B70, 0xC76C51A3, 0xD192E819, 0xD6990624, 0xF40E3585, 0x106AA070,
  0x19A4C116, 0x1E376C08, 0x2748774C, 0x34B0BCB5, 0x391C0CB3, 0x4ED8AA4A, 0x5B9CCA4F, 0x682E6FF3,
  0x748F82EE, 0x78A5636F, 0x84C87814, 0x8CC70208, 0x90BEFFFA, 0xA4506CEB, 0xBEF9A3F7, 0xC67178F2]

def initialState : Array UInt32 :=
  #[0x6A09E667, 0xBB67AE85, 0x3C6EF372, 0xA54FF53A, 0x510E527F, 0x9B05688C, 0x1F83D9AB, 0x5BE0CD19]

def rotr (x : UInt32) (n : UInt32) : UInt32 := (x >>> n) ||| (x <<< (32 - n))

def wordAt (b : ByteArray) (i : Nat) : UInt32 :=
  let byte (k : Nat) : UInt32 := (b[i + k]?.getD 0).toUInt32
  (byte 0 <<< 24) ||| (byte 1 <<< 16) ||| (byte 2 <<< 8) ||| byte 3

def schedule (block : ByteArray) : Array UInt32 :=
  let first := ((List.range 16).map fun k => wordAt block (4 * k)).toArray
  (List.range 48).foldl (fun w t =>
    let i := t + 16
    let x2 := w.getD (i - 2) 0
    let x15 := w.getD (i - 15) 0
    let s0 := rotr x15 7 ^^^ rotr x15 18 ^^^ (x15 >>> 3)
    let s1 := rotr x2 17 ^^^ rotr x2 19 ^^^ (x2 >>> 10)
    w.push (s1 + w.getD (i - 7) 0 + s0 + w.getD (i - 16) 0)) first

/-- The working variables of a compression. -/
structure Working where
  a : UInt32
  b : UInt32
  c : UInt32
  d : UInt32
  e : UInt32
  f : UInt32
  g : UInt32
  h : UInt32

def round (v : Working) (k w : UInt32) : Working :=
  let s1 := rotr v.e 6 ^^^ rotr v.e 11 ^^^ rotr v.e 25
  let ch := (v.e &&& v.f) ^^^ ((~~~ v.e) &&& v.g)
  let t1 := v.h + s1 + ch + k + w
  let s0 := rotr v.a 2 ^^^ rotr v.a 13 ^^^ rotr v.a 22
  let maj := (v.a &&& v.b) ^^^ (v.a &&& v.c) ^^^ (v.b &&& v.c)
  let t2 := s0 + maj
  { a := t1 + t2, b := v.a, c := v.b, d := v.c, e := v.d + t1, f := v.e, g := v.f, h := v.g }

def compress (st : Array UInt32) (block : ByteArray) : Array UInt32 :=
  let w := schedule block
  let at_ (i : Nat) := st.getD i 0
  let start : Working := ⟨at_ 0, at_ 1, at_ 2, at_ 3, at_ 4, at_ 5, at_ 6, at_ 7⟩
  let v := (List.range 64).foldl (fun v t => round v (roundConstants.getD t 0) (w.getD t 0)) start
  #[at_ 0 + v.a, at_ 1 + v.b, at_ 2 + v.c, at_ 3 + v.d, at_ 4 + v.e, at_ 5 + v.f, at_ 6 + v.g,
    at_ 7 + v.h]

def bigEndian (x : Nat) (n : Nat) : List UInt8 :=
  (List.range n).reverse.map fun k => (x / Nat.pow 2 (8 * k) % 256).toUInt8

def padded (msg : ByteArray) : ByteArray :=
  let len := msg.size
  let zeros := (119 - len % 64) % 64
  msg ++ ⟨(0x80 :: List.replicate zeros 0 ++ bigEndian (8 * len) 8).toArray⟩

def sha256 (msg : ByteArray) : ByteArray :=
  let p := padded msg
  let st := (List.range (p.size / 64)).foldl (fun st k => compress st (p.extract (64 * k) (64 * k + 64)))
    initialState
  ⟨(st.toList.flatMap fun x => bigEndian x.toNat 4).toArray⟩

/-- The HMAC-SHA-256 of a message under a key: keys longer than a block are hashed first. -/
def hmacSha256 (key msg : ByteArray) : ByteArray :=
  let k := if key.size > 64 then sha256 key else key
  let block := k.toList ++ List.replicate (64 - k.size) 0
  let inner := ⟨(block.map (· ^^^ 0x36)).toArray⟩
  let outer := ⟨(block.map (· ^^^ 0x5C)).toArray⟩
  sha256 (outer ++ sha256 (inner ++ msg))

def hexChar (n : Nat) : Char :=
  if n < 10 then Char.ofNat (48 + n) else Char.ofNat (87 + n)

def hexPair (x : UInt8) : List Char := [hexChar (x.toNat / 16), hexChar (x.toNat % 16)]

def toHex (b : ByteArray) : String :=
  String.ofList (b.toList.flatMap hexPair)

end Fulfilment.Digest
