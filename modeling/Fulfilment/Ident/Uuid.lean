/-!
UUIDs: 128-bit values written as 32 lowercase hex digits in groups of 8, 4, 4, 4 and 12. Reading
accepts the hyphenated form, the bare digits, braces and a `urn:uuid:` prefix, and says what is
wrong with any other text.
-/

namespace Fulfilment

/-- A 128-bit identifier. -/
structure Uuid where
  value : Nat
  isLt : value < Nat.pow 2 128
  deriving DecidableEq, Repr

instance : Inhabited Uuid := ⟨⟨0, by decide⟩⟩

namespace Uuid

def nibbleChar (n : Nat) : Char :=
  if n < 10 then Char.ofNat (48 + n) else Char.ofNat (87 + n)

def hexDigits (n : Nat) : Nat → List Char
  | 0 => []
  | k + 1 => hexDigits (n / 16) k ++ [nibbleChar (n % 16)]

def render (u : Uuid) : String :=
  let ds := hexDigits u.value 32
  String.ofList (ds.take 8 ++ '-' :: (ds.drop 8).take 4 ++ '-' :: (ds.drop 12).take 4 ++
    '-' :: (ds.drop 16).take 4 ++ '-' :: ds.drop 20)

instance : ToString Uuid := ⟨render⟩

/-- A version-7 UUID for millisecond `ms` and sequence number `seq`: the time in the top 48
bits, then version 7, the high twelve bits of the sequence, the variant `10`, and its low 62
bits. Within a millisecond a later sequence number gives a larger UUID. -/
def v7 (ms seq : Nat) : Uuid :=
  ⟨(ms % Nat.pow 2 48) * Nat.pow 2 80 + 7 * Nat.pow 2 76 + (seq / Nat.pow 2 62 % 4096) * Nat.pow 2 64 +
    2 * Nat.pow 2 62 + seq % Nat.pow 2 62, by
    -- the fields are below their widths, so the sum stays below 2^128
    have e48 : Nat.pow 2 48 = 281474976710656 := rfl
    have e80 : Nat.pow 2 80 = 1208925819614629174706176 := rfl
    have e76 : Nat.pow 2 76 = 75557863725914323419136 := rfl
    have e64 : Nat.pow 2 64 = 18446744073709551616 := rfl
    have e62 : Nat.pow 2 62 = 4611686018427387904 := rfl
    have e128 : Nat.pow 2 128 = 340282366920938463463374607431768211456 := rfl
    rw [e48, e80, e76, e64, e62, e128]
    omega⟩

/-- Why a text is not a UUID. -/
inductive ParseError where
  /-- A character that cannot stand in a UUID, at a byte index. -/
  | char (c : Char) (index : Nat)
  /-- Digits alone, but not 32 of them: the byte length of the text. -/
  | length (n : Nat)
  /-- Groups, but not five. -/
  | groupCount (n : Nat)
  /-- A group of the wrong length. -/
  | groupLength (group found : Nat)
  deriving DecidableEq, Repr

def groupSizes : List Nat := [8, 4, 4, 4, 12]

/-- The byte index at which each group starts in the hyphenated form. -/
def groupStarts : List Nat := [0, 9, 14, 19, 24]

def ParseError.message : ParseError → String
  | .char c i => "invalid character: found `" ++ String.singleton c ++ "` at " ++ toString i
  | .length n => "invalid length: found " ++ toString n
  | .groupCount n => "invalid group count: expected 5, found " ++ toString n
  | .groupLength g n =>
    "invalid group length in group " ++ toString g ++ ": expected " ++
      toString (groupSizes.getD g 0) ++ ", found " ++ toString n

def hexValue? (b : UInt8) : Option Nat :=
  if 48 ≤ b && b ≤ 57 then some (b.toNat - 48)
  else if 97 ≤ b && b ≤ 102 then some (b.toNat - 87)
  else if 65 ≤ b && b ≤ 70 then some (b.toNat - 55)
  else none

/-- The number written by hex digit bytes, if all are hex digits. -/
def hexNumber? (bs : List UInt8) : Option Nat :=
  bs.foldl (fun acc b => acc.bind fun a => (hexValue? b).map fun d => a * 16 + d) (some 0)

theorem hexValue?_lt {b : UInt8} {d : Nat} (h : hexValue? b = some d) : d < 16 := by
  simp only [hexValue?, Bool.and_eq_true, decide_eq_true_eq, UInt8.le_iff_toNat_le] at h
  have e48 : (48 : UInt8).toNat = 48 := rfl
  have e57 : (57 : UInt8).toNat = 57 := rfl
  have e97 : (97 : UInt8).toNat = 97 := rfl
  have e102 : (102 : UInt8).toNat = 102 := rfl
  have e65 : (65 : UInt8).toNat = 65 := rfl
  have e70 : (70 : UInt8).toNat = 70 := rfl
  split at h
  · cases h; omega
  · split at h
    · cases h; omega
    · split at h
      · cases h; omega
      · cases h

theorem foldl_hexNumber_none (bs : List UInt8) :
    bs.foldl (fun acc b => acc.bind fun a => (hexValue? b).map fun d => a * 16 + d) none = none := by
  induction bs with
  | nil => rfl
  | cons b bs ih => exact ih

theorem foldl_hexNumber_lt (bs : List UInt8) (a v : Nat)
    (h : bs.foldl (fun acc b => acc.bind fun a => (hexValue? b).map fun d => a * 16 + d) (some a) = some v) :
    v < (a + 1) * Nat.pow 16 bs.length := by
  induction bs generalizing a with
  | nil =>
    simp only [List.foldl_nil, Option.some.injEq] at h
    have e : Nat.pow 16 0 = 1 := rfl
    simp only [List.length_nil, e]
    omega
  | cons b bs ih =>
    simp only [List.foldl_cons, Option.bind_some] at h
    cases hb : hexValue? b with
    | none => rw [hb, Option.map_none, foldl_hexNumber_none] at h; cases h
    | some d =>
      rw [hb, Option.map_some] at h
      have hd := hexValue?_lt hb
      have hv := ih (a * 16 + d) h
      have hle : (a * 16 + d + 1) * Nat.pow 16 bs.length ≤ (a + 1) * Nat.pow 16 (bs.length + 1) := by
        have e : Nat.pow 16 (bs.length + 1) = Nat.pow 16 bs.length * 16 := rfl
        rw [e, Nat.mul_comm (Nat.pow 16 bs.length) 16, ← Nat.mul_assoc]
        exact Nat.mul_le_mul_right _ (by omega)
      simp only [List.length_cons]
      omega

theorem hexNumber?_lt {bs : List UInt8} {v : Nat} (h : hexNumber? bs = some v) :
    v < Nat.pow 16 bs.length := by
  simpa using foldl_hexNumber_lt bs 0 v h

def hyphen : UInt8 := 45

def ofSimple? (bs : List UInt8) : Option Nat :=
  if bs.length = 32 then hexNumber? bs else none

/-- The hyphenated form: hyphens at 8, 13, 18 and 23, hex digits elsewhere. -/
def ofHyphenated? (bs : List UInt8) : Option Nat :=
  if bs.length = 36 ∧ [8, 13, 18, 23].all (fun i => bs.getD i 0 == hyphen) then
    hexNumber? (bs.take 8 ++ (bs.drop 9).take 4 ++ (bs.drop 14).take 4 ++ (bs.drop 19).take 4 ++
      bs.drop 24)
  else none

def hasUrnPrefix (bs : List UInt8) : Bool :=
  bs.length ≥ 9 &&
    ((bs.take 9).map fun b => if 65 ≤ b && b ≤ 90 then b + 32 else b) == "urn:uuid:".toUTF8.toList

theorem ofSimple?_lt {bs : List UInt8} {v : Nat} (h : ofSimple? bs = some v) : v < Nat.pow 2 128 := by
  simp only [ofSimple?] at h
  split at h
  · rename_i hl
    have hv := hexNumber?_lt h
    rwa [hl] at hv
  · cases h

theorem ofHyphenated?_lt {bs : List UInt8} {v : Nat} (h : ofHyphenated? bs = some v) :
    v < Nat.pow 2 128 := by
  simp only [ofHyphenated?] at h
  split at h
  · rename_i hl
    have hv := hexNumber?_lt h
    have hlen : (bs.take 8 ++ (bs.drop 9).take 4 ++ (bs.drop 14).take 4 ++ (bs.drop 19).take 4 ++
        bs.drop 24).length = 32 := by
      simp only [List.length_append, List.length_take, List.length_drop]
      omega
    rwa [hlen] at hv
  · cases h

def decode (bs : List UInt8) : Option Nat :=
  if bs.length = 32 then ofSimple? bs
  else if bs.length = 36 then ofHyphenated? bs
  else if bs.length = 38 ∧ bs.head? = some 123 ∧ bs.getLast? = some 125 then
    ofHyphenated? ((bs.drop 1).take 36)
  else if bs.length = 45 ∧ hasUrnPrefix bs then ofHyphenated? (bs.drop 9)
  else none

theorem decode_lt {bs : List UInt8} {v : Nat} (h : decode bs = some v) : v < Nat.pow 2 128 := by
  simp only [decode] at h
  split at h
  · exact ofSimple?_lt h
  · split at h
    · exact ofHyphenated?_lt h
    · split at h
      · exact ofHyphenated?_lt h
      · split at h
        · exact ofHyphenated?_lt h
        · cases h

def longestForm : Nat := 45

/-- Splits off braces or the URN prefix: the inner characters, their byte offset, and whether
the text had neither. -/
def unwrap (cs : List Char) : List Char × Nat × Bool :=
  if cs.length ≥ 2 ∧ cs.head? = some '{' ∧ cs.getLast? = some '}' then
    ((cs.drop 1).take (cs.length - 2), 1, false)
  else if hasUrnPrefix (String.ofList (cs.take 9)).toUTF8.toList then (cs.drop 9, 9, false)
  else (cs, 0, true)

/-- Scans for the first character that is neither a hex digit nor a hyphen, counting hyphens
and noting the byte index of the first four. -/
def scan (offset : Nat) : List Char → Nat → Nat → List Nat → Except ParseError (Nat × List Nat)
  | [], _, count, bounds => .ok (count, bounds)
  | c :: rest, i, count, bounds =>
    if c = '-' then scan offset rest (i + 1) (count + 1) (if count < 4 then bounds ++ [i] else bounds)
    else if c.toNat ≥ 128 || (hexValue? c.toNat.toUInt8).isNone then .error (.char c (i + offset))
    else scan offset rest (i + c.utf8Size) count bounds

/-- The first group, of the first four, whose closing hyphen is misplaced. -/
def misplacedGroup : List Nat → List Nat → Nat → Option (Nat × Nat)
  | bound :: bounds, start :: next :: starts, g =>
    if bound ≠ next - 1 then some (g, bound - start) else misplacedGroup bounds (next :: starts) (g + 1)
  | _, _, _ => none

def diagnose (s : String) : ParseError :=
  let size := s.utf8ByteSize
  if size > longestForm then .length size else
  let (inner, offset, plain) := unwrap s.toList
  match scan offset inner 0 0 [] with
  | .error e => e
  | .ok (count, bounds) =>
    if count = 0 ∧ plain then .length size
    else if count ≠ 4 then .groupCount (count + 1)
    else
      match misplacedGroup bounds groupStarts 0 with
      | some (g, n) => .groupLength g n
      | none => .groupLength 4 (size - 24)

def parse (s : String) : Except ParseError Uuid :=
  match h : decode s.toUTF8.toList with
  | some v => .ok ⟨v, decode_lt h⟩
  | none => .error (diagnose s)

end Uuid

end Fulfilment
