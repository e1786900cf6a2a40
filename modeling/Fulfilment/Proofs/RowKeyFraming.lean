import Fulfilment.Ingest.RowKey
import Fulfilment.Proofs.JsonText
import Fulfilment.Proofs.Signature

/-!
Idempotency keys and the rows they stand for. The bytes hashed for a row close its message id,
bucket and object key with zero bytes; when the first two hold no NUL, the bytes name the row
alone.
-/

namespace Fulfilment.RowKey

open Digest

/-! ### Separators -/

section Framing

variable {α : Type} {a : α} {x x' z z' : List α}

theorem eq_of_append_cons_eq (hx : a ∉ x) (hx' : a ∉ x') (h : x ++ a :: z = x' ++ a :: z') :
    x = x' ∧ z = z' := by
  induction x generalizing x' with
  | nil =>
    cases x' with
    | nil => simpa using h
    | cons y x' =>
      simp only [List.nil_append, List.cons_append, List.cons.injEq] at h
      exact absurd (by simp [h.1]) hx'
  | cons y x ih =>
    cases x' with
    | nil =>
      simp only [List.nil_append, List.cons_append, List.cons.injEq] at h
      exact absurd (by simp [← h.1]) hx
    | cons y' x' =>
      simp only [List.cons_append, List.cons.injEq] at h
      obtain ⟨rfl, rest⟩ := h
      obtain ⟨rfl, rfl⟩ := ih (fun m => hx (List.mem_cons_of_mem _ m))
        (fun m => hx' (List.mem_cons_of_mem _ m)) rest
      exact ⟨rfl, rfl⟩

end Framing

/-! ### Zero bytes in UTF-8 -/

theorem zero_mem_utf8EncodeChar_iff (c : Char) :
    (0 : UInt8) ∈ String.utf8EncodeChar c ↔ c = Char.ofNat 0 := by
  have nul : (Char.ofNat 0).toNat = 0 := rfl
  rw [← Char.toNat_inj, nul]
  have nonzero : ∀ {x y : UInt8}, 128 ≤ y.toNat → x ||| y ≠ 0 := fun hy h =>
    absurd (Json.high_of_or hy).2.2 (by rw [h]; decide)
  rcases Char.utf8Size_eq c with h | h | h | h
  · rw [String.utf8EncodeChar_eq_singleton h]
    have small : c.toNat < 128 := by
      have := Char.utf8Size_eq_one_iff.1 h
      rw [UInt32.le_iff_toNat_le, Char.toNat_val] at this
      simp at this
      omega
    have hv : c.val.toUInt8.toNat = c.toNat := by
      rw [UInt32.toNat_toUInt8, Char.toNat_val]; omega
    rw [List.mem_singleton, ← UInt8.toNat_inj, hv]
    exact eq_comm
  all_goals
    have big : c.toNat ≠ 0 := fun z => by
      rw [Char.utf8Size_eq_one_iff.2
        (by rw [UInt32.le_iff_toNat_le, Char.toNat_val, z]; decide)] at h
      exact absurd h (by decide)
  · rw [String.utf8EncodeChar_eq_cons_cons h]
    simp only [List.mem_cons, List.not_mem_nil, or_false, big, iff_false, not_or]
    exact ⟨Ne.symm (nonzero (by decide)), Ne.symm (nonzero (by decide))⟩
  · rw [String.utf8EncodeChar_eq_cons_cons_cons h]
    simp only [List.mem_cons, List.not_mem_nil, or_false, big, iff_false, not_or]
    exact ⟨Ne.symm (nonzero (by decide)), Ne.symm (nonzero (by decide)),
      Ne.symm (nonzero (by decide))⟩
  · rw [String.utf8EncodeChar_eq_cons_cons_cons_cons h]
    simp only [List.mem_cons, List.not_mem_nil, or_false, big, iff_false, not_or]
    exact ⟨Ne.symm (nonzero (by decide)), Ne.symm (nonzero (by decide)),
      Ne.symm (nonzero (by decide)), Ne.symm (nonzero (by decide))⟩

theorem zero_mem_bytes_iff (s : String) :
    (0 : UInt8) ∈ s.toByteArray.data.toList ↔ Char.ofNat 0 ∈ s.toList := by
  rw [Json.bytes_toByteArray, List.mem_flatMap]
  simp only [zero_mem_utf8EncodeChar_iff, exists_eq_right]

theorem eq_of_bytes_eq {s t : String} (h : s.toByteArray.data.toList = t.toByteArray.data.toList) :
    s = t :=
  String.toByteArray_inj.1 (ByteArray.ext (Array.toList_inj.1 h))

/-! ### The hashed bytes -/

theorem preimage_bytes (m b k : String) (i : Nat) :
    (preimage m b k i).data.toList =
      m.toByteArray.data.toList ++ 0 :: (b.toByteArray.data.toList ++ 0 ::
        (k.toByteArray.data.toList ++ 0 :: bigEndian i 8)) := by
  simp [preimage, ByteArray.data_append]

theorem bigEndian_eight_inj {x y : Nat} (hx : x < UInt64.size) (hy : y < UInt64.size)
    (h : bigEndian x 8 = bigEndian y 8) : x = y := by
  have size : UInt64.size = 18446744073709551616 := rfl
  have order : (List.range 8).reverse = [7, 6, 5, 4, 3, 2, 1, 0] := rfl
  simp only [bigEndian, order, List.map_cons, List.map_nil, List.cons.injEq, and_true] at h
  simp only [Nat.toUInt8_eq, ← UInt8.toNat_inj, UInt8.toNat_ofNat', Nat.mod_mod] at h
  simp only [Nat.pow_eq, Nat.reduceMul, Nat.reducePow] at h
  omega

theorem preimage_nul_message (m₁ m₂ b k : String) (i : Nat) :
    preimage (m₁ ++ "\x00" ++ m₂) b k i = preimage m₁ (m₂ ++ "\x00" ++ b) k i := by
  have nul : "\x00".toUTF8 = ⟨#[0]⟩ := rfl
  simp only [preimage, String.toUTF8_eq_toByteArray, String.toByteArray_append] at nul ⊢
  simp only [nul, ByteArray.append_assoc]

theorem preimage_inj {m b k m' b' k' : String} {i i' : Nat}
    (hm : Char.ofNat 0 ∉ m.toList) (hb : Char.ofNat 0 ∉ b.toList)
    (hm' : Char.ofNat 0 ∉ m'.toList) (hb' : Char.ofNat 0 ∉ b'.toList)
    (hi : i < UInt64.size) (hi' : i' < UInt64.size)
    (h : preimage m b k i = preimage m' b' k' i') : m = m' ∧ b = b' ∧ k = k' ∧ i = i' := by
  have bytes := congrArg (fun d : ByteArray => d.data.toList) h
  simp only [preimage_bytes] at bytes
  rw [← zero_mem_bytes_iff] at hm hb hm' hb'
  -- the first zero byte ends the message id, the next one the bucket
  obtain ⟨hmm, rest⟩ := eq_of_append_cons_eq hm hm' bytes
  obtain ⟨hbb, rest⟩ := eq_of_append_cons_eq hb hb' rest
  -- the last eight bytes are the index, and what stands before its zero byte is the object key
  have rest : (k.toByteArray.data.toList ++ [0]) ++ bigEndian i 8 =
      (k'.toByteArray.data.toList ++ [0]) ++ bigEndian i' 8 := by simpa using rest
  obtain ⟨hkk, hii⟩ := List.append_inj' rest (by simp)
  exact ⟨eq_of_bytes_eq hmm, eq_of_bytes_eq hbb, eq_of_bytes_eq (List.append_cancel_right hkk),
    bigEndian_eight_inj hi hi' hii⟩

/-! ### Keys -/

theorem toHex_injective : Function.Injective toHex := by
  intro d d' h
  have reads : ∀ d : ByteArray,
      Webhook.decodeHex (d.data.toList.flatMap hexPair) = some d.data.toList :=
    fun d => Webhook.decodeHex_of_hexPairs (fun c hc => (lower_of_mem_flatMap_hexPair hc).1)
      ((List.map_congr_left fun c hc => (lower_of_mem_flatMap_hexPair hc).2).trans (List.map_id _))
  have same : d.data.toList.flatMap hexPair = d'.data.toList.flatMap hexPair := by
    rw [← toList_toHex, ← toList_toHex, h]
  have := (reads d).symm.trans (same ▸ reads d')
  exact ByteArray.ext (Array.toList_inj.1 (Option.some.inj this))

theorem forRow_eq_iff {m b k m' b' k' : String} {i i' : Nat} :
    forRow m b k i = forRow m' b' k' i' ↔
      sha256 (preimage m b k i) = sha256 (preimage m' b' k' i') := by
  constructor
  · intro h
    exact toHex_injective (RowKey.mk.inj h)
  · intro h
    simp only [forRow, h]

theorem forRow_hex (m b k : String) (i : Nat) :
    (forRow m b k i).hex.length = 64 ∧
      ∀ c ∈ (forRow m b k i).hex.toList, c.isHexDigit = true ∧ c.toLower = c := by
  refine ⟨?_, fun c hc => ?_⟩
  · rw [← String.length_toList, forRow, toList_toHex, length_flatMap_hexPair]
    have := size_sha256 (preimage m b k i)
    simp only [ByteArray.size, Array.size] at this
    omega
  · rw [forRow, toList_toHex] at hc
    exact lower_of_mem_flatMap_hexPair hc

/-- Keys separate rows whose message id and bucket hold no NUL. For such rows, with indices that
fit in 64 bits, the hashed bytes name the row alone; two of them get one key exactly when they
are the same row or SHA-256 gives their different bytes one digest; and a key is 64 lowercase
hex digits. -/
theorem keys_separate_rows {m b k m' b' k' : String} {i i' : Nat}
    (hm : Char.ofNat 0 ∉ m.toList) (hb : Char.ofNat 0 ∉ b.toList)
    (hm' : Char.ofNat 0 ∉ m'.toList) (hb' : Char.ofNat 0 ∉ b'.toList)
    (hi : i < UInt64.size) (hi' : i' < UInt64.size) :
    (preimage m b k i = preimage m' b' k' i' ↔ m = m' ∧ b = b' ∧ k = k' ∧ i = i') ∧
    (forRow m b k i = forRow m' b' k' i' ↔ (m = m' ∧ b = b' ∧ k = k' ∧ i = i') ∨
      preimage m b k i ≠ preimage m' b' k' i' ∧
        sha256 (preimage m b k i) = sha256 (preimage m' b' k' i')) ∧
    (forRow m b k i).hex.length = 64 ∧
    ∀ c ∈ (forRow m b k i).hex.toList, c.isHexDigit = true ∧ c.toLower = c := by
  have bytes : preimage m b k i = preimage m' b' k' i' ↔ m = m' ∧ b = b' ∧ k = k' ∧ i = i' :=
    ⟨preimage_inj hm hb hm' hb' hi hi', by rintro ⟨rfl, rfl, rfl, rfl⟩; rfl⟩
  refine ⟨bytes, ?_, forRow_hex m b k i⟩
  rw [forRow_eq_iff]
  constructor
  · intro digests
    by_cases same : preimage m b k i = preimage m' b' k' i'
    · exact .inl (bytes.1 same)
    · exact .inr ⟨same, digests⟩
  · rintro (⟨rfl, rfl, rfl, rfl⟩ | ⟨-, digests⟩)
    · rfl
    · exact digests

theorem keys_separate_sample_rows :
    Char.ofNat 0 ∉ "m1".toList ∧ Char.ofNat 0 ∉ "orders".toList ∧
    Char.ofNat 0 ∉ "m2".toList ∧ Char.ofNat 0 ∉ "orders".toList ∧
    3 < UInt64.size ∧ 3 < UInt64.size ∧
    ((preimage "m1" "orders" "a.csv" 3 = preimage "m2" "orders" "a.csv" 3 ↔
        "m1" = "m2" ∧ "orders" = "orders" ∧ "a.csv" = "a.csv" ∧ 3 = 3) ∧
      (forRow "m1" "orders" "a.csv" 3 = forRow "m2" "orders" "a.csv" 3 ↔
        ("m1" = "m2" ∧ "orders" = "orders" ∧ "a.csv" = "a.csv" ∧ 3 = 3) ∨
          preimage "m1" "orders" "a.csv" 3 ≠ preimage "m2" "orders" "a.csv" 3 ∧
            sha256 (preimage "m1" "orders" "a.csv" 3) = sha256 (preimage "m2" "orders" "a.csv" 3)) ∧
      (forRow "m1" "orders" "a.csv" 3).hex.length = 64 ∧
      ∀ c ∈ (forRow "m1" "orders" "a.csv" 3).hex.toList, c.isHexDigit = true ∧ c.toLower = c) := by
  have m1 : Char.ofNat 0 ∉ "m1".toList := by decide
  have orders : Char.ofNat 0 ∉ "orders".toList := by decide
  have m2 : Char.ofNat 0 ∉ "m2".toList := by decide
  have three : 3 < UInt64.size := by decide
  exact ⟨m1, orders, m2, orders, three, three, keys_separate_rows m1 orders m2 orders three three⟩

/-- Two different rows, one with a NUL in its message id, get the same key. -/
theorem nul_in_message_id_shares_a_key :
    "a\x00b" ≠ "a" ∧ forRow "a\x00b" "c" "k" 0 = forRow "a" "b\x00c" "k" 0 := by
  have split : "a\x00b" = "a" ++ "\x00" ++ "b" := by decide
  have joined : "b\x00c" = "b" ++ "\x00" ++ "c" := by decide
  refine ⟨by decide, ?_⟩
  rw [forRow, forRow, split, joined, preimage_nul_message]

end Fulfilment.RowKey
