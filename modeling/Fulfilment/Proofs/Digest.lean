import Fulfilment.Digest.Sha256

/-!
Digests as text. A SHA-256 digest, and so an HMAC, is 32 bytes whatever the message, and its
hex is 64 characters, each a hex digit that lowercasing leaves alone. The character facts are
stated on code points, where the digit ranges are plain arithmetic.
-/

namespace Fulfilment.Digest

theorem toList_loop (bs : ByteArray) (i : Nat) (r : List UInt8) :
    ByteArray.toList.loop bs i r = r.reverse ++ bs.data.toList.drop i := by
  have hs : bs.size = bs.data.toList.length := by rw [Array.length_toList]; rfl
  fun_induction ByteArray.toList.loop bs i r with
  | case1 i r h ih =>
    rw [ih, List.reverse_cons, List.append_assoc]
    congr 1
    have hd : i < bs.data.size := h
    have hl : i < bs.data.toList.length := by rw [← hs]; exact h
    have hg : bs.get! i = bs.data[i] := by
      change bs.data[i]! = bs.data[i]
      exact getElem!_pos bs.data i hd
    rw [List.drop_eq_getElem_cons hl, hg, Array.getElem_toList]
    rfl
  | case2 i r h =>
    rw [List.drop_eq_nil_of_le (by omega), List.append_nil]

theorem toList_eq_data_toList (bs : ByteArray) : bs.toList = bs.data.toList := by
  simp [ByteArray.toList, toList_loop]

theorem size_compress (st : Array UInt32) (block : ByteArray) : (compress st block).size = 8 := by
  simp [compress]

theorem size_foldl_compress (blocks : List Nat) (g : Nat → ByteArray) (st : Array UInt32)
    (h : st.size = 8) : (blocks.foldl (fun st k => compress st (g k)) st).size = 8 := by
  induction blocks generalizing st with
  | nil => exact h
  | cons k rest ih => exact ih (compress st (g k)) (size_compress st (g k))

@[simp] theorem length_bigEndian (x n : Nat) : (bigEndian x n).length = n := by
  simp [bigEndian]

theorem size_stateBytes (st : Array UInt32) (h : st.size = 8) :
    (ByteArray.mk (st.toList.flatMap fun x => bigEndian x.toNat 4).toArray).size = 32 := by
  simp only [ByteArray.size, List.size_toArray, List.length_flatMap, length_bigEndian,
    List.map_const', List.sum_replicate_nat, Array.length_toList, h]

theorem size_sha256 (msg : ByteArray) : (sha256 msg).size = 32 :=
  size_stateBytes _ (size_foldl_compress _ _ initialState rfl)

theorem size_hmacSha256 (key msg : ByteArray) : (hmacSha256 key msg).size = 32 :=
  size_sha256 _

theorem toNat_ofNat_of_lt {n : Nat} (h : n < 0xD800) : (Char.ofNat n).toNat = n := by
  have hv : n.isValidChar := Or.inl h
  rw [Char.ofNat, dif_pos hv]
  rfl

theorem toNat_toLower (c : Char) :
    c.toLower.toNat = if 65 ≤ c.toNat ∧ c.toNat ≤ 90 then c.toNat + 32 else c.toNat := by
  have hA : 'A'.toNat = 65 := rfl
  have hZ : 'Z'.toNat = 90 := rfl
  unfold Char.toLower
  split
  · rename_i h
    simp only [ge_iff_le, UInt32.le_iff_toNat_le, Char.toNat_val, hA, hZ] at h
    rw [if_pos h]
    simp [UInt32.toNat_add]
    omega
  · rename_i h
    simp only [ge_iff_le, UInt32.le_iff_toNat_le, Char.toNat_val, hA, hZ] at h
    rw [if_neg h]

theorem isHexDigit_iff (c : Char) : c.isHexDigit = true ↔
    (48 ≤ c.toNat ∧ c.toNat ≤ 57) ∨ (97 ≤ c.toNat ∧ c.toNat ≤ 102) ∨
      (65 ≤ c.toNat ∧ c.toNat ≤ 70) := by
  simp only [Char.isHexDigit, Char.isDigit, ge_iff_le, UInt32.le_iff_toNat_le, Char.toNat_val,
    Bool.or_eq_true, Bool.and_eq_true, decide_eq_true_eq, or_assoc]
  exact Iff.rfl

theorem toNat_hexChar {n : Nat} (h : n < 16) :
    (hexChar n).toNat = if n < 10 then 48 + n else 87 + n := by
  unfold hexChar
  split <;> exact toNat_ofNat_of_lt (by omega)

theorem hexChar_lower {n : Nat} (h : n < 16) :
    (hexChar n).isHexDigit = true ∧ (hexChar n).toLower = hexChar n := by
  refine ⟨?_, ?_⟩
  · rw [isHexDigit_iff, toNat_hexChar h]
    split <;> omega
  · rw [← Char.toNat_inj, toNat_toLower, toNat_hexChar h]
    split <;> split <;> omega

theorem toList_toHex (b : ByteArray) : (toHex b).toList = b.data.toList.flatMap hexPair := by
  simp [toHex, toList_eq_data_toList]

theorem length_flatMap_hexPair (l : List UInt8) : (l.flatMap hexPair).length = 2 * l.length := by
  simp only [List.length_flatMap, hexPair, List.length_cons, List.length_nil, List.map_const',
    List.sum_replicate_nat]
  omega

theorem lower_of_mem_flatMap_hexPair {l : List UInt8} {c : Char} (h : c ∈ l.flatMap hexPair) :
    c.isHexDigit = true ∧ c.toLower = c := by
  obtain ⟨x, _, hc⟩ := List.mem_flatMap.1 h
  have hx := x.toNat_lt
  simp only [hexPair, List.mem_cons, List.not_mem_nil, or_false] at hc
  rcases hc with rfl | rfl
  · exact hexChar_lower (by omega)
  · exact hexChar_lower (by omega)

end Fulfilment.Digest
