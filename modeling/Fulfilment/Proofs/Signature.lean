import Fulfilment.Webhook.Signature
import Fulfilment.Proofs.Digest

/-!
Signature verification against signing. The verifier reads a header as the prefix
`sha256=` and pairs of hex digits of either case; the signer writes the prefix and lowercase
hex. Main statement: a header verifies exactly when it is the prefix followed by hex digits
that, lowercased, are the hex of the HMAC of the body. Signing writes the prefix and 64
lowercase hex digits, so every signature verifies.
-/

namespace Fulfilment.Webhook

open Digest

theorem hexValue?_eq (c : Char) : hexValue? c =
    if 48 ≤ c.toNat ∧ c.toNat ≤ 57 then some (c.toNat - 48)
    else if 97 ≤ c.toNat ∧ c.toNat ≤ 102 then some (c.toNat - 87)
    else if 65 ≤ c.toNat ∧ c.toNat ≤ 70 then some (c.toNat - 55)
    else none := by
  have hle : ∀ a b : Char, a ≤ b ↔ a.toNat ≤ b.toNat := fun a b => by
    rw [Char.le_def, UInt32.le_iff_toNat_le, Char.toNat_val, Char.toNat_val]
  simp only [hexValue?, hle]
  rfl

theorem hexValue?_eq_some_iff {c : Char} {n : Nat} :
    hexValue? c = some n ↔ c.isHexDigit = true ∧ n < 16 ∧ c.toLower = hexChar n := by
  rw [hexValue?_eq, isHexDigit_iff, ← Char.toNat_inj, toNat_toLower]
  constructor
  · intro h
    have hn : n < 16 := by
      repeat' split at h
      all_goals simp only [Option.some.injEq, reduceCtorEq] at h
      all_goals omega
    rw [toNat_hexChar hn]
    refine ⟨?_, hn, ?_⟩
    all_goals
      repeat' split at h
      all_goals simp only [Option.some.injEq, reduceCtorEq] at h
      all_goals (repeat' split) <;> omega
  · rintro ⟨_, hn, hl⟩
    rw [toNat_hexChar hn] at hl
    repeat' split at hl
    all_goals (repeat' split) <;> simp only [Option.some.injEq, reduceCtorEq] <;> omega

theorem hexPairs_of_decodeHex {cs : List Char} {bs : List UInt8} (h : decodeHex cs = some bs) :
    (∀ c ∈ cs, c.isHexDigit = true) ∧ cs.map Char.toLower = bs.flatMap hexPair := by
  fun_induction decodeHex cs generalizing bs with
  | case1 =>
    simp only [Option.some.injEq] at h
    subst h
    simp
  | case2 a b rest ih =>
    simp only [Option.bind_eq_bind, Option.pure_def, Option.bind_eq_some_iff,
      Option.some.injEq] at h
    obtain ⟨x, hx, y, hy, r, hr, rfl⟩ := h
    obtain ⟨hxd, hx16, hxl⟩ := hexValue?_eq_some_iff.1 hx
    obtain ⟨hyd, hy16, hyl⟩ := hexValue?_eq_some_iff.1 hy
    obtain ⟨hrd, hrl⟩ := ih hr
    have hv : (x * 16 + y).toUInt8.toNat = x * 16 + y := by
      simp only [Nat.toUInt8_eq, UInt8.toNat_ofNat']
      omega
    refine ⟨?_, ?_⟩
    · intro c hc
      simp only [List.mem_cons] at hc
      rcases hc with rfl | rfl | hc
      · exact hxd
      · exact hyd
      · exact hrd c hc
    · simp only [List.map_cons, List.flatMap_cons, hexPair, hv, hrl, hxl, hyl,
        List.cons_append, List.nil_append]
      congr 3 <;> omega
  | case3 a =>
    simp at h

theorem decodeHex_of_hexPairs {cs : List Char} {bs : List UInt8}
    (hd : ∀ c ∈ cs, c.isHexDigit = true) (hl : cs.map Char.toLower = bs.flatMap hexPair) :
    decodeHex cs = some bs := by
  induction bs generalizing cs with
  | nil =>
    simp only [List.flatMap_nil, List.map_eq_nil_iff] at hl
    subst hl
    rfl
  | cons x bs ih =>
    simp only [List.flatMap_cons, hexPair, List.cons_append, List.nil_append,
      List.map_eq_cons_iff] at hl
    obtain ⟨a, cs1, rfl, ha, b, rest, rfl, hb, hrest⟩ := hl
    have hx := x.toNat_lt
    have hva : hexValue? a = some (x.toNat / 16) :=
      hexValue?_eq_some_iff.2 ⟨hd a (by simp), by omega, ha⟩
    have hvb : hexValue? b = some (x.toNat % 16) :=
      hexValue?_eq_some_iff.2 ⟨hd b (by simp), by omega, hb⟩
    have hr : decodeHex rest = some bs := ih (fun c hc => hd c (by simp [hc])) hrest
    simp only [decodeHex, hva, hvb, hr, Option.bind_eq_bind, Option.bind_some, Option.pure_def]
    have hxy : x.toNat / 16 * 16 + x.toNat % 16 = x.toNat := by omega
    rw [hxy]
    simp

theorem decodeHex_eq_some_iff {cs : List Char} {bs : List UInt8} :
    decodeHex cs = some bs ↔
      (∀ c ∈ cs, c.isHexDigit = true) ∧ cs.map Char.toLower = bs.flatMap hexPair :=
  ⟨hexPairs_of_decodeHex, fun h => decodeHex_of_hexPairs h.1 h.2⟩

theorem verify_eq_true_iff (secret : String) (body : ByteArray) (header : String) :
    verify secret body header = true ↔ ∃ hex : List Char, header.toList = "sha256=".toList ++ hex ∧
      decodeHex hex = some (hmacSha256 secret.toUTF8 body).toList := by
  have hp : "sha256=".toList = ['s', 'h', 'a', '2', '5', '6', '='] := by simp
  unfold verify
  rw [hp]
  split
  · rename_i hex hh
    simp only [hh, List.cons_append, List.nil_append, List.cons.injEq, true_and, exists_eq_left']
    split
    · rename_i sig hs
      simp [hs]
    · rename_i hs
      simp [hs]
  · rename_i hno
    simp only [Bool.false_eq_true, false_iff, not_exists, not_and]
    intro hex hh
    exact absurd hh (by simpa using hno hex)

theorem toList_sign (secret : String) (body : ByteArray) :
    (sign secret body).toList = "sha256=".toList ++ (toHex (hmacSha256 secret.toUTF8 body)).toList := by
  simp [sign]

/-- A header verifies exactly when it is `sha256=` followed by hex digits of either case
that, lowercased, are the hex of the body's HMAC under the secret. The HMAC is 32 bytes, a
signature is `sha256=` and 64 lowercase hex digits, and every signature verifies. -/
theorem verify_iff_spells_hmac (secret : String) (body : ByteArray) (header : String) :
    (verify secret body header = true ↔
      ∃ hex : List Char, header.toList = "sha256=".toList ++ hex ∧
        (∀ c ∈ hex, c.isHexDigit = true) ∧
        hex.map Char.toLower = (toHex (hmacSha256 secret.toUTF8 body)).toList) ∧
    (hmacSha256 secret.toUTF8 body).size = 32 ∧
    (∃ hex : List Char, (sign secret body).toList = "sha256=".toList ++ hex ∧ hex.length = 64 ∧
        ∀ c ∈ hex, c.isHexDigit = true ∧ c.toLower = c) ∧
    verify secret body (sign secret body) = true := by
  have hsize := size_hmacSha256 secret.toUTF8 body
  have hbytes : (hmacSha256 secret.toUTF8 body).toList = (hmacSha256 secret.toUTF8 body).data.toList :=
    toList_eq_data_toList _
  have hverify : verify secret body header = true ↔
      ∃ hex : List Char, header.toList = "sha256=".toList ++ hex ∧
        (∀ c ∈ hex, c.isHexDigit = true) ∧
        hex.map Char.toLower = (toHex (hmacSha256 secret.toUTF8 body)).toList := by
    rw [verify_eq_true_iff, toList_toHex, hbytes]
    simp only [decodeHex_eq_some_iff]
  refine ⟨hverify, hsize, ⟨_, toList_sign secret body, ?_, fun c hc => ?_⟩, ?_⟩
  · rw [toList_toHex, length_flatMap_hexPair, Array.length_toList]
    change 2 * (hmacSha256 secret.toUTF8 body).size = 64
    rw [hsize]
  · rw [toList_toHex] at hc
    exact lower_of_mem_flatMap_hexPair hc
  · rw [verify_eq_true_iff]
    refine ⟨_, toList_sign secret body, ?_⟩
    rw [toList_toHex, hbytes]
    exact decodeHex_of_hexPairs (fun c hc => (lower_of_mem_flatMap_hexPair hc).1)
      (List.map_congr_left (fun c hc => (lower_of_mem_flatMap_hexPair hc).2) |>.trans
        (List.map_id _))

end Fulfilment.Webhook
