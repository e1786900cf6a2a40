import Mathlib.Data.List.Nodup
import Fulfilment.Json.Decode
import Fulfilment.Json.Write
import Fulfilment.Proofs.Digest

/-!
Reading back what the writer wrote. A reader walks a byte array by index; here the bytes from an
index on are given as a list (`S.data.toList.drop i`), so that a written text can be laid out
as a concatenation and each reader consumes its front. The main result is that the string
reader gives back every string the writer quotes, whatever its characters: quotes, backslashes
and control characters come back from their escapes, and every other character from its own
UTF-8 bytes, none of which is a quote, a backslash or a control byte.
-/

namespace Fulfilment.Json

theorem bytes_toByteArray (s : String) :
    s.toByteArray.data.toList = s.toList.flatMap String.utf8EncodeChar := by
  rw [← String.utf8Encode_toList]
  simp [List.utf8Encode]

/-! ### Reading at a known position -/

section Cursor

variable {S : ByteArray} {i : Nat} {b : UInt8} {r : List UInt8}

theorem byte_of_drop (h : S.data.toList.drop i = b :: r) :
    ∃ hi : i < S.size, S[i] = b ∧ S.data.toList.drop (i + 1) = r := by
  have hb : S.data.toList[i]? = some b := by rw [← List.head?_drop, h]; rfl
  obtain ⟨hl, he⟩ := List.getElem?_eq_some_iff.1 hb
  refine ⟨by simpa using hl, ?_, ?_⟩
  · rw [ByteArray.getElem_eq_getElem_data]; simpa using he
  · rw [← List.tail_drop, h]; rfl

theorem byteAt?_of_drop (h : S.data.toList.drop i = b :: r) : byteAt? S i = some b := by
  obtain ⟨hi, hb, -⟩ := byte_of_drop h
  simp [byteAt?, hi, hb]

theorem drop_advance {xs : List UInt8} (h : S.data.toList.drop i = xs ++ r) :
    S.data.toList.drop (i + xs.length) = r := by
  rw [← List.drop_drop, h, List.drop_left]

theorem drop_at (xs : List UInt8) {j : Nat} (h : S.data.toList.drop i = xs ++ r)
    (hj : j = i + xs.length) : S.data.toList.drop j = r := by
  rw [hj]; exact drop_advance h

theorem skipBlank_of_drop (h : S.data.toList.drop i = b :: r)
    (nb : b ≠ 32 ∧ b ≠ 10 ∧ b ≠ 9 ∧ b ≠ 13) : skipBlank S i = i := by
  obtain ⟨hi, hb, -⟩ := byte_of_drop h
  rw [skipBlank, dif_pos hi]
  simp [hb, nb]

theorem skipBlank_of_drop_nil (h : S.data.toList.drop i = []) : skipBlank S i = i := by
  have : ¬i < S.size := by simpa using h
  rw [skipBlank, dif_neg this]

end Cursor

/-! ### Strings -/

/-- A byte that a string body holds as itself: no quote, no backslash, no control byte. -/
def Plain (b : UInt8) : Prop := b ≠ 34 ∧ b ≠ 92 ∧ 32 ≤ b

theorem plain_of_high {b : UInt8} (h : 128 ≤ b.toNat) : Plain b := by
  refine ⟨?_, ?_, ?_⟩
  · rintro rfl; simp at h
  · rintro rfl; simp at h
  · rw [UInt8.le_iff_toNat_le]; simp; omega

theorem high_of_or {x y : UInt8} (h : 128 ≤ y.toNat) : Plain (x ||| y) := by
  apply plain_of_high
  rw [UInt8.toNat_or]
  exact Nat.le_trans h Nat.right_le_or

theorem plain_of_toNat {b : UInt8} {c : Char} (hv : b.toNat = c.toNat) (h32 : 32 ≤ c.toNat)
    (hq : c ≠ '"') (hb : c ≠ '\\') : Plain b := by
  refine ⟨fun e => hq (Char.toNat_inj.1 ?_), fun e => hb (Char.toNat_inj.1 ?_), ?_⟩
  · rw [← hv, e]; rfl
  · rw [← hv, e]; rfl
  · rw [UInt8.le_iff_toNat_le, hv]; simpa using h32

theorem plain_utf8EncodeChar {c : Char} (h32 : 32 ≤ c.toNat) (hq : c ≠ '"') (hb : c ≠ '\\') :
    ∀ b ∈ String.utf8EncodeChar c, Plain b := by
  rcases Char.utf8Size_eq c with h | h | h | h
  · rw [String.utf8EncodeChar_eq_singleton h]
    have small : c.toNat < 128 := by
      have := Char.utf8Size_eq_one_iff.1 h
      rw [UInt32.le_iff_toNat_le, Char.toNat_val] at this
      simp at this
      omega
    have hv : c.val.toUInt8.toNat = c.toNat := by
      rw [UInt32.toNat_toUInt8, Char.toNat_val]; omega
    simpa using plain_of_toNat hv h32 hq hb
  · rw [String.utf8EncodeChar_eq_cons_cons h]
    simp only [List.mem_cons, List.not_mem_nil, or_false, forall_eq_or_imp, forall_eq]
    exact ⟨high_of_or (by decide), high_of_or (by decide)⟩
  · rw [String.utf8EncodeChar_eq_cons_cons_cons h]
    simp only [List.mem_cons, List.not_mem_nil, or_false, forall_eq_or_imp, forall_eq]
    exact ⟨high_of_or (by decide), high_of_or (by decide), high_of_or (by decide)⟩
  · rw [String.utf8EncodeChar_eq_cons_cons_cons_cons h]
    simp only [List.mem_cons, List.not_mem_nil, or_false, forall_eq_or_imp, forall_eq]
    exact ⟨high_of_or (by decide), high_of_or (by decide), high_of_or (by decide),
      high_of_or (by decide)⟩

section Body

variable {S : ByteArray} {i : Nat} {acc : Array UInt8} {r : List UInt8}

theorem readStrBytes_plain {xs : List UInt8} (plain : ∀ b ∈ xs, Plain b)
    (h : S.data.toList.drop i = xs ++ r) :
    readStrBytes S i acc = readStrBytes S (i + xs.length) (acc ++ xs.toArray) := by
  induction xs generalizing i acc with
  | nil => simp
  | cons b xs ih =>
    obtain ⟨hi, hb, rest⟩ := byte_of_drop h
    obtain ⟨h34, h92, h32⟩ := plain b List.mem_cons_self
    have hc : ¬b < 32 := by
      rw [UInt8.lt_iff_toNat_lt]; rw [UInt8.le_iff_toNat_le] at h32; simp at h32 ⊢; omega
    rw [readStrBytes, dif_pos hi]
    simp only [hb, beq_iff_eq, h34, h92, hc, if_false]
    rw [ih (fun c hc => plain c (List.mem_cons_of_mem _ hc)) rest]
    simp [Nat.add_assoc, Nat.add_comm 1]

theorem readStrBytes_escape {out : List UInt8} {j : Nat} (h : S.data.toList.drop i = 92 :: r)
    (he : readEscape S (i + 1) = .ok (out, j)) (hj : i < j) :
    readStrBytes S i acc = readStrBytes S j (acc ++ out.toArray) := by
  obtain ⟨hi, hb, -⟩ := byte_of_drop h
  rw [readStrBytes, dif_pos hi]
  simp only [hb, he]
  simp [hj]

end Body

/-- The bytes the writer puts in a string body for one character. -/
def escapedBytes (c : Char) : List UInt8 := (escapeChar c).toList.flatMap String.utf8EncodeChar

def hexByte (d : Nat) : UInt8 := (hexDigit d).toNat.toUInt8

theorem hexDigit_bytes : ∀ d, d < 16 →
    String.utf8EncodeChar (hexDigit d) = [hexByte d] ∧ hexValue? (hexByte d) = some d := by
  decide

theorem escapedBytes_control {c : Char} (hc : c.toNat < 32) (h8 : c.toNat ≠ 8) (h9 : c.toNat ≠ 9)
    (h10 : c.toNat ≠ 10) (h12 : c.toNat ≠ 12) (h13 : c.toNat ≠ 13) :
    escapedBytes c = [92, 117, 48, 48, hexByte (c.toNat / 16), hexByte (c.toNat % 16)] := by
  have hq : c ≠ '"' := by rintro rfl; simp at hc
  have hb : c ≠ '\\' := by rintro rfl; simp at hc
  have d1 := hexDigit_bytes (c.toNat / 16) (by omega)
  have d2 := hexDigit_bytes (c.toNat % 16) (by omega)
  unfold escapedBytes escapeChar
  rw [if_neg hq, if_neg hb, if_pos hc]
  split
  all_goals first | omega | skip
  simp [d1.1, d2.1]
  rfl

theorem escapedBytes_plain {c : Char} (hq : c ≠ '"') (hb : c ≠ '\\') (hc : ¬c.toNat < 32) :
    escapedBytes c = String.utf8EncodeChar c := by
  simp [escapedBytes, escapeChar, hq, hb, hc]

section Body

variable {S : ByteArray} {i : Nat} {acc : Array UInt8} {r : List UInt8}

theorem readEscape_control {c : Char} (hc : c.toNat < 32) {r : List UInt8}
    (h : S.data.toList.drop i = [117, 48, 48, hexByte (c.toNat / 16), hexByte (c.toNat % 16)] ++ r) :
    readEscape S i = .ok (String.utf8EncodeChar c, i + 5) := by
  have d1 := hexDigit_bytes (c.toNat / 16) (by omega)
  have d2 := hexDigit_bytes (c.toNat % 16) (by omega)
  obtain ⟨-, -, h1⟩ := byte_of_drop h
  obtain ⟨-, -, h2⟩ := byte_of_drop h1
  obtain ⟨-, -, h3⟩ := byte_of_drop h2
  obtain ⟨-, -, h4⟩ := byte_of_drop h3
  have size : ¬i + 1 + 4 > S.size := by
    have := congrArg List.length h
    simp at this
    omega
  have value : c.toNat / 16 * 16 + c.toNat % 16 = c.toNat := by omega
  have bytes : utf8Bytes c.toNat = String.utf8EncodeChar c := by
    rw [utf8Bytes, Char.ofNat_toNat, String.toUTF8_eq_toByteArray, Digest.toList_eq_data_toList,
      bytes_toByteArray]
    simp
  simp only [readEscape, byteAt?_of_drop h, readUnicodeEscape, readHex4, if_neg size, List.map,
    byteAt?_of_drop h1, byteAt?_of_drop h2, byteAt?_of_drop h3, byteAt?_of_drop h4, Option.bind,
    d1.2, d2.2]
  have low : ¬(56320 ≤ c.toNat ∧ c.toNat ≤ 57343) := by omega
  have single : c.toNat < 55296 ∨ 56319 < c.toNat := .inl (by omega)
  simp [hexValue?, value, bytes, bind, Except.bind, pure, Except.pure, low, single]

theorem readStrBytes_escapeChar (c : Char) (h : S.data.toList.drop i = escapedBytes c ++ r) :
    readStrBytes S i acc =
      readStrBytes S (i + (escapedBytes c).length) (acc ++ (String.utf8EncodeChar c).toArray) := by
  have pair : ∀ {e : UInt8}, escapedBytes c = [92, e] →
      readEscape S (i + 1) = .ok (String.utf8EncodeChar c, i + 2) →
      readStrBytes S i acc =
        readStrBytes S (i + (escapedBytes c).length) (acc ++ (String.utf8EncodeChar c).toArray) := by
    intro e he read
    rw [he] at h
    rw [he, readStrBytes_escape h read (by omega)]
    rfl
  have letter : ∀ {e : UInt8}, escapedBytes c = [92, e] → byteAt? S (i + 1) = some e := by
    intro e he
    rw [he] at h
    exact byteAt?_of_drop (byte_of_drop h).2.2
  by_cases hq : c = '"'
  · subst hq; exact pair rfl (by simp [readEscape, letter rfl]; rfl)
  by_cases hb : c = '\\'
  · subst hb; exact pair rfl (by simp [readEscape, letter rfl]; rfl)
  by_cases hc : c.toNat < 32
  · by_cases h8 : c.toNat = 8
    · obtain rfl : c = '\x08' := Char.toNat_inj.1 h8
      exact pair rfl (by simp [readEscape, letter rfl]; rfl)
    by_cases h9 : c.toNat = 9
    · obtain rfl : c = '\t' := Char.toNat_inj.1 h9
      exact pair rfl (by simp [readEscape, letter rfl]; rfl)
    by_cases h10 : c.toNat = 10
    · obtain rfl : c = '\n' := Char.toNat_inj.1 h10
      exact pair rfl (by simp [readEscape, letter rfl]; rfl)
    by_cases h12 : c.toNat = 12
    · obtain rfl : c = '\x0c' := Char.toNat_inj.1 h12
      exact pair rfl (by simp [readEscape, letter rfl]; rfl)
    by_cases h13 : c.toNat = 13
    · obtain rfl : c = '\r' := Char.toNat_inj.1 h13
      exact pair rfl (by simp [readEscape, letter rfl]; rfl)
    -- every other control character is written as a `\\u` escape
    have hesc := escapedBytes_control hc h8 h9 h10 h12 h13
    rw [hesc] at h
    rw [hesc, readStrBytes_escape h (readEscape_control hc (byte_of_drop h).2.2) (by omega)]
    rfl
  · rw [escapedBytes_plain hq hb hc] at h ⊢
    exact readStrBytes_plain (plain_utf8EncodeChar (by omega) hq hb) h

theorem readStrBytes_written (cs : List Char)
    (h : S.data.toList.drop i = cs.flatMap escapedBytes ++ 34 :: r) :
    readStrBytes S i acc =
      .ok (acc ++ (cs.flatMap String.utf8EncodeChar).toArray, i + (cs.flatMap escapedBytes).length + 1) := by
  induction cs generalizing i acc with
  | nil =>
    obtain ⟨hi, hb, -⟩ := byte_of_drop h
    rw [readStrBytes, dif_pos hi]
    simp [hb]
  | cons c cs ih =>
    rw [List.flatMap_cons, List.append_assoc] at h
    rw [readStrBytes_escapeChar c h, ih (drop_advance h)]
    simp [Nat.add_assoc, Array.append_assoc]

theorem readStr_written (t : String)
    (h : S.data.toList.drop i = t.toList.flatMap escapedBytes ++ 34 :: r) :
    readStr S i = .ok (t, i + (t.toList.flatMap escapedBytes).length + 1) := by
  have bytes : (⟨#[] ++ (t.toList.flatMap String.utf8EncodeChar).toArray⟩ : ByteArray) = t.toByteArray := by
    rw [← bytes_toByteArray]
    simp
  have valid : String.fromUTF8? t.toByteArray = some t := by
    simp [String.fromUTF8?, t.isValidUTF8]
    rfl
  simp only [readStr, readStrBytes_written t.toList h, bind, Except.bind, bytes, valid]
  rfl

end Body

/-! ### Records of text fields -/

def quotedBytes (t : String) : List UInt8 := 34 :: (t.toList.flatMap escapedBytes ++ [34])

def memberBytes (m : String × String) : List UInt8 := quotedBytes m.1 ++ 58 :: quotedBytes m.2

theorem quote_bytes (t : String) : (quote t).toByteArray.data.toList = quotedBytes t := by
  have q : String.utf8EncodeChar '"' = [34] := rfl
  simp [bytes_toByteArray, quote, quotedBytes, String.toList_join, List.flatMap_assoc,
    List.flatMap_map, q]
  rfl

def textMembers (ms : List (String × String)) : List (String × Value) := ms.map fun m => (m.1, .str m.2)

theorem renderMembers_bytes (m : String × String) (ms : List (String × String)) :
    (renderMembers (textMembers (m :: ms))).toByteArray.data.toList =
      memberBytes m ++ ms.flatMap (44 :: memberBytes ·) := by
  induction ms generalizing m with
  | nil =>
    have c : String.utf8EncodeChar ':' = [58] := rfl
    simp only [textMembers, List.map, renderMembers, Value.render, String.toByteArray_append,
      ByteArray.data_append, Array.toList_append, quote_bytes, memberBytes]
    simp [bytes_toByteArray, c]
  | cons m' ms ih =>
    have c : String.utf8EncodeChar ':' = [58] := rfl
    have comma : String.utf8EncodeChar ',' = [44] := rfl
    have rest := ih m'
    simp only [textMembers, List.map] at rest
    simp only [textMembers, List.map, renderMembers, Value.render, String.toByteArray_append,
      ByteArray.data_append, Array.toList_append, quote_bytes, memberBytes, rest]
    simp [bytes_toByteArray, c, comma]

section Reading

variable {S : ByteArray} {i : Nat} {r : List UInt8}

theorem quotedBytes_append (t : String) (r : List UInt8) :
    quotedBytes t ++ r = 34 :: (t.toList.flatMap escapedBytes ++ 34 :: r) := by
  simp [quotedBytes]

theorem length_quotedBytes (t : String) :
    (quotedBytes t).length = (t.toList.flatMap escapedBytes).length + 2 := by
  simp [quotedBytes]

theorem readStr_quoted {t : String} (h : S.data.toList.drop i = quotedBytes t ++ r) :
    readStr S (i + 1) = .ok (t, i + (quotedBytes t).length) := by
  rw [quotedBytes_append] at h
  rw [readStr_written t (byte_of_drop h).2.2, length_quotedBytes]
  congr 2
  omega

theorem readTextAs_quoted {t : String} {expected : String} {convert : String → Except String Value}
    {v : Value} (h : S.data.toList.drop i = quotedBytes t ++ r) (hc : convert t = .ok v) :
    readTextAs S i expected convert = .ok (v, i + (quotedBytes t).length) := by
  rw [quotedBytes_append] at h
  have start := byteAt?_of_drop h
  rw [← quotedBytes_append] at h
  simp [readTextAs, skipBlank_of_drop (by rw [h, quotedBytes_append]) (by decide), start,
    readStr_quoted h, hc]

theorem nextKey_first {k : String} (h : S.data.toList.drop i = quotedBytes k ++ r) :
    nextKey S i true = .ok (some k, i + (quotedBytes k).length) := by
  rw [quotedBytes_append] at h
  have start := byteAt?_of_drop h
  rw [← quotedBytes_append] at h
  simp [nextKey, skipBlank_of_drop (by rw [h, quotedBytes_append]) (by decide), start,
    readStr_quoted h]

theorem nextKey_comma {k : String} (h : S.data.toList.drop i = 44 :: (quotedBytes k ++ r)) :
    nextKey S i false = .ok (some k, i + 1 + (quotedBytes k).length) := by
  obtain ⟨-, -, after⟩ := byte_of_drop h
  have key := after
  rw [quotedBytes_append] at key
  simp [nextKey, skipBlank_of_drop h (by decide), byteAt?_of_drop h,
    skipBlank_of_drop key (by decide), byteAt?_of_drop key, readStr_quoted after]

theorem nextKey_close (h : S.data.toList.drop i = 125 :: r) (first : Bool) :
    nextKey S i first = .ok (none, i) := by
  simp [nextKey, skipBlank_of_drop h (by decide), byteAt?_of_drop h]

theorem objectColon_of_drop (h : S.data.toList.drop i = 58 :: r) : objectColon S i = .ok (i + 1) := by
  simp [objectColon, skipBlank_of_drop h (by decide), byteAt?_of_drop h]

variable {fields : List (String × Shape × Option Value)} {found : List (String × Value)}
  {depth f : Nat}

theorem decodeFieldsMap_member {first : Bool} {k : String} {j : Nat} {m : String × String}
    {d : Option Value} (hk : nextKey S i first = .ok (some m.1, j))
    (hf : fields.find? (·.1 == m.1) = some (k, .text, d)) (fresh : found.any (·.1 == m.1) = false)
    (h : S.data.toList.drop j = 58 :: (quotedBytes m.2 ++ r)) :
    decodeFieldsMap S (f + 2) depth fields i first found =
      decodeFieldsMap S (f + 1) depth fields (j + 1 + (quotedBytes m.2).length) false
        ((m.1, .str m.2) :: found) := by
  have value : decodeAt S (f + 1) depth .text (j + 1) =
      .ok (.str m.2, j + 1 + (quotedBytes m.2).length) := by
    simp only [decodeAt]
    exact readTextAs_quoted (byte_of_drop h).2.2 rfl
  simp [decodeFieldsMap, hk, hf, fresh, objectColon_of_drop h, value]

theorem decodeFieldsMap_close {ms : List (String × Value)} (h : S.data.toList.drop i = 125 :: r)
    (finish : finishFields found fields = .ok ms) :
    decodeFieldsMap S (f + 1) depth fields i false found = .ok (.obj ms, i) := by
  simp [decodeFieldsMap, nextKey_close h, finish]

theorem decodeFieldsMap_rest (ms : List (String × String)) {ms' : List (String × Value)}
    (h : S.data.toList.drop i = ms.flatMap (44 :: memberBytes ·) ++ 125 :: r)
    (text : ∀ m ∈ ms, ∃ k d, fields.find? (·.1 == m.1) = some (k, .text, d))
    (fresh : ∀ m ∈ ms, found.any (·.1 == m.1) = false) (distinct : (ms.map (·.1)).Nodup)
    (finish : finishFields ((textMembers ms).reverse ++ found) fields = .ok ms') :
    decodeFieldsMap S (f + ms.length + 1) depth fields i false found =
      .ok (.obj ms', i + (ms.flatMap (44 :: memberBytes ·)).length) := by
  induction ms generalizing i found with
  | nil => simpa using decodeFieldsMap_close h (by simpa [textMembers] using finish)
  | cons m ms ih =>
    obtain ⟨k, d, hf⟩ := text m List.mem_cons_self
    rw [List.flatMap_cons, List.append_assoc] at h
    have hm : S.data.toList.drop i =
        44 :: quotedBytes m.1 ++ 58 :: (quotedBytes m.2 ++ (ms.flatMap (44 :: memberBytes ·) ++ 125 :: r)) := by
      rw [h, memberBytes]; simp
    have colon := drop_at (44 :: quotedBytes m.1) hm (j := i + 1 + (quotedBytes m.1).length)
      (by simp; omega)
    have step : decodeFieldsMap S (f + ms.length + 2) depth fields i false found = _ :=
      decodeFieldsMap_member (nextKey_comma (by simpa using hm)) hf (fresh m List.mem_cons_self) colon
    rw [show f + (m :: ms).length + 1 = f + ms.length + 2 by simp; omega, step]
    have next := drop_at _ h (j := i + 1 + (quotedBytes m.1).length + 1 + (quotedBytes m.2).length)
      (by simp [memberBytes]; omega)
    obtain ⟨notHere, distinct'⟩ := List.nodup_cons.1 distinct
    have fresh' : ∀ m' ∈ ms, ((m.1, Value.str m.2) :: found).any (·.1 == m'.1) = false := by
      intro m' hm'
      have ne : m.1 ≠ m'.1 := by
        rintro e
        exact notHere (by rw [show (fun x : String × String => x.1) m = m'.1 from e]; exact List.mem_map_of_mem hm')
      simp [fresh m' (List.mem_cons_of_mem _ hm'), ne]
    rw [ih next (fun m' hm' => text m' (List.mem_cons_of_mem _ hm')) fresh' distinct'
      (by simpa [textMembers] using finish)]
    simp [memberBytes]
    omega

theorem decodeAt_record {name : String} (h : S.data.toList.drop i = 123 :: r) (deep : 1 < depth) :
    decodeAt S (f + 1) depth (.record name fields) i =
      closeWith S endObject (decodeFieldsMap S f (depth - 1) fields (i + 1) true []) := by
  simp [decodeAt, skipBlank_of_drop h (by decide), byteAt?_of_drop h, Nat.not_le.2 deep]

theorem closeWith_endObject {v : Value} {j : Nat} (h : S.data.toList.drop j = 125 :: r) :
    closeWith S endObject (.ok (v, j)) = .ok (v, j + 1) := by
  simp [closeWith, endObject, skipBlank_of_drop h (by decide), byteAt?_of_drop h]

end Reading

theorem find?_textMembers_reverse {ms : List (String × String)} (distinct : (ms.map (·.1)).Nodup)
    {m : String × String} (hm : m ∈ ms) :
    ((textMembers ms).reverse.find? (·.1 == m.1)).map (·.2) = some (.str m.2) := by
  have mem : (m.1, Value.str m.2) ∈ (textMembers ms).reverse := by
    simpa [textMembers] using List.mem_map_of_mem (f := fun m : String × String => (m.1, Value.str m.2)) hm
  obtain ⟨e, he⟩ := Option.isSome_iff_exists.1
    (List.find?_isSome.2 ⟨_, mem, by simp⟩ : ((textMembers ms).reverse.find? (·.1 == m.1)).isSome)
  have key : e.1 = m.1 := by simpa using List.find?_some he
  obtain ⟨m', hm', rfl⟩ : ∃ m' ∈ ms, (m'.1, Value.str m'.2) = e := by
    simpa [textMembers] using List.mem_of_find?_eq_some he
  have same : m' = m := List.inj_on_of_nodup_map distinct hm' hm key
  simp [he, same]

theorem finishFields_textMembers (found : List (String × Value)) :
    ∀ (fs : List (String × Shape × Option Value)) (ms : List (String × String)),
      fs.map (·.1) = ms.map (·.1) →
      (∀ m ∈ ms, (found.find? (·.1 == m.1)).map (·.2) = some (.str m.2)) →
      finishFields found fs = .ok (textMembers ms)
  | [], [], _, _ => rfl
  | [], _ :: _, keys, _ => by simp at keys
  | _ :: _, [], keys, _ => by simp at keys
  | (name, sh, dflt) :: fs, m :: ms, keys, hv => by
    obtain ⟨hname, keys'⟩ : name = m.1 ∧ fs.map (·.1) = ms.map (·.1) := by simpa using keys
    have rest := finishFields_textMembers found fs ms keys' fun m' hm' => hv m' (List.mem_cons_of_mem _ hm')
    have here := hv m List.mem_cons_self
    subst hname
    simp [finishFields, here, rest, textMembers]

theorem length_le_flatMap_members (ms : List (String × String)) :
    ms.length ≤ (ms.flatMap (44 :: memberBytes ·)).length := by
  induction ms with
  | nil => simp
  | cons m ms ih =>
    rw [List.flatMap_cons, List.length_append, List.length_cons, List.length_cons]
    omega

section Object

variable {S : ByteArray} {i depth F : Nat} {r : List UInt8} {name : String}
  {fields : List (String × Shape × Option Value)} {m : String × String} {ms : List (String × String)}

theorem decodeAt_textObject
    (h : S.data.toList.drop i = 123 :: (memberBytes m ++ (ms.flatMap (44 :: memberBytes ·) ++ 125 :: r)))
    (deep : 1 < depth) (keys : fields.map (·.1) = (m :: ms).map (·.1))
    (text : ∀ fd ∈ fields, fd.2.1 = .text) (distinct : ((m :: ms).map (·.1)).Nodup) :
    decodeAt S (F + ms.length + 3) depth (.record name fields) i =
      .ok (.obj (textMembers (m :: ms)),
        i + 1 + (memberBytes m).length + (ms.flatMap (44 :: memberBytes ·)).length + 1) := by
  have textField : ∀ m' ∈ m :: ms, ∃ k d, fields.find? (·.1 == m'.1) = some (k, .text, d) := by
    intro m' hm'
    have : m'.1 ∈ fields.map (·.1) := keys ▸ List.mem_map_of_mem hm'
    obtain ⟨fd, hfd, hk⟩ := List.mem_map.1 this
    obtain ⟨e, he⟩ := Option.isSome_iff_exists.1
      (List.find?_isSome.2 ⟨fd, hfd, by simp [hk]⟩ : (fields.find? (·.1 == m'.1)).isSome)
    exact ⟨e.1, e.2.2, by rw [he, ← text e (List.mem_of_find?_eq_some he)]⟩
  obtain ⟨k, d, hf⟩ := textField m List.mem_cons_self
  obtain ⟨notHere, distinct'⟩ := List.nodup_cons.1 distinct
  rw [memberBytes, List.append_assoc, List.cons_append] at h
  have atKey := (byte_of_drop h).2.2
  have colon := drop_advance atKey
  have first : decodeFieldsMap S (F + ms.length + 2) (depth - 1) fields (i + 1) true [] = _ :=
    decodeFieldsMap_member (nextKey_first atKey) hf (by simp) colon
  have rest := drop_at (58 :: quotedBytes m.2) colon
    (j := i + 1 + (quotedBytes m.1).length + 1 + (quotedBytes m.2).length) (by simp; omega)
  have fresh : ∀ m' ∈ ms, [(m.1, Value.str m.2)].any (·.1 == m'.1) = false := by
    intro m' hm'
    have ne : m.1 ≠ m'.1 := by
      rintro e
      exact notHere (by rw [show (fun x : String × String => x.1) m = m'.1 from e]; exact List.mem_map_of_mem hm')
    simp [ne]
  have finish : finishFields ((textMembers ms).reverse ++ [(m.1, .str m.2)]) fields =
      .ok (textMembers (m :: ms)) :=
    finishFields_textMembers _ fields (m :: ms) keys fun m' hm' => by
      simpa [textMembers] using find?_textMembers_reverse distinct hm'
  have members : decodeFieldsMap S (F + ms.length + 1) (depth - 1) fields _ false _ = _ :=
    decodeFieldsMap_rest ms rest (fun m' hm' => textField m' (List.mem_cons_of_mem _ hm')) fresh
      distinct' finish
  have closing := drop_advance rest
  rw [show F + ms.length + 3 = (F + ms.length + 2) + 1 by omega, decodeAt_record h deep, first,
    members, closeWith_endObject closing, memberBytes]
  simp
  omega

end Object

theorem decodeText_textRecord (name : String) (fields : List (String × Shape × Option Value))
    (m : String × String) (ms : List (String × String))
    (keys : fields.map (·.1) = (m :: ms).map (·.1)) (text : ∀ fd ∈ fields, fd.2.1 = .text)
    (distinct : ((m :: ms).map (·.1)).Nodup) :
    decodeText (.record name fields) (Value.obj (textMembers (m :: ms))).render.toByteArray =
      .ok (.obj (textMembers (m :: ms))) := by
  obtain ⟨S, hS⟩ : ∃ S, S = (Value.obj (textMembers (m :: ms))).render.toByteArray := ⟨_, rfl⟩
  rw [← hS]
  have bytes : S.data.toList = 123 :: (memberBytes m ++ (ms.flatMap (44 :: memberBytes ·) ++ [125])) := by
    have brace : String.utf8EncodeChar '\x7b' = [123] := rfl
    have close : String.utf8EncodeChar '\x7d' = [125] := rfl
    rw [hS, Value.render, String.toByteArray_append, String.toByteArray_append, ByteArray.data_append,
      ByteArray.data_append, Array.toList_append, Array.toList_append, renderMembers_bytes,
      bytes_toByteArray, bytes_toByteArray]
    simp [brace, close]
  have size : S.size = (memberBytes m).length + (ms.flatMap (44 :: memberBytes ·)).length + 2 := by
    rw [show S.size = S.data.toList.length by rw [Array.length_toList]; rfl, bytes]
    simp
    omega
  have count := length_le_flatMap_members ms
  have read : decodeAt S (4 * S.size + 61 - ms.length + ms.length + 3) 128 (.record name fields) 0 = _ :=
    decodeAt_textObject (by rw [List.drop_zero, bytes]) (by decide) keys text distinct
  rw [show 4 * S.size + 61 - ms.length + ms.length + 3 = 4 * S.size + 64 by omega] at read
  have ended : S.data.toList.drop S.size = [] := by
    rw [List.drop_eq_nil_iff, Array.length_toList]; exact Nat.le_refl _
  rw [decodeText, read, show 0 + 1 + (memberBytes m).length + (ms.flatMap (44 :: memberBytes ·)).length + 1 =
    S.size by omega]
  simp [skipBlank_of_drop_nil ended]

end Fulfilment.Json
