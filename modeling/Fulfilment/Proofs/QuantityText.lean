import Fulfilment.Order.Wire
import Fulfilment.Proofs.JsonText

/-!
Quantities read from text and from JSON, against `DecimalLiteral`: the integer reader stops at the
first digit that leaves its range, which is the same as reading the whole literal, because a
partial value never moves back towards zero.
-/

namespace Fulfilment.Text

theorem isDigit_iff {c : Char} : c.isDigit = true ↔ 48 ≤ c.toNat ∧ c.toNat ≤ 57 := by
  simp only [Char.isDigit, ge_iff_le, UInt32.le_iff_toNat_le, Char.toNat_val,
    Bool.and_eq_true, decide_eq_true_eq]
  exact Iff.rfl

theorem le_ofDigitChars (l : List Char) (init : Nat) : init ≤ Nat.ofDigitChars 10 l init := by
  rw [Nat.ofDigitChars_eq_ofDigitChars_zero]
  exact Nat.le_add_right_of_le (Nat.le_mul_of_pos_left init (Nat.pow_pos (by omega)))

def IsDigits (ds : List Char) : Prop := ds ≠ [] ∧ ∀ c ∈ ds, c.isDigit = true

/-- The decimal literals and their values: an optional `+` or `-`, then one or more ASCII
digits, read in base ten. -/
inductive DecimalLiteral : List Char → Int → Prop
  | unsigned {ds : List Char} : IsDigits ds → DecimalLiteral ds (Nat.ofDigitChars 10 ds 0)
  | plus {ds : List Char} : IsDigits ds → DecimalLiteral ('+' :: ds) (Nat.ofDigitChars 10 ds 0)
  | minus {ds : List Char} : IsDigits ds → DecimalLiteral ('-' :: ds) (-(Nat.ofDigitChars 10 ds 0 : Int))


theorem not_decimalLiteral_nil (v : Int) : ¬DecimalLiteral [] v := by
  intro h
  cases h with
  | unsigned hd => exact hd.1 rfl

theorem decimalLiteral_plus_iff {ds : List Char} {v : Int} :
    DecimalLiteral ('+' :: ds) v ↔ IsDigits ds ∧ v = Nat.ofDigitChars 10 ds 0 := by
  constructor
  · intro h
    generalize hcs : '+' :: ds = cs at h
    cases h with
    | unsigned hd =>
      subst hcs
      exact absurd (hd.2 '+' List.mem_cons_self) (by decide)
    | plus hd =>
      cases hcs
      exact ⟨hd, rfl⟩
    | minus hd => exact absurd (List.cons.inj hcs).1 (by decide)
  · rintro ⟨hd, rfl⟩
    exact .plus hd

theorem decimalLiteral_minus_iff {ds : List Char} {v : Int} :
    DecimalLiteral ('-' :: ds) v ↔ IsDigits ds ∧ v = -(Nat.ofDigitChars 10 ds 0 : Int) := by
  constructor
  · intro h
    generalize hcs : '-' :: ds = cs at h
    cases h with
    | unsigned hd =>
      subst hcs
      exact absurd (hd.2 '-' List.mem_cons_self) (by decide)
    | plus hd => exact absurd (List.cons.inj hcs).1 (by decide)
    | minus hd =>
      cases hcs
      exact ⟨hd, rfl⟩
  · rintro ⟨hd, rfl⟩
    exact .minus hd

theorem decimalLiteral_unsigned_iff {c : Char} {cs : List Char} {v : Int} (plus : c ≠ '+')
    (minus : c ≠ '-') :
    DecimalLiteral (c :: cs) v ↔ IsDigits (c :: cs) ∧ v = Nat.ofDigitChars 10 (c :: cs) 0 := by
  constructor
  · intro h
    cases h with
    | unsigned hd => exact ⟨hd, rfl⟩
    | plus => exact absurd rfl plus
    | minus => exact absurd rfl minus
  · rintro ⟨hd, rfl⟩
    exact .unsigned hd

section Reading

variable {lo hi : Int}

theorem readDigits_up (hlo : lo ≤ 0) {ds : List Char} (hd : ∀ c ∈ ds, c.isDigit = true)
    (acc : Nat) (hacc : (acc : Int) ≤ hi) :
    readDigits lo hi false ds acc =
      if (Nat.ofDigitChars 10 ds acc : Int) ≤ hi then .ok (Nat.ofDigitChars 10 ds acc)
      else .error .posOverflow := by
  induction ds generalizing acc with
  | nil => simp [readDigits, hacc]
  | cons c cs ih =>
    obtain ⟨digit, rest⟩ := List.forall_mem_cons.1 hd
    have hc := isDigit_iff.1 digit
    have grow := le_ofDigitChars cs (10 * acc + (c.toNat - 48))
    rw [Nat.ofDigitChars_cons]
    simp only [readDigits, digit, Bool.not_true, Bool.false_eq_true, if_false]
    by_cases past : (acc : Int) * 10 + ((c.toNat : Int) - 48) > hi
    · rw [if_pos past, if_neg (by simp; omega)]
    · rw [if_neg past, if_neg (by omega)]
      have := ih rest (10 * acc + (c.toNat - 48)) (by omega)
      rw [show (acc : Int) * 10 + ((c.toNat : Int) - 48) =
          ((10 * acc + (c.toNat - 48) : Nat) : Int) by
        omega]
      exact this


theorem readDigits_down (hhi : 0 ≤ hi) {ds : List Char} (hd : ∀ c ∈ ds, c.isDigit = true)
    (acc : Nat) (hacc : lo ≤ -(acc : Int)) :
    readDigits lo hi true ds (-(acc : Int)) =
      if lo ≤ -(Nat.ofDigitChars 10 ds acc : Int) then .ok (-(Nat.ofDigitChars 10 ds acc : Int))
      else .error .negOverflow := by
  induction ds generalizing acc with
  | nil => simp [readDigits, hacc]
  | cons c cs ih =>
    obtain ⟨digit, rest⟩ := List.forall_mem_cons.1 hd
    have hc := isDigit_iff.1 digit
    have grow := le_ofDigitChars cs (10 * acc + (c.toNat - 48))
    rw [Nat.ofDigitChars_cons]
    simp only [readDigits, digit, Bool.not_true, Bool.false_eq_true, if_false, if_true]
    rw [if_neg (by omega)]
    by_cases under : -(acc : Int) * 10 - ((c.toNat : Int) - 48) < lo
    · rw [if_pos under, if_neg (by simp; omega)]
    · rw [if_neg under]
      have := ih rest (10 * acc + (c.toNat - 48)) (by omega)
      rw [show -(acc : Int) * 10 - ((c.toNat : Int) - 48) =
          -((10 * acc + (c.toNat - 48) : Nat) : Int) by
        omega]
      exact this

theorem readDigits_cons_ok {negative : Bool} {c : Char} {cs : List Char} {acc v : Int}
    (h : readDigits lo hi negative (c :: cs) acc = .ok v) :
    c.isDigit = true ∧ ∃ next, readDigits lo hi negative cs next = .ok v := by
  rw [readDigits] at h
  by_cases hc : c.isDigit = true
  · simp only [hc, Bool.not_true, Bool.false_eq_true, if_false] at h
    generalize (if negative = true then _ else _) = next at h
    refine ⟨hc, next, ?_⟩
    split at h
    · cases h
    · split at h
      · cases h
      · exact h
  · simp [hc] at h

theorem isDigit_of_readDigits {negative : Bool} {ds : List Char} {acc v : Int}
    (h : readDigits lo hi negative ds acc = .ok v) : ∀ c ∈ ds, c.isDigit = true := by
  induction ds generalizing acc with
  | nil => simp
  | cons c cs ih =>
    obtain ⟨hc, next, rest⟩ := readDigits_cons_ok h
    intro x hx
    rcases List.mem_cons.1 hx with rfl | hx
    · exact hc
    · exact ih rest x hx

theorem readDigits_up_eq_ok_iff (hlo : lo ≤ 0) (hhi : 0 ≤ hi) {ds : List Char} {v : Int} :
    readDigits lo hi false ds 0 = .ok v ↔
      (∀ c ∈ ds, c.isDigit = true) ∧ v = Nat.ofDigitChars 10 ds 0 ∧ v ≤ hi := by
  constructor
  · intro h
    have hd := isDigit_of_readDigits h
    have eq := readDigits_up hlo hd 0 (by simpa using hhi)
    simp only [Int.natCast_zero] at eq
    rw [eq] at h
    split at h
    · cases h
      exact ⟨hd, rfl, by assumption⟩
    · cases h
  · rintro ⟨hd, rfl, hv⟩
    have eq := readDigits_up hlo hd 0 (by simpa using hhi)
    simp only [Int.natCast_zero] at eq
    rw [eq, if_pos hv]

theorem readDigits_down_eq_ok_iff (hlo : lo ≤ 0) (hhi : 0 ≤ hi) {ds : List Char} {v : Int} :
    readDigits lo hi true ds 0 = .ok v ↔
      (∀ c ∈ ds, c.isDigit = true) ∧ v = -(Nat.ofDigitChars 10 ds 0 : Int) ∧ lo ≤ v := by
  constructor
  · intro h
    have hd := isDigit_of_readDigits h
    have eq := readDigits_down hhi hd 0 (by simpa using hlo)
    simp only [Int.natCast_zero, Int.neg_zero] at eq
    rw [eq] at h
    split at h
    · cases h
      exact ⟨hd, rfl, by assumption⟩
    · cases h
  · rintro ⟨hd, rfl, hv⟩
    have eq := readDigits_down hhi hd 0 (by simpa using hlo)
    simp only [Int.natCast_zero, Int.neg_zero] at eq
    rw [eq, if_pos hv]

theorem readDigits_up_eq_ok_iff_literal (hlo : lo < 0) (hhi : 0 ≤ hi) {ds : List Char}
    (nonempty : ds ≠ []) {v : Int} :
    readDigits lo hi false ds 0 = .ok v ↔
      (IsDigits ds ∧ v = Nat.ofDigitChars 10 ds 0) ∧ lo ≤ v ∧ v ≤ hi := by
  rw [readDigits_up_eq_ok_iff (by omega) hhi]
  constructor
  · rintro ⟨hd, rfl, hv⟩
    exact ⟨⟨⟨nonempty, hd⟩, rfl⟩, by omega, hv⟩
  · rintro ⟨⟨⟨-, hd⟩, rfl⟩, -, hv⟩
    exact ⟨hd, rfl, hv⟩

theorem parseInt_eq_ok_iff (hlo : lo < 0) (hhi : 0 ≤ hi) (s : String) (v : Int) :
    parseInt lo hi s = .ok v ↔ DecimalLiteral s.toList v ∧ lo ≤ v ∧ v ≤ hi := by
  unfold parseInt
  split
  · rename_i empty
    rw [empty]
    simp only [reduceCtorEq, false_iff]
    exact fun ⟨hl, _⟩ => not_decimalLiteral_nil v hl
  · rename_i sign
    rw [sign, decimalLiteral_plus_iff]
    simp [IsDigits]
  · rename_i sign
    rw [sign, decimalLiteral_minus_iff]
    simp [IsDigits]
  · rename_i cs nonempty sign
    rw [sign, decimalLiteral_plus_iff, readDigits_up_eq_ok_iff_literal hlo hhi nonempty]
  · rename_i cs nonempty sign
    rw [if_pos hlo, sign, decimalLiteral_minus_iff, readDigits_down_eq_ok_iff (by omega) hhi]
    constructor
    · rintro ⟨hd, rfl, hv⟩
      exact ⟨⟨⟨nonempty, hd⟩, rfl⟩, hv, by omega⟩
    · rintro ⟨⟨⟨-, hd⟩, rfl⟩, hv, -⟩
      exact ⟨hd, rfl, hv⟩
  · rename_i empty _ _ plus minus
    cases hs : s.toList with
    | nil => exact absurd hs empty
    | cons c cs =>
      have hp : c ≠ '+' := by
        rintro rfl
        exact plus cs hs
      have hm : c ≠ '-' := by
        rintro rfl
        exact minus cs hs
      rw [decimalLiteral_unsigned_iff hp hm,
        readDigits_up_eq_ok_iff_literal hlo hhi (List.cons_ne_nil c cs)]

end Reading

theorem parseInt64_eq_ok_iff (s : String) (v : Int) :
    parseInt64 s = .ok v ↔ DecimalLiteral s.toList v ∧ -Int.pow 2 63 ≤ v ∧ v ≤ Int.pow 2 63 - 1 :=
  parseInt_eq_ok_iff (by decide) (by decide) s v

theorem decimalLiteral_repr (n : Nat) : DecimalLiteral n.repr.toList n := by
  have hd : IsDigits (Nat.toDigits 10 n) :=
    ⟨Nat.toDigits_ne_nil, fun _ hc => Nat.isDigit_of_mem_toDigits (by decide) (by decide) hc⟩
  have lit := DecimalLiteral.unsigned hd
  rwa [Nat.ofDigitChars_ten_toDigits, ← Nat.toList_repr] at lit

theorem isBlank_of_isDigit {c : Char} (h : c.isDigit = true) : isBlank c = false := by
  have := isDigit_iff.1 h
  simp only [isBlank, Bool.or_eq_false_iff, Bool.and_eq_false_iff, decide_eq_false_iff_not,
    beq_eq_false_iff_ne, ne_eq]
  omega

theorem dropWhile_of_forall {p : Char → Bool} {cs : List Char} (h : ∀ c ∈ cs, p c = false) :
    cs.dropWhile p = cs := by
  cases cs with
  | nil => rfl
  | cons c cs => simp [h c List.mem_cons_self]

theorem trimBlank_of_forall {s : String} (h : ∀ c ∈ s.toList, isBlank c = false) :
    trimBlank s = s := by
  have hr : ∀ c ∈ s.toList.reverse, isBlank c = false := fun c hc => h c (List.mem_reverse.1 hc)
  rw [trimBlank, trimBlankList, dropWhile_of_forall h, dropWhile_of_forall hr, List.reverse_reverse,
    String.ofList_toList]

theorem trimBlank_repr (n : Nat) : trimBlank n.repr = n.repr := by
  refine trimBlank_of_forall fun c hc => isBlank_of_isDigit ?_
  rw [Nat.toList_repr] at hc
  exact Nat.isDigit_of_mem_toDigits (by decide) (by decide) hc


end Fulfilment.Text

namespace Fulfilment.Quantity

open Text

theorem ext {q r : Quantity} (h : q.val = r.val) : q = r := by
  cases q
  cases r
  cases h
  rfl

theorem make_val (q : Quantity) : make q.val = .ok q := by
  rw [make, dif_pos q.pos, dif_pos q.fits]

theorem make_eq_ok_iff {n : Int} {q : Quantity} : make n = .ok q ↔ q.val = n := by
  constructor
  · intro h
    unfold make at h
    split at h
    · split at h
      · cases h
        rfl
      · cases h
    · cases h
  · rintro rfl
    exact make_val q

theorem make_of_nonpos {n : Int} (h : n ≤ 0) :
    make n = .error (.validation ("quantity must be greater than zero, got " ++ toString n)) := by
  rw [make, dif_neg (by omega)]

theorem toString_val (q : Quantity) : toString q.val = q.val.toNat.repr := by
  rw [Int.toString_eq_repr, Int.repr_eq_if, if_pos (Int.le_of_lt q.pos)]

theorem parse_eq_ok_iff (s : String) (q : Quantity) :
    parse s = .ok q ↔ DecimalLiteral (trimBlank s).toList q.val := by
  have range : -Int.pow 2 63 ≤ q.val ∧ q.val ≤ Int.pow 2 63 - 1 :=
    ⟨Int.le_trans (by decide) (Int.le_of_lt q.pos), q.fits⟩
  unfold parse
  split
  · rename_i e refused
    simp only [reduceCtorEq, false_iff]
    intro lit
    rw [(parseInt64_eq_ok_iff _ q.val).2 ⟨lit, range⟩] at refused
    cases refused
  · rename_i n read
    rw [make_eq_ok_iff]
    constructor
    · rintro rfl
      exact ((parseInt64_eq_ok_iff _ _).1 read).1
    · intro lit
      rw [(parseInt64_eq_ok_iff _ q.val).2 ⟨lit, range⟩] at read
      cases read
      rfl

theorem parse_of_nonpos {s : String} {v : Int} (lit : DecimalLiteral (trimBlank s).toList v)
    (lo : -Int.pow 2 63 ≤ v) (hv : v ≤ 0) :
    parse s = .error (.validation ("quantity must be greater than zero, got " ++ toString v)) := by
  have read := (parseInt64_eq_ok_iff _ v).2 ⟨lit, lo, Int.le_trans hv (by decide)⟩
  rw [parse, read]
  exact make_of_nonpos hv

theorem parse_of_not_literal {s : String}
    (h : ¬∃ v, DecimalLiteral (trimBlank s).toList v ∧ -Int.pow 2 63 ≤ v ∧ v ≤ Int.pow 2 63 - 1) :
    parse s = .error (.validation ("quantity is not an integer: " ++ quoted s)) := by
  unfold parse
  split
  · rfl
  · rename_i n read
    exact absurd ⟨n, (parseInt64_eq_ok_iff _ n).1 read⟩ h

theorem parse_toString (q : Quantity) : parse (toString q.val) = .ok q := by
  have lit := decimalLiteral_repr q.val.toNat
  rw [Int.toNat_of_nonneg (Int.le_of_lt q.pos)] at lit
  rw [parse_eq_ok_iff, toString_val, trimBlank_repr]
  exact lit

end Fulfilment.Quantity

namespace Fulfilment.Json

open Text

theorem toDigits_head_ne_zero {n : Nat} (h : 0 < n) :
    ∃ c cs, Nat.toDigits 10 n = c :: cs ∧ c ≠ '0' := by
  induction n using Nat.strongRecOn with
  | _ n ih =>
    by_cases small : n < 10
    · refine ⟨n.digitChar, [], Nat.toDigits_of_lt_base small, fun e => ?_⟩
      have := Nat.toNat_digitChar_of_lt_ten small
      rw [e] at this
      simp at this
      omega
    · obtain ⟨c, cs, hd, hc⟩ := ih (n / 10) (by omega) (by omega)
      refine ⟨c, cs ++ [(n % 10).digitChar], ?_, hc⟩
      rw [Nat.toDigits_of_base_le (by omega) (by omega), hd]
      rfl

theorem utf8EncodeChar_digit {c : Char} (h : c.isDigit = true) :
    String.utf8EncodeChar c = [c.val.toUInt8] ∧ c.val.toUInt8.toNat = c.toNat := by
  have hc := isDigit_iff.1 h
  refine ⟨String.utf8EncodeChar_eq_singleton (Char.utf8Size_eq_one_iff.2 ?_), ?_⟩
  · rw [UInt32.le_iff_toNat_le, Char.toNat_val]
    simp
    omega
  · rw [UInt32.toNat_toUInt8, Char.toNat_val]
    omega

theorem isDigit_byte {c : Char} (h : c.isDigit = true) : isDigit c.val.toUInt8 = true := by
  have hc := isDigit_iff.1 h
  have hb := (utf8EncodeChar_digit h).2
  simp only [isDigit, Bool.and_eq_true, decide_eq_true_eq, UInt8.le_iff_toNat_le, hb]
  simp
  omega

theorem flatMap_utf8EncodeChar_digits {cs : List Char} (h : ∀ c ∈ cs, c.isDigit = true) :
    cs.flatMap String.utf8EncodeChar = cs.map fun c => c.val.toUInt8 := by
  induction cs with
  | nil => rfl
  | cons c cs ih =>
    obtain ⟨digit, rest⟩ := List.forall_mem_cons.1 h
    rw [List.flatMap_cons, List.map_cons, (utf8EncodeChar_digit digit).1, ih rest]
    rfl

section Digits

variable {S : ByteArray} {i : Nat}

theorem drop_end {xs : List UInt8} (h : S.data.toList.drop i = xs) :
    S.data.toList.drop (i + xs.length) = [] :=
  drop_advance (r := []) (by rw [List.append_nil]; exact h)

theorem countDigits_of_drop {ds : List Char} (hd : ∀ c ∈ ds, c.isDigit = true)
    (h : S.data.toList.drop i = ds.map fun c => c.val.toUInt8) : countDigits S i = ds.length := by
  induction ds generalizing i with
  | nil =>
    have : ¬i < S.size := by simpa using h
    rw [countDigits, dif_neg this]
    rfl
  | cons c cs ih =>
    obtain ⟨digit, digits⟩ := List.forall_mem_cons.1 hd
    obtain ⟨hi, hb, rest⟩ := byte_of_drop h
    rw [countDigits, dif_pos hi, hb, if_pos (isDigit_byte digit), ih digits rest]
    rfl

theorem takeDigits_of_drop {ds : List Char} (hd : ∀ c ∈ ds, c.isDigit = true) {r : List UInt8}
    (h : S.data.toList.drop i = (ds.map fun c => c.val.toUInt8) ++ r) (start fuel : Nat)
    (fits : Nat.ofDigitChars 10 ds start ≤ u64Max) (enough : ds.length < fuel) :
    takeDigits S i start fuel ds.length = (Nat.ofDigitChars 10 ds start, ds.length) := by
  induction ds generalizing i start fuel with
  | nil =>
    obtain ⟨f, rfl⟩ : ∃ f, fuel = f + 1 := ⟨fuel - 1, by simp at enough; omega⟩
    simp [takeDigits]
  | cons c cs ih =>
    obtain ⟨f, rfl⟩ : ∃ f, fuel = f + 1 := ⟨fuel - 1, by simp at enough; omega⟩
    rw [List.map_cons, List.cons_append] at h
    have hb := byteAt?_of_drop h
    obtain ⟨-, -, rest⟩ := byte_of_drop h
    obtain ⟨first, digits⟩ := List.forall_mem_cons.1 hd
    have digit := utf8EncodeChar_digit first
    rw [Nat.ofDigitChars_cons] at fits ⊢
    have grow := le_ofDigitChars cs (10 * start + (c.toNat - '0'.toNat))
    have step : start * 10 + (c.val.toUInt8.toNat - 48) = 10 * start + (c.toNat - '0'.toNat) := by
      rw [digit.2]
      simp
      omega
    simp only [takeDigits, List.length_cons, Nat.add_one_ne_zero, if_false, hb, Option.getD_some,
      step, Nat.add_sub_cancel]
    rw [if_neg (by omega), ih digits rest _ f fits (by simp at enough; omega)]

theorem readUnsigned_digits {c : Char} {cs : List Char} (hd : ∀ x ∈ c :: cs, x.isDigit = true)
    (lead : c ≠ '0') (h : S.data.toList.drop i = (c :: cs).map fun c => c.val.toUInt8)
    (fits : Nat.ofDigitChars 10 (c :: cs) 0 ≤ u64Max) :
    readUnsigned S i true = .ok (.int (Nat.ofDigitChars 10 (c :: cs) 0), i + (c :: cs).length) := by
  have count := countDigits_of_drop hd h
  have take := takeDigits_of_drop hd (r := []) (by rw [List.append_nil]; exact h) 0
    ((c :: cs).length + 1) fits (by omega)
  have past : byteAt? S (i + (c :: cs).length) = none := by
    have ended := drop_end h
    rw [List.length_map] at ended
    have : S.size ≤ i + (c :: cs).length := by simpa using ended
    simpa [byteAt?] using this
  rw [List.map_cons] at h
  have first := byteAt?_of_drop h
  have digit := utf8EncodeChar_digit (hd c List.mem_cons_self)
  have not_zero : (c.val.toUInt8 == 48) = false := by
    rw [beq_eq_false_iff_ne]
    intro e
    apply lead
    rw [← Char.toNat_inj, ← digit.2, e]
    rfl
  rw [readUnsigned, first]
  simp only [not_zero, Bool.false_eq_true, if_false, isDigit_byte (hd c List.mem_cons_self),
    if_true, count, take, Nat.sub_self]
  rw [readUnsigned.afterInt, Nat.add_zero, past]
  simp

theorem readInt64_digits {c : Char} {cs : List Char} (hd : ∀ x ∈ c :: cs, x.isDigit = true)
    (lead : c ≠ '0') (h : S.data.toList.drop i = (c :: cs).map fun c => c.val.toUInt8)
    (fits : (Nat.ofDigitChars 10 (c :: cs) 0 : Int) ≤ i64Max) :
    readInt64 S i = .ok (.int (Nat.ofDigitChars 10 (c :: cs) 0), i + (c :: cs).length) := by
  have read := readUnsigned_digits hd lead h (by
    rw [i64Max] at fits
    have big : Int.pow 2 63 = 9223372036854775808 := by decide
    rw [u64Max, show Nat.pow 2 64 = 18446744073709551616 from rfl]
    omega)
  have byte := utf8EncodeChar_digit (hd c List.mem_cons_self)
  have hc := isDigit_iff.1 (hd c List.mem_cons_self)
  rw [List.map_cons] at h
  have blank := skipBlank_of_drop h (by
    refine ⟨?_, ?_, ?_, ?_⟩ <;> intro e <;> rw [← UInt8.toNat_inj, byte.2] at e <;> simp at e <;>
      omega)
  unfold readInt64
  simp only [blank, byteAt?_of_drop h]
  split
  · rename_i none_eq
    simp at none_eq
  · rename_i minus
    have := congrArg (Option.map UInt8.toNat) minus
    simp only [Option.map_some, byte.2, Option.some.injEq] at this
    simp at this
    omega
  · rename_i x _ same
    cases same
    rw [if_pos (isDigit_byte (hd c List.mem_cons_self)), read]
    simp only [int64OfNumber, gt_iff_lt, Int.not_lt.2 fits, if_false]

end Digits

theorem render_quantity (q : Quantity) :
    ∃ c cs, (Value.int q.val).render.toUTF8.data.toList = (c :: cs).map (fun c => c.val.toUInt8) ∧
      (∀ x ∈ c :: cs, x.isDigit = true) ∧ c ≠ '0' ∧ (Nat.ofDigitChars 10 (c :: cs) 0 : Int) = q.val := by
  have pos : 0 < q.val.toNat := by have := q.pos; omega
  obtain ⟨c, cs, hds, lead⟩ := toDigits_head_ne_zero pos
  have digits : ∀ x ∈ c :: cs, x.isDigit = true := fun x hx =>
    Nat.isDigit_of_mem_toDigits (by decide) (by decide) (hds ▸ hx)
  refine ⟨c, cs, ?_, digits, lead, ?_⟩
  · have text : (Value.int q.val).render = q.val.toNat.repr := Quantity.toString_val q
    rw [show (Value.int q.val).render.toUTF8 = (Value.int q.val).render.toByteArray from rfl,
      bytes_toByteArray, text, Nat.toList_repr, hds, flatMap_utf8EncodeChar_digits digits]
  · rw [← hds, Nat.ofDigitChars_ten_toDigits]
    exact Int.toNat_of_nonneg (Int.le_of_lt q.pos)

theorem decodeText_quantity (q : Quantity) :
    decodeText Wire.quantityShape (Value.int q.val).render.toUTF8 = .ok (.int q.val) := by
  obtain ⟨c, cs, bytes, digits, lead, value⟩ := render_quantity q
  generalize (Value.int q.val).render.toUTF8 = S at bytes
  have at0 : S.data.toList.drop 0 = (c :: cs).map fun c => c.val.toUInt8 := bytes
  have read := readInt64_digits digits lead at0 (by rw [value, i64Max]; exact q.fits)
  have past : S.data.toList.drop (0 + (c :: cs).length) = [] := by
    simpa using drop_end at0
  unfold decodeText
  rw [show 4 * S.size + 64 = (4 * S.size + 62) + 1 + 1 by omega]
  simp only [Wire.quantityShape, decodeAt, read, value, Value.int, Quantity.make_val,
    skipBlank_of_drop_nil past]
  rw [if_neg (by simpa using past)]

end Fulfilment.Json

namespace Fulfilment.Quantity

open Text Json

theorem quantityOf_val (q : Quantity) : Wire.quantityOf (.int q.val) = some q := by
  simp [Wire.quantityOf, Value.int, Value.getInt?, make_val, Except.toOption]

/-- Reading quantities: exactly the trimmed literals of value 1 to 2^63 - 1 are accepted, with
their value; a literal from -2^63 to 0 is refused as not positive and anything else as not an
integer; the displayed text and the JSON text of every quantity read back as it. -/
theorem reads_exactly_positive_literals :
    (∀ (s : String) (q : Quantity), parse s = .ok q ↔
      ∃ v, DecimalLiteral (trimBlank s).toList v ∧ 1 ≤ v ∧ v ≤ Int.pow 2 63 - 1 ∧ q.val = v) ∧
    (∀ (s : String) (v : Int), DecimalLiteral (trimBlank s).toList v → -Int.pow 2 63 ≤ v → v ≤ 0 →
      parse s = .error (.validation ("quantity must be greater than zero, got " ++ toString v))) ∧
    (∀ s : String,
      (¬∃ v, DecimalLiteral (trimBlank s).toList v ∧ -Int.pow 2 63 ≤ v ∧ v ≤ Int.pow 2 63 - 1) →
      parse s = .error (.validation ("quantity is not an integer: " ++ quoted s))) ∧
    (∀ q : Quantity, parse (toString q.val) = .ok q) ∧
    (∀ q : Quantity,
      Wire.finishText Wire.quantityOf (decodeText Wire.quantityShape (Value.int q.val).render.toUTF8) =
        .ok q) := by
  refine ⟨fun s q => ?_, fun _ _ => parse_of_nonpos, fun _ => parse_of_not_literal, parse_toString,
    fun q => ?_⟩
  · rw [parse_eq_ok_iff]
    constructor
    · intro lit
      exact ⟨q.val, lit, q.pos, q.fits, rfl⟩
    · rintro ⟨v, lit, -, -, rfl⟩
      exact lit
  · rw [decodeText_quantity, Wire.finishText, quantityOf_val]

/-- `-0`, padded, is a literal of zero and is refused as not positive. -/
theorem refuses_minus_zero :
    DecimalLiteral (trimBlank " -0 ").toList 0 ∧ -Int.pow 2 63 ≤ 0 ∧ (0 : Int) ≤ 0 ∧
      parse " -0 " =
        .error (.validation ("quantity must be greater than zero, got " ++ toString (0 : Int))) := by
  have lit : DecimalLiteral (trimBlank " -0 ").toList 0 := by
    rw [show trimBlank " -0 " = "-0" by decide +kernel, show "-0".toList = ['-', '0'] from rfl,
      decimalLiteral_minus_iff]
    refine ⟨⟨List.cons_ne_nil _ _, by simp⟩, ?_⟩
    simp [Nat.ofDigitChars]
  have lo : -Int.pow 2 63 ≤ 0 := by decide +kernel
  exact ⟨lit, lo, Int.le_refl 0,
    reads_exactly_positive_literals.2.1 " -0 " 0 lit lo (Int.le_refl 0)⟩

end Fulfilment.Quantity
