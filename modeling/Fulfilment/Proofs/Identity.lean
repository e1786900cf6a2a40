import Fulfilment.Ident.Id
import Fulfilment.Proofs.Digest

/-!
Identities as text. A UUID is written as its 32 hex digits with hyphens between the groups;
no digit is a hyphen, so dropping the hyphens gives the digits back, and 32 digits determine a
value below 2^128. Hence two identities are written alike only when they are equal, which is
what lets an order's text stand for the order, as the ledger's references do.
-/

namespace Fulfilment.Uuid

@[simp] theorem length_hexDigits (n k : Nat) : (hexDigits n k).length = k := by
  induction k generalizing n with
  | zero => rfl
  | succ k ih => simp [hexDigits, ih]

theorem toNat_nibbleChar {a : Nat} (h : a < 16) :
    (nibbleChar a).toNat = if a < 10 then 48 + a else 87 + a := by
  unfold nibbleChar
  split
  · exact Digest.toNat_ofNat_of_lt (by omega)
  · exact Digest.toNat_ofNat_of_lt (by omega)

theorem nibbleChar_inj {a b : Nat} (ha : a < 16) (hb : b < 16) (h : nibbleChar a = nibbleChar b) :
    a = b := by
  have hn := congrArg Char.toNat h
  rw [toNat_nibbleChar ha, toNat_nibbleChar hb] at hn
  split at hn <;> split at hn <;> omega

theorem nibbleChar_ne_hyphen {a : Nat} (h : a < 16) : nibbleChar a ≠ '-' := by
  intro e
  have hn := congrArg Char.toNat e
  rw [toNat_nibbleChar h] at hn
  have hyphen : '-'.toNat = 45 := rfl
  split at hn <;> omega

theorem hexDigits_ne_hyphen (n k : Nat) : ∀ c ∈ hexDigits n k, c ≠ '-' := by
  induction k generalizing n with
  | zero => simp [hexDigits]
  | succ k ih =>
    intro c hc
    simp only [hexDigits, List.mem_append, List.mem_singleton] at hc
    rcases hc with hc | rfl
    · exact ih (n / 16) c hc
    · exact nibbleChar_ne_hyphen (Nat.mod_lt n (by decide))

theorem hexDigits_injective {k n m : Nat} (hn : n < Nat.pow 16 k) (hm : m < Nat.pow 16 k)
    (h : hexDigits n k = hexDigits m k) : n = m := by
  induction k generalizing n m with
  | zero =>
    have e : Nat.pow 16 0 = 1 := rfl
    omega
  | succ k ih =>
    have e : Nat.pow 16 (k + 1) = Nat.pow 16 k * 16 := rfl
    simp only [hexDigits] at h
    obtain ⟨high, low⟩ := List.append_inj h (by simp)
    have hlow : n % 16 = m % 16 :=
      nibbleChar_inj (Nat.mod_lt n (by decide)) (Nat.mod_lt m (by decide))
        (List.singleton_inj.1 low)
    have hhigh : n / 16 = m / 16 :=
      ih (Nat.div_lt_of_lt_mul (by rw [e] at hn; omega))
        (Nat.div_lt_of_lt_mul (by rw [e] at hm; omega)) high
    omega

theorem render_filter (u : Uuid) :
    (u.render.toList.filter (· ≠ '-')) = hexDigits u.value 32 := by
  have digits := hexDigits_ne_hyphen u.value 32
  have sub : ∀ l : List Char, l ⊆ hexDigits u.value 32 → l.filter (fun c => !decide (c = '-')) = l :=
    fun l hl => List.filter_eq_self.2 (fun c hc => by simpa using digits c (hl hc))
  simp only [render, String.toList_ofList, List.filter_append, List.filter_cons,
    decide_not, decide_true, Bool.not_true, Bool.false_eq_true, ↓reduceIte]
  rw [sub _ (List.take_subset _ _),
    sub _ (List.Subset.trans (List.take_subset _ _) (List.drop_subset _ _)),
    sub _ (List.Subset.trans (List.take_subset _ _) (List.drop_subset _ _)),
    sub _ (List.Subset.trans (List.take_subset _ _) (List.drop_subset _ _)),
    sub _ (List.drop_subset _ _)]
  have e : hexDigits u.value 32 = (hexDigits u.value 32).take 8 ++
      (hexDigits u.value 32).drop 8 := (List.take_append_drop 8 _).symm
  conv => rhs; rw [e]
  simp only [List.append_assoc, List.append_cancel_left_eq]
  conv => rhs; rw [← List.take_append_drop 4 (List.drop 8 _)]
  simp only [List.drop_drop, List.append_cancel_left_eq]
  conv => rhs; rw [← List.take_append_drop 4 (List.drop 12 _)]
  simp only [List.drop_drop, List.append_cancel_left_eq]
  conv => rhs; rw [← List.take_append_drop 4 (List.drop 16 _)]
  simp only [List.drop_drop]

theorem render_injective {u v : Uuid} (h : u.render = v.render) : u = v := by
  have digits : hexDigits u.value 32 = hexDigits v.value 32 := by
    rw [← render_filter, ← render_filter, h]
  have hu : u.value < Nat.pow 16 32 := u.isLt
  have hv : v.value < Nat.pow 16 32 := v.isLt
  have value : u.value = v.value := hexDigits_injective hu hv digits
  cases u
  cases v
  simp only at value
  subst value
  rfl

end Fulfilment.Uuid

namespace Fulfilment.OrderId

theorem render_injective {a b : OrderId} (h : a.render = b.render) : a = b := by
  cases a
  cases b
  exact congrArg OrderId.mk (Uuid.render_injective h)

end Fulfilment.OrderId
