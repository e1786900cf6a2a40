import Mathlib.Data.List.Find
import Fulfilment.Pipeline.Finalize
import Fulfilment.Store.Orders

/-!
Orders through finalization, and the order store. Every lifecycle step keeps an order's
identity and its row (the codes and the quantity it was placed with); `confirm` needs the stock
taken and gives `new_order`, and `hold` is refused once the order is `new_order`. The store
finds an order by identity; `save` replaces the orders of that identity, `insert` appends one
whose identity is new, and `insertIngested` does so only for a row key not yet stored.
-/

namespace Fulfilment

namespace Order

variable (o : Order) (now : Instant)

@[simp] theorem id_markConsumed : (o.markConsumed now).id = o.id := rfl
@[simp] theorem row_markConsumed : (o.markConsumed now).row = o.row := rfl
@[simp] theorem status_markConsumed : (o.markConsumed now).status = o.status := rfl
@[simp] theorem progress_markConsumed :
    (o.markConsumed now).progress = { o.progress with inventoryConsumed := true } := rfl

@[simp] theorem stockKey_markConsumed : (o.markConsumed now).stockKey = o.stockKey := rfl

@[simp] theorem id_markNotified : (o.markNotified now).id = o.id := rfl
@[simp] theorem row_markNotified : (o.markNotified now).row = o.row := rfl
@[simp] theorem status_markNotified : (o.markNotified now).status = o.status := rfl
@[simp] theorem progress_markNotified :
    (o.markNotified now).progress = { o.progress with notified := true } := rfl

@[simp] theorem stockKey_markNotified : (o.markNotified now).stockKey = o.stockKey := rfl

@[simp] theorem id_place (id : OrderId) (e : NewOrder) : (place id e now).id = id := rfl
@[simp] theorem row_place (id : OrderId) (e : NewOrder) : (place id e now).row = e := rfl
@[simp] theorem status_place (id : OrderId) (e : NewOrder) : (place id e now).status = .onHold := rfl
@[simp] theorem progress_place (id : OrderId) (e : NewOrder) : (place id e now).progress = {} := rfl

theorem stockKey_row {o o' : Order} (h : o.row = o'.row) : o.stockKey = o'.stockKey := by
  simp only [row, NewOrder.mk.injEq] at h
  simp [stockKey, h]

theorem quantity_of_row {o o' : Order} (h : o.row = o'.row) : o.quantity = o'.quantity := by
  simp only [row, NewOrder.mk.injEq] at h
  exact h.2.2.2.2

theorem confirm_eq_ok {o o' : Order} {now : Instant} (h : o.confirm now = .ok o') :
    o.progress.inventoryConsumed = true ∧ o'.status = .newOrder ∧ o'.id = o.id ∧
      o'.row = o.row ∧ o'.progress = o.progress := by
  unfold confirm at h
  split at h
  · cases h
  · next consumed =>
    simp only [Bool.not_eq_true', Bool.not_eq_false] at consumed
    split at h
    · next done => cases h; exact ⟨consumed, done, rfl, rfl, rfl⟩
    · cases h; exact ⟨consumed, rfl, rfl, rfl, rfl⟩

theorem hold_eq_ok {o o' : Order} {now : Instant} (h : o.hold now = .ok o') :
    o.status ≠ .newOrder ∧ o' = { o with updatedAt := now } := by
  unfold hold at h
  split at h
  · cases h
  · cases h; exact ⟨‹_›, rfl⟩

end Order

namespace OrderStore

variable {s s' : OrderStore} {o : Order} {id : OrderId}

theorem get_eq_ok : s.get id = .ok o ↔ s.orders.find? (·.id == id) = some o := by
  unfold get
  cases s.orders.find? (·.id == id) <;> simp

theorem id_of_get (h : s.get id = .ok o) : o.id = id := by
  simpa using List.find?_some (get_eq_ok.1 h)

theorem get_eq_ok_iff_mem (nodup : (s.orders.map (·.id)).Nodup) :
    s.get id = .ok o ↔ o ∈ s.orders ∧ o.id = id := by
  rw [get_eq_ok]
  constructor
  · intro h
    exact ⟨List.mem_of_find?_eq_some h, by simpa using List.find?_some h⟩
  · rintro ⟨mem, rfl⟩
    rw [List.find?_eq_some_iff_append]
    obtain ⟨before, after, split⟩ := List.append_of_mem mem
    refine ⟨by simp, before, after, split, fun x hx => ?_⟩
    -- an order before `o` has another identity, the list of identities having no repetition
    rw [split] at nodup
    simp only [List.map_append, List.map_cons] at nodup
    have hne := (List.nodup_append.1 nodup).2.2
    simpa using fun h => hne x.id (List.mem_map_of_mem hx) o.id (by simp) h

theorem has_iff : s.has id = true ↔ ∃ x ∈ s.orders, x.id = id := by
  simp [has]

theorem save_eq_ok (h : s.save o = .ok s') :
    (∃ x ∈ s.orders, x.id = o.id) ∧
      s' = { s with orders := s.orders.map fun x => if x.id == o.id then o else x } := by
  unfold save at h
  split at h
  · cases h; exact ⟨has_iff.1 ‹_›, rfl⟩
  · cases h

theorem insert_eq_ok (h : s.insert o = .ok s') :
    (∀ x ∈ s.orders, x.id ≠ o.id) ∧ s' = { s with orders := s.orders ++ [o] } := by
  unfold insert at h
  split at h
  · cases h
  · next fresh =>
    cases h
    refine ⟨fun x hx e => fresh (has_iff.2 ⟨x, hx, e⟩), rfl⟩

theorem insertIngested_eq_ok {k : RowKey} {stored : Bool}
    (h : s.insertIngested o k = .ok (s', stored)) :
    if stored then k ∉ s.ingested ∧ (∀ x ∈ s.orders, x.id ≠ o.id) ∧
        s' = { orders := s.orders ++ [o], ingested := s.ingested ++ [k] }
    else k ∈ s.ingested ∧ s' = s := by
  unfold insertIngested at h
  split at h
  · next dup =>
    cases h
    exact ⟨by simpa using dup, rfl⟩
  · next fresh =>
    cases hi : s.insert o with
    | error e => simp [hi, bind, Except.bind] at h
    | ok t =>
      simp only [hi, bind, Except.bind, pure, Except.pure, Except.ok.injEq, Prod.mk.injEq] at h
      obtain ⟨rfl, rfl⟩ := h
      obtain ⟨new, rfl⟩ := insert_eq_ok hi
      exact ⟨by simpa using fresh, new, rfl⟩

theorem get_save_self (h : s.save o = .ok s') : s'.get o.id = .ok o := by
  obtain ⟨⟨x, hx, hid⟩, rfl⟩ := save_eq_ok h
  rw [get_eq_ok, List.find?_map]
  have found : s.orders.find? ((fun z => z.id == o.id) ∘ fun y => if y.id == o.id then o else y) =
      s.orders.find? (·.id == o.id) := by
    apply List.find?_congr
    intro y _
    by_cases e : y.id = o.id <;> simp [e]
  rw [found]
  cases hf : s.orders.find? (·.id == o.id) with
  | none => simp only [List.find?_eq_none] at hf; exact absurd (by simpa using hid) (hf x hx)
  | some y =>
    have : y.id = o.id := by simpa using List.find?_some hf
    simp [this]

theorem get_save_of_ne (h : s.save o = .ok s') (ne : o.id ≠ id) : s'.get id = s.get id := by
  obtain ⟨-, rfl⟩ := save_eq_ok h
  unfold get
  rw [List.find?_map]
  have found : s.orders.find? ((fun z => z.id == id) ∘ fun y => if y.id == o.id then o else y) =
      s.orders.find? (·.id == id) := by
    apply List.find?_congr
    intro y _
    by_cases e : y.id = o.id
    · simp [e]
    · simp [e]
  rw [found]
  cases hf : s.orders.find? (·.id == id) with
  | none => rfl
  | some y =>
    have : y.id ≠ o.id := by
      have : y.id = id := by simpa using List.find?_some hf
      rw [this]; exact Ne.symm ne
    simp [this]

theorem get_insertIngested {k : RowKey} {x : Order} (h : s.insertIngested o k = .ok (s', true))
    (hx : s.get id = .ok x) : s'.get id = .ok x := by
  have h' := insertIngested_eq_ok h
  simp only [if_true] at h'
  obtain ⟨-, -, rfl⟩ := h'
  rw [get_eq_ok] at hx ⊢
  simp [List.find?_append, hx]

theorem get_insertIngested_self {k : RowKey} (h : s.insertIngested o k = .ok (s', true)) :
    s'.get o.id = .ok o := by
  have h' := insertIngested_eq_ok h
  simp only [if_true] at h'
  obtain ⟨-, fresh, rfl⟩ := h'
  rw [get_eq_ok, List.find?_append]
  have none : s.orders.find? (·.id == o.id) = none := by
    rw [List.find?_eq_none]
    intro x hx
    simpa using fresh x hx
  simp [none]

end OrderStore

end Fulfilment
