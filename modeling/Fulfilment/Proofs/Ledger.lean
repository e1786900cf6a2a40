import Mathlib.Data.List.Find
import Fulfilment.Stock.Ledger

/-!
The stock ledger seen through two views of each key: its quantity (`stock?`, none for a key
never stocked) and the references consumed against it (`refs`). A consumption that succeeds
either replays, changing nothing, or takes its quantity from its key and adds its reference
there; one that fails changes nothing. An upsert sets one key's quantity and keeps every
reference. A ledger seeded by upserts alone has no references and no negative quantity.
-/

namespace Fulfilment.Ledger

def stock? (l : Ledger) (k : InventoryKey) : Option Int := (l.slot? k).map (·.record.quantity)

def refs (l : Ledger) (k : InventoryKey) : List String :=
  ((l.slot? k).map fun s => s.consumed.map Prod.fst).getD []

/-- A ledger stocked by upserts alone, starting empty. -/
inductive Seeded : Ledger → Prop
  | empty : Seeded {}
  | upsert {l l' : Ledger} {k : InventoryKey} {q : Int} {id : Uuid} {now : Instant}
      {r : StockRecord} (seeded : Seeded l) (h : l.upsert k q id now = .ok (l', r)) : Seeded l'

theorem key_of_slot? {l : Ledger} {k : InventoryKey} {s : Slot} (h : l.slot? k = some s) :
    s.record.key = k := by
  simpa using List.find?_some h

theorem slot?_put (l : Ledger) (s : Slot) (k : InventoryKey) :
    (l.put s).slot? k = if s.record.key = k then (l.slot? k).map fun _ => s else l.slot? k := by
  simp only [slot?, put, List.find?_map]
  -- the replaced slots are exactly those of `s`'s key, so the search finds the same slot
  have same : ∀ t ∈ l.slots, ((fun t => t.record.key == k) ∘ fun t =>
      if t.record.key == s.record.key then s else t) t = (t.record.key == k) := by
    intro t _
    by_cases h : t.record.key = s.record.key <;> simp_all
  rw [List.find?_congr same]
  cases hf : l.slots.find? (·.record.key == k) with
  | none => simp
  | some t =>
    have tk : t.record.key = k := by simpa using List.find?_some hf
    by_cases hs : s.record.key = k
    · simp [hs, tk]
    · simp [hs, tk, Ne.symm hs]

theorem slot?_append_fresh (l : Ledger) (s : Slot) (k : InventoryKey) (fresh : l.slot? s.record.key = none) :
    (⟨l.slots ++ [s]⟩ : Ledger).slot? k = if s.record.key = k then some s else l.slot? k := by
  simp only [slot?, List.find?_append, List.find?_singleton]
  by_cases hk : s.record.key = k
  · subst hk
    simp only [slot?] at fresh
    simp [fresh]
  · cases l.slots.find? (·.record.key == k) <;> simp [hk]

theorem stock?_put (l : Ledger) (s : Slot) (k : InventoryKey) :
    (l.put s).stock? k =
      if s.record.key = k then (l.slot? k).map fun _ => s.record.quantity else l.stock? k := by
  simp only [stock?, slot?_put]
  split <;> simp [Option.map_map, Function.comp_def]

theorem refs_put (l : Ledger) (s : Slot) (k : InventoryKey) :
    (l.put s).refs k =
      if s.record.key = k ∧ (l.slot? k).isSome then s.consumed.map Prod.fst else l.refs k := by
  simp only [refs, slot?_put]
  cases l.slot? k <;> split <;> simp_all

theorem replay_isSome {s : Slot} {reference : Option String} :
    (reference.bind fun ref => (s.consumed.find? (·.1 == ref)).map (·.2)).isSome ↔
      ∃ ref, reference = some ref ∧ ref ∈ s.consumed.map Prod.fst := by
  cases reference with
  | none => simp
  | some ref => simp [List.find?_isSome]

/-- What a consumption that succeeds did: it found the key stocked and the quantity positive,
and then either replayed what an earlier one under its reference left, or took the quantity
from the slot and noted its reference with what was left. -/
theorem consume_eq_ok {l l' : Ledger} {r : ConsumeRequest} {now : Instant} {out : ConsumeOutcome}
    (h : l.consume r now = .ok (l', out)) :
    ∃ s, l.slot? r.key = some s ∧ 0 < r.quantity ∧
      match r.reference.bind fun ref => (s.consumed.find? (·.1 == ref)).map (·.2) with
      | some left => l' = l ∧ out = { remaining := left, replayed := true }
      | none => r.quantity ≤ s.record.quantity ∧
          out = { remaining := s.record.quantity - r.quantity } ∧
          l' = l.put
            ⟨{ s.record with quantity := s.record.quantity - r.quantity, updatedAt := now },
              s.consumed ++ r.reference.toList.map (·, s.record.quantity - r.quantity)⟩ := by
  unfold consume at h
  split at h
  · cases h
  rcases hs : l.slot? r.key with _ | s
  · simp [hs] at h
  refine ⟨s, rfl, by omega, ?_⟩
  simp only [hs] at h
  split
  · next left hleft =>
    simp only [hleft, Except.ok.injEq, Prod.mk.injEq] at h
    exact ⟨h.1.symm, h.2.symm⟩
  · next hnone =>
    simp only [hnone] at h
    split at h
    · cases h
    · simp only [Except.ok.injEq, Prod.mk.injEq] at h
      refine ⟨by omega, h.2.symm, ?_⟩
      rw [← h.1]
      cases r.reference <;> simp

theorem consume_replayed {l l' : Ledger} {r : ConsumeRequest} {now : Instant}
    {out : ConsumeOutcome} (h : l.consume r now = .ok (l', out)) :
    out.replayed = true ↔ ∃ ref, r.reference = some ref ∧ ref ∈ l.refs r.key := by
  obtain ⟨s, hs, -, hcase⟩ := consume_eq_ok h
  have hrefs : l.refs r.key = s.consumed.map Prod.fst := by simp [refs, hs]
  rw [hrefs, ← replay_isSome]
  split at hcase
  · next hleft => simp [hcase.2, hleft]
  · next hnone => simp [hcase.2.1, hnone]

theorem consume_replayed_eq {l l' : Ledger} {r : ConsumeRequest} {now : Instant}
    {out : ConsumeOutcome} (h : l.consume r now = .ok (l', out)) (replayed : out.replayed = true) :
    l' = l := by
  obtain ⟨s, -, -, hcase⟩ := consume_eq_ok h
  split at hcase
  · exact hcase.1
  · simp [hcase.2.1] at replayed

theorem refs_consume {l l' : Ledger} {r : ConsumeRequest} {now : Instant} {out : ConsumeOutcome}
    (h : l.consume r now = .ok (l', out)) (k : InventoryKey) :
    l'.refs k =
      if k = r.key ∧ out.replayed = false then l.refs k ++ r.reference.toList else l.refs k := by
  obtain ⟨s, hs, -, hcase⟩ := consume_eq_ok h
  split at hcase
  · obtain ⟨rfl, rfl⟩ := hcase
    simp
  · obtain ⟨-, rfl, rfl⟩ := hcase
    rw [refs_put]
    by_cases hk : k = r.key
    · subst hk
      simp [hs, refs, Function.comp_def, key_of_slot? hs]
    · simp [hk, Ne.symm hk, key_of_slot? hs]

theorem mem_refs_consume_of_ne {l l' : Ledger} {r : ConsumeRequest} {now : Instant}
    {out : ConsumeOutcome} (h : l.consume r now = .ok (l', out)) {ref : String}
    (ne : r.reference ≠ some ref) (k : InventoryKey) : ref ∈ l'.refs k ↔ ref ∈ l.refs k := by
  rw [refs_consume h k]
  split
  · cases hr : r.reference with
    | none => simp
    | some ref' =>
      have : ref ≠ ref' := fun e => ne (e ▸ hr)
      simp [this]
  · rfl

theorem stock?_consume {l l' : Ledger} {r : ConsumeRequest} {now : Instant}
    {out : ConsumeOutcome} (h : l.consume r now = .ok (l', out)) (k : InventoryKey) :
    l'.stock? k =
      if k = r.key ∧ out.replayed = false then (l.stock? k).map (· - r.quantity)
      else l.stock? k := by
  obtain ⟨s, hs, -, hcase⟩ := consume_eq_ok h
  split at hcase
  · obtain ⟨rfl, rfl⟩ := hcase
    simp
  · obtain ⟨-, rfl, rfl⟩ := hcase
    rw [stock?_put]
    by_cases hk : k = r.key
    · subst hk
      simp [hs, stock?, key_of_slot? hs]
    · simp [hk, Ne.symm hk, key_of_slot? hs]

theorem consume_within {l l' : Ledger} {r : ConsumeRequest} {now : Instant}
    {out : ConsumeOutcome} (h : l.consume r now = .ok (l', out)) (fresh : out.replayed = false) :
    0 < r.quantity ∧ ∃ a, l.stock? r.key = some a ∧ r.quantity ≤ a ∧ out.remaining = a - r.quantity := by
  obtain ⟨s, hs, pos, hcase⟩ := consume_eq_ok h
  split at hcase
  · simp [hcase.2] at fresh
  · obtain ⟨le, rfl, -⟩ := hcase
    exact ⟨pos, s.record.quantity, by simp [stock?, hs], le, rfl⟩

theorem consume_of_unrecorded {l : Ledger} {r : ConsumeRequest} {a : Int} (pos : 0 < r.quantity)
    (stock : l.stock? r.key = some a)
    (unrecorded : ∀ ref, r.reference = some ref → ref ∉ l.refs r.key) (now : Instant) :
    if r.quantity ≤ a then ∃ l', l.consume r now = .ok (l', { remaining := a - r.quantity })
    else l.consume r now = .error (.conflict a r.quantity) := by
  obtain ⟨s, hs, rfl⟩ : ∃ s, l.slot? r.key = some s ∧ s.record.quantity = a := by
    cases hs : l.slot? r.key with
    | none => simp [stock?, hs] at stock
    | some s => exact ⟨s, rfl, by simpa [stock?, hs] using stock⟩
  have fresh : (r.reference.bind fun ref => (s.consumed.find? (·.1 == ref)).map (·.2)) = none := by
    refine Option.not_isSome_iff_eq_none.1 fun replays => ?_
    obtain ⟨ref, href, mem⟩ := replay_isSome.1 replays
    exact unrecorded ref href (by simpa [refs, hs] using mem)
  have positive : ¬r.quantity ≤ 0 := by omega
  split
  · next enough =>
    simp only [consume, positive, hs, fresh, not_lt.2 enough, if_false]
    exact ⟨_, rfl⟩
  · next short =>
    simp only [consume, positive, hs, fresh, not_le.1 short, if_true, if_false]

theorem consume_conflict {l : Ledger} {r : ConsumeRequest} {now : Instant} {a q : Int}
    (h : l.consume r now = .error (.conflict a q)) :
    q = r.quantity ∧ l.stock? r.key = some a ∧ a < q ∧
      ∀ ref, r.reference = some ref → ref ∉ l.refs r.key := by
  unfold consume at h
  split at h
  · cases h
  rcases hs : l.slot? r.key with _ | s
  · simp [hs] at h
  simp only [hs] at h
  split at h
  · cases h
  · next hnone =>
    split at h
    · next lt =>
      simp only [Except.error.injEq, LedgerError.conflict.injEq] at h
      obtain ⟨rfl, rfl⟩ := h
      refine ⟨rfl, by simp [stock?, hs], lt, fun ref href hmem => ?_⟩
      have : (r.reference.bind fun ref => (s.consumed.find? (·.1 == ref)).map (·.2)).isSome :=
        replay_isSome.2 ⟨ref, href, by simpa [refs, hs] using hmem⟩
      simp [hnone] at this
    · cases h

theorem stock?_upsert {l l' : Ledger} {k : InventoryKey} {q : Int} {id : Uuid} {now : Instant}
    {rec : StockRecord} (h : l.upsert k q id now = .ok (l', rec)) (k' : InventoryKey) :
    0 ≤ q ∧ l'.stock? k' = if k = k' then some q else l.stock? k' := by
  unfold upsert at h
  split at h
  · cases h
  refine ⟨by omega, ?_⟩
  rcases hs : l.slot? k with _ | s
  · simp only [hs, Except.ok.injEq, Prod.mk.injEq] at h
    obtain ⟨rfl, -⟩ := h
    simp only [stock?]
    rw [slot?_append_fresh _ _ _ hs]
    split <;> simp
  · simp only [hs, Except.ok.injEq, Prod.mk.injEq] at h
    obtain ⟨rfl, -⟩ := h
    rw [stock?_put]
    simp only [key_of_slot? hs]
    split
    · next hk => subst hk; simp [hs]
    · rfl

theorem refs_upsert {l l' : Ledger} {k : InventoryKey} {q : Int} {id : Uuid} {now : Instant}
    {rec : StockRecord} (h : l.upsert k q id now = .ok (l', rec)) : l'.refs = l.refs := by
  funext k'
  unfold upsert at h
  split at h
  · cases h
  rcases hs : l.slot? k with _ | s
  · simp only [hs, Except.ok.injEq, Prod.mk.injEq] at h
    obtain ⟨rfl, -⟩ := h
    simp only [refs]
    rw [slot?_append_fresh _ _ _ hs]
    split
    · next hk => subst hk; simp [hs]
    · rfl
  · simp only [hs, Except.ok.injEq, Prod.mk.injEq] at h
    obtain ⟨rfl, -⟩ := h
    rw [refs_put]
    simp only [key_of_slot? hs]
    split
    · next hk => obtain ⟨rfl, -⟩ := hk; simp [refs, hs]
    · rfl

theorem Seeded.fresh {l : Ledger} (seeded : l.Seeded) :
    (∀ k, l.refs k = []) ∧ ∀ k a, l.stock? k = some a → 0 ≤ a := by
  induction seeded with
  | empty => exact ⟨fun k => rfl, fun k a h => by simp [stock?, slot?] at h⟩
  | upsert _ h ih =>
    refine ⟨fun k => by rw [refs_upsert h]; exact ih.1 k, fun k a ha => ?_⟩
    obtain ⟨nonneg, hk⟩ := stock?_upsert h k
    rw [hk] at ha
    split at ha
    · cases ha; exact nonneg
    · exact ih.2 k a ha

end Fulfilment.Ledger
