import Fulfilment.Proofs.Ledger

/-!
A reference takes stock once: once recorded, a consumption under it replays the record and
changes nothing, and no later call changes the record.
-/

namespace Fulfilment.Ledger

/-- The references consumed against a key, each with what its consumption left. -/
def consumption (l : Ledger) (k : InventoryKey) : List (String × Int) :=
  ((l.slot? k).map (·.consumed)).getD []

/-- What the consumption under `ref` against key `k` left, if there was one. -/
def recorded? (l : Ledger) (k : InventoryKey) (ref : String) : Option Int :=
  ((l.consumption k).find? (·.1 == ref)).map (·.2)

theorem recorded?_of_slot? {l : Ledger} {k : InventoryKey} {s : Slot} (h : l.slot? k = some s)
    (ref : String) : l.recorded? k ref = (s.consumed.find? (·.1 == ref)).map (·.2) := by
  simp [recorded?, consumption, h]

theorem consumption_upsert {l l' : Ledger} {k : InventoryKey} {q : Int} {id : Uuid} {now : Instant}
    {rec : StockRecord} (h : l.upsert k q id now = .ok (l', rec)) : l'.consumption = l.consumption := by
  funext k'
  unfold upsert at h
  split at h
  · cases h
  rcases hs : l.slot? k with _ | s
  · simp only [hs, Except.ok.injEq, Prod.mk.injEq] at h
    obtain ⟨rfl, -⟩ := h
    simp only [consumption]
    rw [slot?_append_fresh _ _ _ hs]
    split
    · next hk => subst hk; simp [hs]
    · rfl
  · simp only [hs, Except.ok.injEq, Prod.mk.injEq] at h
    obtain ⟨rfl, -⟩ := h
    simp only [consumption, slot?_put, key_of_slot? hs]
    split
    · next hk => subst hk; simp [hs]
    · rfl

theorem consumption_consume {l l' : Ledger} {r : ConsumeRequest} {now : Instant}
    {out : ConsumeOutcome} (h : l.consume r now = .ok (l', out)) (k : InventoryKey) :
    l'.consumption k =
      if k = r.key ∧ out.replayed = false then
        l.consumption k ++ r.reference.toList.map (·, out.remaining)
      else l.consumption k := by
  obtain ⟨s, hs, -, hcase⟩ := consume_eq_ok h
  split at hcase
  · obtain ⟨rfl, rfl⟩ := hcase
    simp
  · obtain ⟨-, rfl, rfl⟩ := hcase
    simp only [consumption, slot?_put, key_of_slot? hs]
    by_cases hk : k = r.key
    · subst hk
      simp [hs]
    · simp [hk, Ne.symm hk]

theorem consume_recorded {l l' : Ledger} {r : ConsumeRequest} {now : Instant}
    {out : ConsumeOutcome} (h : l.consume r now = .ok (l', out)) :
    if out.replayed then ∃ ref, r.reference = some ref ∧ l.recorded? r.key ref = some out.remaining
    else ∀ ref, r.reference = some ref → l.recorded? r.key ref = none := by
  obtain ⟨s, hs, -, hcase⟩ := consume_eq_ok h
  split at hcase
  · next left hleft =>
    obtain ⟨-, rfl⟩ := hcase
    cases href : r.reference with
    | none => simp [href] at hleft
    | some ref =>
      simp only [href, Option.bind_some] at hleft
      simpa [recorded?_of_slot? hs] using hleft
  · next hnone =>
    obtain ⟨-, rfl, -⟩ := hcase
    intro ref href
    simp only [href, Option.bind_some] at hnone
    simpa [recorded?_of_slot? hs] using hnone

theorem consume_of_recorded? {l : Ledger} {r : ConsumeRequest} {ref : String} {left : Int}
    (recorded : l.recorded? r.key ref = some left) (href : r.reference = some ref)
    (pos : 0 < r.quantity) (now : Instant) :
    l.consume r now = .ok (l, { remaining := left, replayed := true }) := by
  obtain ⟨s, hs⟩ : ∃ s, l.slot? r.key = some s := by
    cases hs : l.slot? r.key with
    | none => simp [recorded?, consumption, hs] at recorded
    | some s => exact ⟨s, rfl⟩
  rw [recorded?_of_slot? hs] at recorded
  have replay : (r.reference.bind fun ref => (s.consumed.find? (·.1 == ref)).map (·.2)) = some left := by
    simpa [href] using recorded
  unfold consume
  rw [if_neg (by omega), hs]
  simp only [replay]

theorem recorded?_consume {l l' : Ledger} {r : ConsumeRequest} {now : Instant}
    {out : ConsumeOutcome} (h : l.consume r now = .ok (l', out)) (k : InventoryKey) (ref : String) :
    l'.recorded? k ref =
      if k = r.key ∧ r.reference = some ref ∧ out.replayed = false then some out.remaining
      else l.recorded? k ref := by
  rw [recorded?, consumption_consume h k]
  by_cases took : k = r.key ∧ r.reference = some ref ∧ out.replayed = false
  · obtain ⟨rfl, href, fresh⟩ := took
    -- taking stock means the reference was not recorded yet
    have unrecorded : (l.consumption r.key).find? (·.1 == ref) = none := by
      have := consume_recorded h
      rw [fresh] at this
      simpa [recorded?] using this ref href
    rw [if_pos ⟨rfl, fresh⟩, if_pos ⟨rfl, href, fresh⟩, List.find?_append, unrecorded, href]
    simp
  · rw [if_neg took]
    split
    · next hk =>
      -- what is appended is the record of another reference
      rw [List.find?_append]
      cases hr : r.reference with
      | none => simp [recorded?]
      | some ref' =>
        have other : ref' ≠ ref := fun e => took ⟨hk.1, e ▸ hr, hk.2⟩
        simp [recorded?, other]
    · rfl

/-- A call on the ledger. -/
inductive Call where
  | consume (r : ConsumeRequest) (now : Instant)
  | upsert (k : InventoryKey) (q : Int) (freshId : Uuid) (now : Instant)

/-- The ledger after a call; a refused call leaves it as it was. -/
def after (l : Ledger) : Call → Ledger
  | .consume r now =>
    match l.consume r now with
    | .ok (l', _) => l'
    | .error _ => l
  | .upsert k q freshId now =>
    match l.upsert k q freshId now with
    | .ok (l', _) => l'
    | .error _ => l

/-- The call, made on `l`, is a consumption under `ref` against `k` that takes stock, leaving
`out`. -/
def Call.TakesStock (c : Call) (l : Ledger) (k : InventoryKey) (ref : String)
    (out : ConsumeOutcome) : Prop :=
  ∃ r now l', c = .consume r now ∧ r.key = k ∧ r.reference = some ref ∧
    l.consume r now = .ok (l', out) ∧ out.replayed = false

theorem recorded?_after_isSome (l : Ledger) (c : Call) (k : InventoryKey) (ref : String) :
    ((l.after c).recorded? k ref).isSome ↔
      (l.recorded? k ref).isSome ∨ ∃ out, c.TakesStock l k ref out := by
  cases c with
  | consume r now =>
    simp only [after]
    split
    · next l' out h =>
      rw [recorded?_consume h]
      by_cases took : k = r.key ∧ r.reference = some ref ∧ out.replayed = false
      · obtain ⟨rfl, href, fresh⟩ := took
        simp only [and_self, href, fresh, if_true, Option.isSome_some, true_iff]
        exact .inr ⟨out, r, now, l', rfl, rfl, href, h, fresh⟩
      · rw [if_neg took]
        refine ⟨.inl, fun held => held.resolve_right ?_⟩
        rintro ⟨out', r', now', l'', hc, hk, href, h', fresh⟩
        cases hc
        rw [h] at h'
        cases h'
        exact took ⟨hk.symm, href, fresh⟩
    · next e h =>
      refine ⟨.inl, fun held => held.resolve_right ?_⟩
      rintro ⟨out', r', now', l'', hc, -, -, h', -⟩
      cases hc
      rw [h] at h'
      cases h'
  | upsert k' q freshId now =>
    have notTaking : ¬∃ out, (Call.upsert k' q freshId now).TakesStock l k ref out := by
      rintro ⟨out, r, now', l', hc, -⟩
      cases hc
    simp only [after, notTaking, or_false]
    split
    · next h => simp only [recorded?, consumption_upsert h]
    · rfl

/-- The ledger before call `i` of a sequence of calls made from `l`. -/
def before (l : Ledger) (cs : List Call) (i : Nat) : Ledger := (cs.take i).foldl after l

theorem before_succ {l : Ledger} {cs : List Call} {i : Nat} {c : Call} (h : cs[i]? = some c) :
    l.before cs (i + 1) = (l.before cs i).after c := by
  simp [before, List.take_add_one, h]

theorem before_succ_of_none {l : Ledger} {cs : List Call} {i : Nat} (h : cs[i]? = none) :
    l.before cs (i + 1) = l.before cs i := by
  simp [before, List.take_add_one, h]

/-- Call `i` of `cs`, made from `l`, is a consumption under `ref` against `k` that took stock,
leaving `out`. -/
def TookAt (l : Ledger) (cs : List Call) (k : InventoryKey) (ref : String) (i : Nat)
    (out : ConsumeOutcome) : Prop :=
  ∃ c, cs[i]? = some c ∧ c.TakesStock (l.before cs i) k ref out

/-- Along a sequence of calls a reference is recorded against a key exactly when it was at the
start or an earlier consumption under it took stock from that key: refused consumptions and
replays claim nothing. -/
theorem recorded?_before_isSome (l : Ledger) (cs : List Call) (k : InventoryKey) (ref : String)
    (j : Nat) :
    ((l.before cs j).recorded? k ref).isSome ↔
      (l.recorded? k ref).isSome ∨ ∃ i out, i < j ∧ l.TookAt cs k ref i out := by
  induction j with
  | zero => simp [before]
  | succ j ih =>
    -- a call that took stock before `j + 1` came before `j`, or is call `j` itself
    have earlier : (∃ i out, i < j + 1 ∧ l.TookAt cs k ref i out) ↔
        (∃ i out, i < j ∧ l.TookAt cs k ref i out) ∨ ∃ out, l.TookAt cs k ref j out := by
      constructor
      · rintro ⟨i, out, hi, took⟩
        rcases Nat.lt_succ_iff_lt_or_eq.1 hi with lt | rfl
        exacts [.inl ⟨i, out, lt, took⟩, .inr ⟨out, took⟩]
      · rintro (⟨i, out, hi, took⟩ | ⟨out, took⟩)
        exacts [⟨i, out, by omega, took⟩, ⟨j, out, by omega, took⟩]
    rw [earlier, ← or_assoc, ← ih]
    cases hc : cs[j]? with
    | none => simp [before_succ_of_none hc, TookAt, hc]
    | some c => simp [before_succ hc, recorded?_after_isSome, TookAt, hc]

theorem recorded?_after {l : Ledger} {k : InventoryKey} {ref : String} {left : Int}
    (recorded : l.recorded? k ref = some left) (c : Call) : (l.after c).recorded? k ref = some left := by
  cases c with
  | consume r now =>
    simp only [after]
    split
    · next l' out h =>
      rw [recorded?_consume h, if_neg, recorded]
      rintro ⟨rfl, href, fresh⟩
      have := consume_recorded h
      rw [fresh] at this
      simp [this ref href] at recorded
    · exact recorded
  | upsert k' q freshId now =>
    simp only [after]
    split
    · next h => simp only [recorded?, consumption_upsert h]; exact recorded
    · exact recorded

theorem TookAt.recorded {l : Ledger} {cs : List Call} {k : InventoryKey} {ref : String} {i j : Nat}
    {out : ConsumeOutcome} (took : l.TookAt cs k ref i out) (hij : i < j) :
    (l.before cs j).recorded? k ref = some out.remaining := by
  induction j with
  | zero => omega
  | succ j ih =>
    rcases Nat.lt_succ_iff_lt_or_eq.1 hij with lt | rfl
    · cases hc : cs[j]? with
      | none => rw [before_succ_of_none hc, ih lt]
      | some c => rw [before_succ hc]; exact recorded?_after (ih lt) c
    · obtain ⟨c, hc, r, now, l', rfl, rfl, href, h, fresh⟩ := took
      rw [before_succ hc]
      simp only [after, h]
      rw [recorded?_consume h, if_pos ⟨rfl, href, fresh⟩]

/-- A reference takes stock from a key once. Along any sequence of consumptions and upserts on
a ledger: at most one consumption under `ref` against `k` takes stock; every later consumption
under `ref` against `k` of a positive quantity, whatever quantity it asks for and whatever
upserts did to the key meanwhile, answers what that first one left, as a replay, and changes
nothing; and the reference is recorded against `k` only once a consumption under it took stock
there (or it was at the start), so a refused consumption claims nothing. -/
theorem reference_takes_stock_once (l : Ledger) (cs : List Call) (k : InventoryKey) (ref : String) :
    (∀ i j outᵢ outⱼ, l.TookAt cs k ref i outᵢ → l.TookAt cs k ref j outⱼ → i = j) ∧
    (∀ i j out r now, l.TookAt cs k ref i out → i < j → cs[j]? = some (.consume r now) →
      r.key = k → r.reference = some ref → 0 < r.quantity →
      (l.before cs j).consume r now =
        .ok (l.before cs j, { remaining := out.remaining, replayed := true })) ∧
    (∀ j, ((l.before cs j).recorded? k ref).isSome ↔
      (l.recorded? k ref).isSome ∨ ∃ i out, i < j ∧ l.TookAt cs k ref i out) := by
  -- a later consumption under the reference finds it recorded, so it replays
  have replays : ∀ i j out r now, l.TookAt cs k ref i out → i < j → cs[j]? = some (.consume r now) →
      r.key = k → r.reference = some ref → 0 < r.quantity →
      (l.before cs j).consume r now =
        .ok (l.before cs j, { remaining := out.remaining, replayed := true }) := by
    intro i j out r now took hij _ hk href pos
    exact consume_of_recorded? (hk ▸ took.recorded hij) href pos now
  refine ⟨fun i j outᵢ outⱼ tookᵢ tookⱼ => ?_, replays, recorded?_before_isSome l cs k ref⟩
  -- of two that took stock, the later one would have replayed
  have once : ∀ a b outa outb, l.TookAt cs k ref a outa → l.TookAt cs k ref b outb → ¬a < b := by
    intro a b outa outb tooka tookb hab
    obtain ⟨c, hc, r, now, l', rfl, hk, href, h, fresh⟩ := tookb
    have pos : 0 < r.quantity := (consume_within h fresh).1
    rw [replays a b outa r now tooka hab hc hk href pos] at h
    cases h
    simp at fresh
  have := once i j outᵢ outⱼ tookᵢ tookⱼ
  have := once j i outⱼ outᵢ tookⱼ tookᵢ
  omega

end Fulfilment.Ledger
