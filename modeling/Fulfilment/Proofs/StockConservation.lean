import Mathlib
import Fulfilment.Proofs.Identity
import Fulfilment.Proofs.Ledger
import Fulfilment.Proofs.Orders
import Fulfilment.Proofs.Stages
import Fulfilment.Proofs.Executions

/-!
No stock is oversold and none is taken twice, whatever the workers do in whatever order. The proof
keeps an account of the ledger and the order store (`StockAccount`) and asks every running
finalization to track its order (`Job.Tracks`); each stage keeps both (`StepAccounted`).
-/

namespace Fulfilment

/-- The surroundings leave the stock ledger and the orders alone: uploads, submissions and the
redeliveries of the queue and of the bus touch neither. -/
def World.KeepsStock (w : World) : Prop :=
  ∀ p q, w.env p q → q.ledger = p.ledger ∧ q.orders = p.orders

namespace Ledger

/-- The stock taken from key `k` for the orders of a list that the ledger records against
`k`, each order counted once with its quantity. -/
def taken (l : Ledger) (orders : List Order) (k : InventoryKey) : Int :=
  (orders.map fun o => if o.stockKey = k ∧ o.id.render ∈ l.refs k then o.quantity.val else 0).sum

end Ledger

/-- An order agrees with the ledger: it is `new_order` only with its stock taken, and its stock
is taken only when the ledger records a consumption under its identity against its key. -/
structure Order.Settled (l : Ledger) (o : Order) : Prop where
  consumed_of_confirmed : o.status = .newOrder → o.progress.inventoryConsumed = true
  recorded_of_consumed : o.progress.inventoryConsumed = true → o.id.render ∈ l.refs o.stockKey

/-- The stock of a ledger against its seed, with the orders stored: each key holds its seed
less what was taken for the stored orders the ledger records, never below zero; every order
is stored once; and a `new_order` has its stock taken under its own identity against its own
key. -/
structure StockBalanced (seed l : Ledger) (store : OrderStore) : Prop where
  balance : ∀ k, l.stock? k = (seed.stock? k).map (· - l.taken store.orders k)
  nonneg : ∀ k a, l.stock? k = some a → 0 ≤ a
  once : (store.orders.map (·.id)).Nodup
  confirmed : ∀ o ∈ store.orders, o.status = .newOrder →
    o.progress.inventoryConsumed = true ∧ o.id.render ∈ l.refs o.stockKey

/-- The account kept along a run: the balance, each recorded reference naming a stored order of
its key, and each stored order settled. -/
structure StockAccount (seed l : Ledger) (store : OrderStore) : Prop
    extends StockBalanced seed l store where
  named : ∀ k ref, ref ∈ l.refs k → ∃ o ∈ store.orders, o.id.render = ref ∧ o.stockKey = k
  settled : ∀ o ∈ store.orders, o.Settled l

/-- A job's copy of its order agrees with the store on identity and row, and with the ledger. -/
def Job.Tracks (l : Ledger) (store : OrderStore) : Job → Prop
  | .finalize st => ∀ o, st.order? = some o →
      (∃ x ∈ store.orders, x.id = o.id ∧ x.row = o.row) ∧ o.Settled l
  | _ => True

/-- `l'` and `store'` keep what `l` recorded and `store` stored, each order by identity and row. -/
structure Retains (l l' : Ledger) (store store' : OrderStore) : Prop where
  recorded : ∀ k, l.refs k ⊆ l'.refs k
  stored : ∀ x ∈ store.orders, ∃ y ∈ store'.orders, y.id = x.id ∧ y.row = x.row

/-- What one step of a job leaves: the account kept, everything recorded and stored retained,
and the job that goes on tracked. -/
structure StepAccounted (seed : Ledger) (p : Pipeline)
    (out : Except PipelineError (JobResult ⊕ Job) × Pipeline) : Prop where
  account : StockAccount seed out.2.ledger out.2.orders
  retains : Retains p.ledger out.2.ledger p.orders out.2.orders
  next : ∀ job, Job.after out.1 = some job → job.Tracks out.2.ledger out.2.orders

variable {seed l l' : Ledger} {store store' : OrderStore}

theorem Order.Settled.mono {o : Order} (settled : o.Settled l) (grow : ∀ k, l.refs k ⊆ l'.refs k) :
    o.Settled l' :=
  ⟨settled.consumed_of_confirmed, fun h => grow _ (settled.recorded_of_consumed h)⟩

theorem Retains.refl : Retains l l store store :=
  ⟨fun _ => List.Subset.refl _, fun x hx => ⟨x, hx, rfl, rfl⟩⟩

theorem Job.Tracks.mono {job : Job} (tracks : job.Tracks l store) (keep : Retains l l' store store') :
    job.Tracks l' store' := by
  cases job with
  | finalize st =>
    intro o ho
    obtain ⟨⟨x, hx, hid, hrow⟩, settled⟩ := tracks o ho
    obtain ⟨y, hy, hyid, hyrow⟩ := keep.stored x hx
    exact ⟨⟨y, hy, hyid.trans hid, hyrow.trans hrow⟩, settled.mono keep.recorded⟩
  | fetch => trivial
  | ingest => trivial

theorem Job.Tracks.of_order {st : FinalizeStage} {o : Order} (h : st.order? = some o)
    (stored : ∃ x ∈ store.orders, x.id = o.id ∧ x.row = o.row) (settled : o.Settled l) :
    (Job.finalize st).Tracks l store := by
  intro o' ho'
  rw [h, Option.some.injEq] at ho'
  subst ho'
  exact ⟨stored, settled⟩

theorem StockAccount.confirmed_of_settled (settled : ∀ o ∈ store.orders, o.Settled l) :
    ∀ o ∈ store.orders, o.status = .newOrder →
      o.progress.inventoryConsumed = true ∧ o.id.render ∈ l.refs o.stockKey := by
  intro o ho confirmed
  have consumed := (settled o ho).consumed_of_confirmed confirmed
  exact ⟨consumed, (settled o ho).recorded_of_consumed consumed⟩

theorem StepAccounted.of_frame {p : Pipeline} {out : Except PipelineError (JobResult ⊕ Job) × Pipeline}
    (account : StockAccount seed p.ledger p.orders) (ledger : out.2.ledger = p.ledger)
    (orders : out.2.orders = p.orders)
    (next : ∀ job, Job.after out.1 = some job → job.Tracks p.ledger p.orders) :
    StepAccounted seed p out := by
  refine ⟨?_, ?_, ?_⟩
  · rw [ledger, orders]; exact account
  · rw [ledger, orders]; exact Retains.refl
  · rw [ledger, orders]; exact next

namespace Ledger

theorem taken_map {orders : List Order} {f : Order → Order} (k : InventoryKey)
    (same : ∀ o ∈ orders, (f o).id = o.id ∧ (f o).row = o.row) :
    l.taken (orders.map f) k = l.taken orders k := by
  simp only [taken, List.map_map]
  congr 1
  apply List.map_congr_left
  intro o ho
  obtain ⟨hid, hrow⟩ := same o ho
  simp [hid, Order.stockKey_row hrow, Order.quantity_of_row hrow]

theorem taken_append_of_not_recorded {orders : List Order} {o : Order} (k : InventoryKey)
    (h : o.id.render ∉ l.refs o.stockKey) : l.taken (orders ++ [o]) k = l.taken orders k := by
  simp only [taken, List.map_append, List.sum_append, List.map_cons, List.map_nil,
    List.sum_cons, List.sum_nil]
  rw [if_neg (by rintro ⟨rfl, hmem⟩; exact h hmem)]
  simp

theorem sum_ite_id {orders : List Order} {x : Order} (g : Order → Int)
    (once : (orders.map (·.id)).Nodup) (hx : x ∈ orders) :
    (orders.map fun y => if y.id = x.id then g y else 0).sum = g x := by
  induction orders with
  | nil => cases hx
  | cons y rest ih =>
    simp only [List.map_cons, List.nodup_cons, List.mem_map] at once
    simp only [List.map_cons, List.sum_cons]
    rcases List.mem_cons.1 hx with rfl | hx
    · -- every other order has another identity
      rw [if_pos rfl, List.sum_eq_zero, add_zero]
      intro z hz
      obtain ⟨y', hy', rfl⟩ := List.mem_map.1 hz
      exact if_neg fun e => once.1 ⟨y', hy', e⟩
    · rw [if_neg fun e => once.1 ⟨x, hx, e.symm⟩, ih once.2 hx, zero_add]

theorem taken_record {orders : List Order} {x : Order} (k : InventoryKey)
    (once : (orders.map (·.id)).Nodup) (hx : x ∈ orders) (fresh : x.id.render ∉ l.refs x.stockKey)
    (refs' : ∀ k, l'.refs k = if k = x.stockKey then l.refs k ++ [x.id.render] else l.refs k) :
    l'.taken orders k = l.taken orders k + if k = x.stockKey then x.quantity.val else 0 := by
  by_cases hk : k = x.stockKey
  · subst hk
    -- a term changes only for the order of `x`'s identity, which was not recorded before
    have split : ∀ y ∈ orders,
        (if y.stockKey = x.stockKey ∧ y.id.render ∈ l'.refs x.stockKey then y.quantity.val else 0) =
          (if y.stockKey = x.stockKey ∧ y.id.render ∈ l.refs x.stockKey then y.quantity.val else 0) +
          if y.id = x.id then (if y.stockKey = x.stockKey then y.quantity.val else 0) else 0 := by
      intro y _
      rw [refs' x.stockKey, if_pos rfl]
      by_cases hy : y.id = x.id
      · simp [hy, fresh]
      · have : y.id.render ≠ x.id.render := fun e => hy (OrderId.render_injective e)
        simp [hy, this]
    simp only [taken]
    rw [List.map_congr_left split, List.sum_map_add, sum_ite_id _ once hx]
    simp
  · simp [taken, refs' k, hk]

end Ledger

theorem same_of_id {orders : List Order} {x y : Order} (once : (orders.map (·.id)).Nodup)
    (hx : x ∈ orders) (hy : y ∈ orders) (h : x.id = y.id) : x = y :=
  List.inj_on_of_nodup_map once hx hy h

namespace StockAccount

theorem consume {o : Order} {now : Instant} {out : ConsumeOutcome}
    (account : StockAccount seed l store)
    (tracked : ∃ x ∈ store.orders, x.id = o.id ∧ x.row = o.row)
    (h : l.consume o.reservation now = .ok (l', out)) :
    StockAccount seed l' store ∧ (∀ k, l.refs k ⊆ l'.refs k) ∧ o.id.render ∈ l'.refs o.stockKey := by
  obtain ⟨x, hx, hid, hrow⟩ := tracked
  have key : x.stockKey = o.stockKey := Order.stockKey_row hrow
  cases replayed : out.replayed
  case true =>
    obtain rfl := Ledger.consume_replayed_eq h replayed
    obtain ⟨ref, href, mem⟩ := (Ledger.consume_replayed h).1 replayed
    rw [show o.reservation.reference = some o.id.render from rfl, Option.some.injEq] at href
    subst href
    exact ⟨account, fun _ => List.Subset.refl _, mem⟩
  case false =>
    have fresh : x.id.render ∉ l.refs x.stockKey := by
      rw [hid, key]
      intro mem
      have := (Ledger.consume_replayed h).2 ⟨_, rfl, mem⟩
      simp [replayed] at this
    have refs' : ∀ k, l'.refs k = if k = x.stockKey then l.refs k ++ [x.id.render] else l.refs k := by
      intro k
      rw [Ledger.refs_consume h, hid, key]
      simp [Order.reservation, replayed]
    have stock' := Ledger.stock?_consume h
    obtain ⟨-, a, ha, within, -⟩ := Ledger.consume_within h replayed
    have qty : o.reservation.quantity = x.quantity.val := by
      simp [Order.reservation, Order.quantity_of_row hrow]
    refine ⟨⟨⟨fun k => ?_, fun k b hb => ?_, account.once, ?_⟩, fun k ref hr => ?_, ?_⟩,
      fun k => ?_, ?_⟩
    · -- the balance: the key of the order lost its quantity, which is now counted as taken
      rw [stock' k, Ledger.taken_record k account.once hx fresh refs', account.balance k]
      by_cases hk : k = x.stockKey
      · simp only [hk, replayed, key, Order.reservation, and_self, if_true]
        cases seed.stock? o.stockKey <;> simp [Order.quantity_of_row hrow, sub_sub]
      · have other : ¬k = o.reservation.key := by
          rw [show o.reservation.key = o.stockKey from rfl, ← key]; exact hk
        simp [hk, other]
    · rw [stock' k] at hb
      split at hb
      · next hk =>
        obtain ⟨rfl, -⟩ := hk
        rw [ha] at hb
        simp only [Option.map_some, Option.some.injEq] at hb
        omega
      · exact account.nonneg k b hb
    · exact confirmed_of_settled fun o ho => (account.settled o ho).mono fun k => by
        rw [refs' k]; split <;> simp
    · rw [refs' k] at hr
      split at hr
      · next hk =>
        rcases List.mem_append.1 hr with hr | hr
        · exact account.named k ref hr
        · exact ⟨x, hx, (List.mem_singleton.1 hr).symm, hk.symm⟩
      · exact account.named k ref hr
    · exact fun o ho => (account.settled o ho).mono fun k => by rw [refs' k]; split <;> simp
    · rw [refs' k]; split <;> simp
    · rw [refs' o.stockKey, ← key, if_pos rfl, ← hid]; simp

theorem save {o : Order} (account : StockAccount seed l store) (settled : o.Settled l)
    (tracked : ∃ x ∈ store.orders, x.id = o.id ∧ x.row = o.row) (h : store.save o = .ok store') :
    StockAccount seed l store' ∧ Retains l l store store' ∧
      ∃ y ∈ store'.orders, y.id = o.id ∧ y.row = o.row := by
  obtain ⟨x, hx, hid, hrow⟩ := tracked
  obtain ⟨-, rfl⟩ := OrderStore.save_eq_ok h
  -- the order replaced is the one stored under `o`'s identity, whose row is `o`'s
  have same : ∀ y ∈ store.orders, (if y.id == o.id then o else y).id = y.id ∧
      (if y.id == o.id then o else y).row = y.row := by
    intro y hy
    by_cases e : y.id = o.id
    · obtain rfl := same_of_id account.once hy hx (e.trans hid.symm)
      simp [e, hrow]
    · simp [e]
  have ids : (store.orders.map fun y => if y.id == o.id then o else y).map (·.id) =
      store.orders.map (·.id) := by
    rw [List.map_map]
    exact List.map_congr_left fun y hy => (same y hy).1
  refine ⟨⟨⟨fun k => ?_, account.nonneg, ?_, ?_⟩, fun k ref hr => ?_, fun y hy => ?_⟩,
    ⟨fun _ => List.Subset.refl _, fun y hy => ?_⟩, ?_⟩
  · rw [Ledger.taken_map k same]; exact account.balance k
  · rw [ids]; exact account.once
  · refine confirmed_of_settled fun y hy => ?_
    obtain ⟨z, hz, rfl⟩ := List.mem_map.1 hy
    split
    · exact settled
    · exact account.settled z hz
  · obtain ⟨y, hy, hrender, hkey⟩ := account.named k ref hr
    refine ⟨_, List.mem_map_of_mem hy, ?_, ?_⟩
    · rw [(same y hy).1]; exact hrender
    · rw [Order.stockKey_row (same y hy).2]; exact hkey
  · obtain ⟨z, hz, rfl⟩ := List.mem_map.1 hy
    split
    · exact settled
    · exact account.settled z hz
  · exact ⟨_, List.mem_map_of_mem hy, (same y hy).1, (same y hy).2⟩
  · exact ⟨o, List.mem_map.2 ⟨x, hx, by simp [hid]⟩, rfl, rfl⟩

theorem insert {o : Order} {k : RowKey} (account : StockAccount seed l store) (settled : o.Settled l)
    (h : store.insertIngested o k = .ok (store', true)) :
    StockAccount seed l store' ∧ Retains l l store store' := by
  have h' := OrderStore.insertIngested_eq_ok h
  simp only [if_true] at h'
  obtain ⟨-, fresh, rfl⟩ := h'
  have unrecorded : o.id.render ∉ l.refs o.stockKey := by
    intro mem
    obtain ⟨x, hx, hrender, -⟩ := account.named _ _ mem
    exact fresh x hx (OrderId.render_injective hrender)
  have settled' : ∀ y ∈ store.orders ++ [o], y.Settled l := by
    intro y hy
    rcases List.mem_append.1 hy with hy | hy
    · exact account.settled y hy
    · rw [List.mem_singleton.1 hy]; exact settled
  refine ⟨⟨⟨fun k => ?_, account.nonneg, ?_, confirmed_of_settled settled'⟩,
    fun k ref hr => ?_, settled'⟩, fun _ => List.Subset.refl _, fun y hy => ?_⟩
  · rw [Ledger.taken_append_of_not_recorded k unrecorded]; exact account.balance k
  · rw [List.map_append, List.nodup_append]
    refine ⟨account.once, by simp, ?_⟩
    simp only [List.mem_map, List.mem_singleton]
    rintro _ ⟨x, hx, rfl⟩ _ ⟨_, rfl, rfl⟩
    exact fresh x hx
  · obtain ⟨y, hy, rest⟩ := account.named k ref hr
    exact ⟨y, List.mem_append_left _ hy, rest⟩
  · exact ⟨y, List.mem_append_left _ hy, rfl, rfl⟩

end StockAccount

namespace StepAccounted

open Pipeline

variable {p : Pipeline} {ctx : Context}

theorem load (account : StockAccount seed p.ledger p.orders) (id : OrderId) :
    StepAccounted seed p (runIn (Job.finalize (.load id)).advance ctx p) := by
  rw [Job.advance_load]
  refine of_frame account rfl rfl fun job hjob => ?_
  split at hjob
  · simp at hjob
  · simp at hjob
  · next o _ hget =>
    have mem : o ∈ p.orders.orders := List.mem_of_find?_eq_some (OrderStore.get_eq_ok.1 hget)
    split at hjob
    · simp at hjob
    · simp only [Job.after_inr, Option.some.injEq] at hjob
      subst hjob
      exact Job.Tracks.of_order (by split <;> rfl) ⟨o, mem, rfl, rfl⟩ (account.settled o mem)

theorem consume (account : StockAccount seed p.ledger p.orders) {o : Order}
    (tracks : (Job.finalize (.consume o)).Tracks p.ledger p.orders) :
    StepAccounted seed p (runIn (Job.finalize (.consume o)).advance ctx p) := by
  obtain ⟨stored, settled⟩ := tracks o rfl
  rw [Job.advance_consume]
  split
  · exact of_frame account rfl rfl (by simp)
  · next l out _ hc =>
    obtain ⟨account', grow, recorded⟩ := account.consume stored hc
    exact ⟨account', ⟨grow, fun x hx => ⟨x, hx, rfl, rfl⟩⟩, Job.forall_after_inr.2
      (Job.Tracks.of_order rfl (by simpa using stored) ⟨fun _ => rfl, fun _ => recorded⟩)⟩
  · exact of_frame account rfl rfl (Job.forall_after_inr.2 (Job.Tracks.of_order rfl stored settled))
  · exact of_frame account rfl rfl (by simp)

theorem of_save {o : Order} {r : Except PipelineError (JobResult ⊕ Job)}
    (account : StockAccount seed p.ledger p.orders) (settled : o.Settled p.ledger)
    (stored : ∃ x ∈ p.orders.orders, x.id = o.id ∧ x.row = o.row)
    (next : ∀ orders, p.orders.save o = .ok orders → ∀ job, Job.after r = some job →
      job.Tracks p.ledger orders) :
    StepAccounted seed p
      (match p.orders.save o with
        | .ok orders => (r, { p with orders })
        | .error e => (.error (PipelineError.ofStore e), p)) := by
  split
  · next orders hsave =>
    obtain ⟨account', keep, -⟩ := account.save settled stored hsave
    exact ⟨account', keep, next orders hsave⟩
  · exact of_frame account rfl rfl (by simp)

theorem hold (account : StockAccount seed p.ledger p.orders) {o : Order} {a q : Int}
    (tracks : (Job.finalize (.hold o a q)).Tracks p.ledger p.orders) :
    StepAccounted seed p (runIn (Job.finalize (.hold o a q)).advance ctx p) := by
  obtain ⟨stored, settled⟩ := tracks o rfl
  rw [Job.advance_hold]
  split
  · exact of_frame account rfl rfl (by simp)
  · exact of_frame account rfl rfl (by simp)
  · next held _ hheld =>
    obtain ⟨-, rfl⟩ := Order.hold_eq_ok hheld
    exact of_save account ⟨settled.1, settled.2⟩ stored (by simp)

theorem settle (account : StockAccount seed p.ledger p.orders) {o : Order} {remaining : Option Int}
    (tracks : (Job.finalize (.settle o remaining)).Tracks p.ledger p.orders) :
    StepAccounted seed p (runIn (Job.finalize (.settle o remaining)).advance ctx p) := by
  obtain ⟨stored, settled⟩ := tracks o rfl
  rw [Job.advance_settle]
  split
  · exact of_frame account rfl rfl (Job.forall_after_inr.2 (Job.Tracks.of_order rfl stored settled))
  · split
    · exact of_frame account rfl rfl (by simp)
    · exact of_frame account rfl rfl (by simp)
    · next confirmed hconfirm _ =>
      obtain ⟨consumed, status, hid, hrow, progress⟩ := Order.confirm_eq_ok hconfirm
      have key : confirmed.stockKey = o.stockKey := Order.stockKey_row hrow
      have settled' : confirmed.Settled p.ledger :=
        ⟨fun _ => progress ▸ consumed,
          fun _ => by rw [hid, key]; exact settled.recorded_of_consumed consumed⟩
      obtain ⟨x, hx, hxid, hxrow⟩ := stored
      refine of_save account settled' ⟨x, hx, hxid.trans hid.symm, hxrow.trans hrow.symm⟩
        fun orders hsave => Job.forall_after_inr.2 (Job.Tracks.of_order rfl ?_ settled')
      obtain ⟨-, -, saved⟩ := account.save settled' ⟨x, hx, hxid.trans hid.symm,
        hxrow.trans hrow.symm⟩ hsave
      exact saved

theorem record (account : StockAccount seed p.ledger p.orders) {o : Order}
    {remaining : Option Int} (tracks : (Job.finalize (.record o remaining)).Tracks p.ledger p.orders) :
    StepAccounted seed p (runIn (Job.finalize (.record o remaining)).advance ctx p) := by
  obtain ⟨stored, settled⟩ := tracks o rfl
  rw [Job.advance_record]
  exact of_save account ⟨settled.1, settled.2⟩ (by simpa using stored) (by simp)

theorem of_reading (account : StockAccount seed p.ledger p.orders) {st : FinalizeStage}
    {out : Except PipelineError (JobResult ⊕ Job) × Pipeline}
    (tracks : (Job.finalize st).Tracks p.ledger p.orders) (ledger : out.2.ledger = p.ledger)
    (orders : out.2.orders = p.orders)
    (same : ∀ job, Job.after out.1 = some job → ∃ st', job = .finalize st' ∧ st'.order? = st.order?) :
    StepAccounted seed p out := by
  refine of_frame account ledger orders fun job hjob => ?_
  obtain ⟨st', rfl, hst'⟩ := same job hjob
  intro o ho
  exact tracks o (hst' ▸ ho)

theorem finalize (account : StockAccount seed p.ledger p.orders) {st : FinalizeStage}
    (tracks : (Job.finalize st).Tracks p.ledger p.orders) :
    StepAccounted seed p (runIn (Job.finalize st).advance ctx p) := by
  cases st with
  | load id => exact load account id
  | lookup o =>
    refine of_reading account tracks (by rw [Job.advance_lookup]) (by rw [Job.advance_lookup]) ?_
    intro job hjob
    rw [Job.advance_lookup] at hjob
    split at hjob <;> simp at hjob
    exact ⟨_, hjob.symm, rfl⟩
  | consume o => exact consume account tracks
  | hold o a q => exact hold account tracks
  | settle o remaining => exact settle account tracks
  | tell o remaining =>
    refine of_reading account tracks (by rw [Job.advance_tell]; split <;> rfl)
      (by rw [Job.advance_tell]; split <;> rfl) ?_
    intro job hjob
    rw [Job.advance_tell] at hjob
    split at hjob
    · simp at hjob
    · split at hjob <;> simp at hjob
      exact ⟨_, hjob.symm, rfl⟩
  | announce o current remaining =>
    refine of_reading account tracks (by rw [Job.advance_announce]) (by rw [Job.advance_announce]) ?_
    intro job hjob
    rw [Job.advance_announce] at hjob
    simp only [Job.after_inr, Option.some.injEq] at hjob
    exact ⟨_, hjob.symm, rfl⟩
  | record o remaining => exact record account tracks

theorem settled_place (id : OrderId) (entry : NewOrder) (now : Instant) :
    (Order.place id entry now).Settled l :=
  ⟨fun h => by simp [Order.place] at h, fun h => by simp [Order.place] at h⟩

theorem ingest (account : StockAccount seed p.ledger p.orders) (st : BatchStage) :
    StepAccounted seed p (runIn (Job.ingest st).advance ctx p) := by
  cases st with
  | row b pending =>
    cases pending with
    | nil =>
      rw [Job.advance_row_nil]
      exact of_frame account rfl rfl (by split <;> simp [Job.Tracks])
    | cons raw rest =>
      rw [Job.advance_row]
      exact of_frame account rfl rfl (by simp [Job.Tracks])
  | hub b raw entry rest =>
    rw [Job.advance_hub]
    exact of_frame account rfl rfl (by simp [Job.Tracks])
  | claim b raw entry rest =>
    rw [Job.advance_claim]
    dsimp only
    split
    · exact of_frame account rfl rfl (by simp [Job.Tracks])
    · exact of_frame account rfl rfl (by simp [Job.Tracks])
    · next orders hins =>
      obtain ⟨account', keep⟩ := account.insert (settled_place _ entry ctx.now) hins
      exact ⟨account', keep, by simp [Job.Tracks]⟩
  | announce b raw order rest =>
    rw [Job.advance_announce_created]
    exact of_frame account rfl rfl (by simp [Job.Tracks])
  | tell b raw order rest =>
    rw [Job.advance_tell_created]
    exact of_frame account rfl rfl (by simp [Job.Tracks])
  | quarantine b =>
    rw [Job.advance_quarantine]
    exact of_frame account rfl rfl (by simp)

theorem fetch (account : StockAccount seed p.ledger p.orders) (messageId : String)
    (task : IngestionTask) : StepAccounted seed p (runIn (Job.fetch messageId task).advance ctx p) := by
  rw [Job.advance_fetch]
  refine of_frame account rfl rfl fun job hjob => ?_
  repeat' split at hjob
  all_goals simp at hjob
  subst hjob
  trivial

theorem job (account : StockAccount seed p.ledger p.orders) {job : Job}
    (tracks : job.Tracks p.ledger p.orders) :
    StepAccounted seed p (runIn job.advance ctx p) := by
  cases job with
  | finalize st => exact finalize account tracks
  | fetch messageId task => exact fetch account messageId task
  | ingest st => exact ingest account st

end StepAccounted

/-- The account of a system: of its stores, and of the order each running job tracks. -/
def System.Accounted (seed : Ledger) (s : System) : Prop :=
  StockAccount seed s.pipeline.ledger s.pipeline.orders ∧
    ∀ j job, s.jobs j = some job → job.Tracks s.pipeline.ledger s.pipeline.orders

theorem System.Accounted.step {w : World} (keeps : w.KeepsStock) {s s' : System} {ℓ : Label}
    (step : Step w s ℓ s') (accounted : s.Accounted seed) : s'.Accounted seed := by
  obtain ⟨account, jobs⟩ := accounted
  cases step with
  | @start j started idle initial admitted =>
    refine ⟨account, fun i job hi => ?_⟩
    simp only [System.jobs_setJob, System.pipeline_setJob] at hi ⊢
    split at hi
    · cases hi
      cases started with
      | finalize st => cases st <;> simp_all [Job.Initial, Job.Tracks, FinalizeStage.order?]
      | fetch => trivial
      | ingest => simp [Job.Initial] at initial
    · exact jobs i job hi
  | @step j running ctx hrunning =>
    have stepped : StepAccounted seed s.pipeline (Pipeline.runIn running.advance ctx s.pipeline) :=
      StepAccounted.job account (jobs _ _ hrunning)
    obtain ⟨account', keep, next⟩ := stepped
    refine ⟨account', fun i job hi => ?_⟩
    simp only [System.jobs_setJob] at hi
    split at hi
    · exact next job hi
    · exact (jobs i job hi).mono keep
  | @fail j failing r hrunning failed =>
    refine ⟨account, fun i job hi => ?_⟩
    simp only [System.jobs_setJob, System.pipeline_setJob] at hi ⊢
    split at hi
    · -- a failed call ends the job, or rejects a row and goes on placing rows
      obtain ⟨-, -, -, -, -, -, rfl⟩ := Job.after_of_interrupted failed hi
      trivial
    · exact jobs i job hi
  | env around =>
    obtain ⟨ledger, orders⟩ := keeps _ _ around
    refine ⟨?_, fun i job hi => ?_⟩
    · simp only [ledger, orders]; exact account
    · simp only [ledger, orders]; exact jobs i job hi

theorem System.Accounted.init {p : Pipeline} (empty : p.orders = {}) (seeded : p.ledger.Seeded) :
    (System.init p).Accounted p.ledger := by
  obtain ⟨unrecorded, nonneg⟩ := seeded.fresh
  refine ⟨⟨⟨fun k => ?_, nonneg, by simp [System.init, empty], by simp [System.init, empty]⟩,
    fun k ref hr => ?_, by simp [System.init, empty]⟩, fun j job hj => by simp [System.init] at hj⟩
  · have none_taken : p.ledger.taken p.orders.orders k = 0 := by simp [Ledger.taken, empty]
    simp [System.init, none_taken]
  · simp [System.init, unrecorded k] at hr

/-- No stock is oversold and none is taken twice. Start a pipeline with no orders and a ledger
stocked by upserts, and let any jobs run, interleaved in any order and failing at any call,
while the surroundings touch neither the ledger nor the orders. At the end of every execution,
so at every reachable state, each key holds its seed less the quantities of the stored orders
whose consumption the ledger records against that key, each order counted once, and no key
holds less than nothing; and every `new_order` has its stock taken, recorded under its own
identity against its own key. -/
theorem stock_balanced {w : World} (keeps : w.KeepsStock) {p : Pipeline} (empty : p.orders = {})
    (seeded : p.ledger.Seeded) {ts : List Transition} {s : System}
    (run : Execution w (System.init p) ts s) :
    StockBalanced p.ledger s.pipeline.ledger s.pipeline.orders :=
  ((Execution.preserves (fun step accounted => accounted.step keeps step) run
    (System.Accounted.init empty seeded)).2.1).toStockBalanced

/-- A ledger stocked with five units of one key, an upload whose one data record orders two of
them, its processing and then the finalization of the order it created: the key is left with
three units and the order is `new_order`, and the balance holds. -/
theorem stock_balanced_after_an_upload_and_its_finalization :
    let key : InventoryKey :=
      { tenant := ⟨"t1", Eq.refl "t1", Eq.refl false⟩
        seller := ⟨"s1", Eq.refl "s1", Eq.refl false⟩
        hub := ⟨"H1", Eq.refl "H1", Eq.refl false⟩
        sku := ⟨"K1", Eq.refl "K1", Eq.refl false⟩ }
    let seed : Ledger := ⟨[{ record := ⟨default, key, 5, Instant.epoch⟩, consumed := [] }]⟩
    let bytes := "tenant_id,seller_id,hub_id,sku_id,quantity\nt1,s1,H1,K1,2\n".toUTF8.toList
    let p : Pipeline :=
      { bucket := "orders"
        deadline := ⟨5000⟩
        webhookRetry := ⟨1, 0⟩
        objects := .memory ⟨[(("orders", "in/a.csv"), bytes)]⟩
        queue := WorkQueue.empty 5
        bus := {}
        ledger := seed }
    let ctx : Context := ⟨Instant.epoch, 0, Uuid.v7 0⟩
    let run := (System.init p).play
      [.start 0 (.fetch "m1" ⟨"orders", "in/a.csv"⟩), .step 0 ctx, .step 0 ctx, .step 0 ctx,
        .step 0 ctx, .step 0 ctx, .step 0 ctx, .step 0 ctx,
        .start 1 (.finalize (.load ⟨Uuid.v7 0 0⟩)), .step 1 ctx, .step 1 ctx, .step 1 ctx,
        .step 1 ctx, .step 1 ctx, .step 1 ctx, .step 1 ctx]
    World.KeepsStock ⟨fun _ => True, fun p q => q = p⟩ ∧ p.orders = {} ∧ p.ledger.Seeded ∧
      Execution ⟨fun _ => True, fun p q => q = p⟩ (System.init p) run.1 run.2 ∧
      run.1.length = 16 ∧ run.2.pipeline.ledger.stock? key = some 3 ∧
      (run.2.pipeline.orders.get ⟨Uuid.v7 0 0⟩).toOption.map (·.status) = some .newOrder ∧
      StockBalanced p.ledger run.2.pipeline.ledger run.2.pipeline.orders := by
  intro key seed bytes p ctx run
  have keeps : World.KeepsStock ⟨fun _ => True, fun p q => q = p⟩ := by
    intro p q h
    subst h
    exact ⟨rfl, rfl⟩
  have seeded : p.ledger.Seeded :=
    .upsert .empty (by decide +kernel :
      ({} : Ledger).upsert key 5 default Instant.epoch = .ok (seed, ⟨default, key, 5, Instant.epoch⟩))
  have execution : Execution ⟨fun _ => True, fun p q => q = p⟩ (System.init p) run.1 run.2 :=
    Execution.play (by simp [Move.Allowed, Job.Initial]) _
  have played : run.1.length = 16 ∧ run.2.pipeline.ledger.stock? key = some 3 ∧
      (run.2.pipeline.orders.get ⟨Uuid.v7 0 0⟩).toOption.map (·.status) = some .newOrder := by
    decide +kernel
  exact ⟨keeps, rfl, seeded, execution, played.1, played.2.1, played.2.2,
    stock_balanced keeps rfl seeded execution⟩

end Fulfilment
