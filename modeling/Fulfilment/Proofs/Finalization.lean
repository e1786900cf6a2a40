import Mathlib
import Fulfilment.Proofs.Identity
import Fulfilment.Proofs.Ledger
import Fulfilment.Proofs.Orders
import Fulfilment.Proofs.Stages
import Fulfilment.Proofs.Executions

/-!
Finalization resumes where it stopped and never does a step twice, across any number of runs on
one order, each failing at any call, with other jobs and restocks in between. The proof follows
the stored order and the run in progress (`StoredSound`, `StageSound`).
-/

namespace Fulfilment

/-- The surroundings of the finalizations of order `id`: they may restock the ledger by upserts,
and leave the order stored under `id` alone. -/
def World.Restocks (w : World) (id : OrderId) : Prop :=
  ∀ p q, w.env p q → q.orders.get id = p.orders.get id ∧
    (q.ledger = p.ledger ∨ ∃ k n fresh now r, p.ledger.upsert k n fresh now = .ok (q.ledger, r))

def Label.orderId? : Label → Option OrderId
  | .step _ (.finalize st) _ | .fail _ (.finalize st) _ => some st.orderId
  | _ => none

def Label.result? : Label → Option (Except PipelineError (JobResult ⊕ Job))
  | .step _ _ r | .fail _ _ r => some r
  | _ => none

def System.Finalizing (s : System) (id : OrderId) (j : Nat) : Prop :=
  ∃ st, s.jobs j = some (.finalize st) ∧ st.orderId = id

/-- At most one job finalizes the order of identity `id`: its runs do not overlap. -/
def System.SoleRun (s : System) (id : OrderId) : Prop :=
  ∀ i j, s.Finalizing id i → s.Finalizing id j → i = j

/-- `l'` is `l` after the stock of order `o` was taken for the first time: its key lost the
order's quantity and records the order's identity, and nothing else changed. -/
structure Ledger.TakesFor (o : Order) (l l' : Ledger) : Prop where
  fresh : o.id.render ∉ l.refs o.stockKey
  stock : ∀ k, l'.stock? k = if k = o.stockKey then (l.stock? k).map (· - o.quantity.val)
    else l.stock? k
  refs : ∀ k, l'.refs k = if k = o.stockKey then l.refs k ++ [o.id.render] else l.refs k

def Ledger.Took (l : Ledger) (o : Order) : Prop := o.id.render ∈ l.refs o.stockKey

/-- What the finalizations of order `o` guarantee along the transitions `ts`. -/
structure FinalizesSafely (o : Order) (ts : List Transition) : Prop where
  /-- The ledger changes in at most one step of a finalization of the order... -/
  takes_once : ts.countP (fun t => t.label.orderId? = some o.id ∧
    t.after.pipeline.ledger ≠ t.before.pipeline.ledger) ≤ 1
  /-- ...and there it takes the order's quantity from its key, under its identity. -/
  takes_quantity : ∀ t ∈ ts, t.label.orderId? = some o.id →
    t.after.pipeline.ledger ≠ t.before.pipeline.ledger →
      t.before.pipeline.ledger.TakesFor o t.after.pipeline.ledger
  /-- The order stays stored, with its row. -/
  stored : ∀ t ∈ ts, ∃ x, t.after.pipeline.orders.get o.id = .ok x ∧ x.row = o.row
  /-- It is `new_order` only with its stock taken... -/
  consumed_of_confirmed : ∀ t ∈ ts, ∀ x, t.after.pipeline.orders.get o.id = .ok x →
    x.status = .newOrder → x.progress.inventoryConsumed = true
  /-- ...and once `new_order`, it stays so. -/
  stays_confirmed : ∀ t ∈ ts, ∀ x y, t.before.pipeline.orders.get o.id = .ok x →
    t.after.pipeline.orders.get o.id = .ok y → x.status = .newOrder → y.status = .newOrder
  /-- It is marked as told only once `new_order`... -/
  confirmed_of_notified : ∀ t ∈ ts, ∀ x, t.after.pipeline.orders.get o.id = .ok x →
    x.progress.notified = true → x.status = .newOrder
  /-- ...and from then on a finalization of it changes nothing and ends answering that it is
  already finalized, or failing. -/
  finalized : ∀ t ∈ ts, ∀ x, t.before.pipeline.orders.get o.id = .ok x →
    x.progress.notified = true → t.label.orderId? = some o.id →
      t.after.pipeline = t.before.pipeline ∧
        (t.label.result? = some (.ok (.inl (.finalized .alreadyFinalized))) ∨
          ∃ e, t.label.result? = some (.error e))
  /-- Once its stock is taken, no finalization of it takes stock or keeps it on hold. -/
  resumes : ∀ t ∈ ts, t.before.pipeline.ledger.Took o → t.label.orderId? = some o.id →
    t.after.pipeline.ledger = t.before.pipeline.ledger ∧
      ∀ a b, t.label.result? ≠ some (.ok (.inl (.finalized (.onHold a b))))
  /-- No other step records or drops a consumption under its identity. -/
  recorded_by_own : ∀ t ∈ ts, t.label.orderId? ≠ some o.id →
    (t.after.pipeline.ledger.Took o ↔ t.before.pipeline.ledger.Took o)

/-- The order stored under `o`'s identity as the finalizations leave it, where `took` says
whether the ledger records its consumption: the row unchanged, `new_order` only with its stock
taken, its stock taken only when recorded, and told only once `new_order`. -/
structure StoredSound (o : Order) (took : Prop) (x : Order) : Prop where
  id : x.id = o.id
  row : x.row = o.row
  consumed_of_confirmed : x.status = .newOrder → x.progress.inventoryConsumed = true
  took_of_consumed : x.progress.inventoryConsumed = true → took
  confirmed_of_notified : x.progress.notified = true → x.status = .newOrder

/-- Where the run of `o` in progress stands against the stored order `x`. Before its stock is
taken, the run holds the stored order itself, still on hold with nothing done; from then on it
holds a copy with the stock taken, and the stored order is not yet marked as told. -/
def StageSound (o : Order) (took : Prop) (x : Order) : FinalizeStage → Prop
  | .load _ => True
  | .lookup o' | .consume o' => o' = x ∧ x.status = .onHold ∧ x.progress = {}
  | .hold o' .. => o' = x ∧ x.status = .onHold ∧ x.progress = {} ∧ ¬took
  | .settle o' _ => o'.id = o.id ∧ o'.row = o.row ∧ o'.progress = { inventoryConsumed := true } ∧
      took ∧ x.progress.notified = false
  | .tell o' _ | .announce o' .. | .record o' _ => o'.id = o.id ∧ o'.row = o.row ∧
      o'.status = .newOrder ∧ o'.progress = { inventoryConsumed := true } ∧ took ∧
      x.progress.notified = false

/-- What a step of the run of `o` leaves, from pipeline `p` whose stored order is `x`: the
stored order and the run sound, new_order kept, the ledger unchanged or the order's stock taken,
no hold once taken, and nothing done once the order was told. -/
structure OwnStep (o x : Order) (p : Pipeline)
    (out : Except PipelineError (JobResult ⊕ Job) × Pipeline) : Prop where
  sound : ∃ y, out.2.orders.get o.id = .ok y ∧ StoredSound o (out.2.ledger.Took o) y ∧
    (x.status = .newOrder → y.status = .newOrder) ∧
    ∀ job, Job.after out.1 = some job →
      ∃ st, job = .finalize st ∧ st.orderId = o.id ∧ StageSound o (out.2.ledger.Took o) y st
  ledger : out.2.ledger = p.ledger ∨ p.ledger.TakesFor o out.2.ledger
  no_hold : p.ledger.Took o → ∀ a b, out.1 ≠ .ok (.inl (.finalized (.onHold a b)))
  finalized : x.progress.notified = true → out.2 = p ∧
    (out.1 = .ok (.inl (.finalized .alreadyFinalized)) ∨ ∃ e, out.1 = .error e)

theorem Progress.eq_of {q : Progress} {a b : Bool} (consumed : q.inventoryConsumed = a)
    (notified : q.notified = b) : q = { inventoryConsumed := a, notified := b } := by
  cases q
  simp_all

namespace OwnStep

open Pipeline

variable {o x : Order} {p : Pipeline} {ctx : Context}

theorem of_frame {out : Except PipelineError (JobResult ⊕ Job) × Pipeline}
    (hx : p.orders.get o.id = .ok x) (sound : StoredSound o (p.ledger.Took o) x)
    (orders : out.2.orders = p.orders) (ledger : out.2.ledger = p.ledger)
    (next : ∀ job, Job.after out.1 = some job →
      ∃ st, job = .finalize st ∧ st.orderId = o.id ∧ StageSound o (p.ledger.Took o) x st)
    (no_hold : ∀ a b, out.1 ≠ .ok (.inl (.finalized (.onHold a b))))
    (finalized : x.progress.notified = true → out.2 = p ∧
      (out.1 = .ok (.inl (.finalized .alreadyFinalized)) ∨ ∃ e, out.1 = .error e)) :
    OwnStep o x p out :=
  ⟨⟨x, by rw [orders]; exact hx, by rw [ledger]; exact sound, id, by rw [ledger]; exact next⟩,
    .inl ledger, fun _ => no_hold, finalized⟩

theorem of_error (hx : p.orders.get o.id = .ok x) (sound : StoredSound o (p.ledger.Took o) x)
    (e : PipelineError) : OwnStep o x p (.error e, p) :=
  of_frame hx sound rfl rfl (by simp) (by simp) fun _ => ⟨rfl, .inr ⟨e, rfl⟩⟩

theorem load (hx : p.orders.get o.id = .ok x) (sound : StoredSound o (p.ledger.Took o) x) :
    OwnStep o x p (runIn (Job.finalize (.load o.id)).advance ctx p) := by
  rw [Job.advance_load, hx]
  cases p.deadline.check 0 "load order" with
  | error e => exact of_error hx sound e
  | ok u =>
    by_cases done : x.status = .newOrder ∧ x.progress.notified = true
    · simp only [done, and_self, if_true]
      exact of_frame hx sound rfl rfl (by simp) (by simp) fun _ => ⟨rfl, .inl rfl⟩
    · -- a run that goes on finds the order not yet told
      have untold : x.progress.notified = false := by
        cases h : x.progress.notified
        · rfl
        · exact absurd ⟨sound.confirmed_of_notified h, h⟩ done
      simp only [done, if_false]
      refine of_frame hx sound rfl rfl
        (Job.forall_after_inr.2 ⟨_, rfl, by split <;> exact sound.id, ?_⟩) (by simp) (by simp [untold])
      split
      · next consumed =>
        exact ⟨sound.id, sound.row, Progress.eq_of consumed untold,
          sound.took_of_consumed consumed, untold⟩
      · next consumed =>
        simp only [Bool.not_eq_true] at consumed
        have held : x.status = .onHold := by
          cases h : x.status
          · rfl
          · simp [sound.consumed_of_confirmed h] at consumed
        exact ⟨rfl, held, Progress.eq_of consumed untold⟩

theorem lookup (hx : p.orders.get o.id = .ok x) (sound : StoredSound o (p.ledger.Took o) x)
    {o' : Order} (stage : StageSound o (p.ledger.Took o) x (.lookup o')) :
    OwnStep o x p (runIn (Job.finalize (.lookup o')).advance ctx p) := by
  obtain ⟨rfl, held, empty⟩ := stage
  have untold : o'.progress.notified = false := by rw [empty]
  rw [Job.advance_lookup]
  refine of_frame hx sound rfl rfl ?_ (fun a b => by split <;> simp) (by simp [untold])
  intro job hjob
  split at hjob
  · simp at hjob
  · simp at hjob
  · simp only [Job.after_inr, Option.some.injEq] at hjob
    subst hjob
    exact ⟨_, rfl, sound.id, rfl, held, empty⟩

theorem took_of_consume {took : Prop} {l l' : Ledger} {now : Instant} {out : ConsumeOutcome}
    (sound : StoredSound o took x) (h : l.consume x.reservation now = .ok (l', out)) :
    l'.Took o ∧ (l' = l ∨ l.TakesFor o l') := by
  have key : x.reservation.key = o.stockKey := Order.stockKey_row sound.row
  have ref : x.reservation.reference = some o.id.render := by simp [Order.reservation, sound.id]
  have qty : x.reservation.quantity = o.quantity.val := by
    simp [Order.reservation, Order.quantity_of_row sound.row]
  cases replayed : out.replayed
  case true =>
    obtain rfl := Ledger.consume_replayed_eq h replayed
    obtain ⟨r, hr, mem⟩ := (Ledger.consume_replayed h).1 replayed
    rw [ref, Option.some.injEq] at hr
    subst hr
    exact ⟨by rw [Ledger.Took, ← key]; exact mem, .inl rfl⟩
  case false =>
    have fresh : o.id.render ∉ l.refs o.stockKey := by
      intro mem
      have := (Ledger.consume_replayed h).2 ⟨_, ref, key ▸ mem⟩
      simp [replayed] at this
    have refs' : ∀ k, l'.refs k = if k = o.stockKey then l.refs k ++ [o.id.render] else l.refs k := by
      intro k
      rw [Ledger.refs_consume h, key, ref, replayed]
      simp
    refine ⟨by rw [Ledger.Took, refs' o.stockKey]; simp, .inr ⟨fresh, fun k => ?_, refs'⟩⟩
    rw [Ledger.stock?_consume h, key, qty, replayed]
    simp

theorem consume (hx : p.orders.get o.id = .ok x) (sound : StoredSound o (p.ledger.Took o) x)
    {o' : Order} (stage : StageSound o (p.ledger.Took o) x (.consume o')) :
    OwnStep o x p (runIn (Job.finalize (.consume o')).advance ctx p) := by
  obtain ⟨rfl, held, empty⟩ := stage
  have untold : o'.progress.notified = false := by rw [empty]
  have unconsumed : o'.progress.inventoryConsumed = false := by rw [empty]
  rw [Job.advance_consume]
  split
  · exact of_error hx sound _
  · next l out _ hc =>
    obtain ⟨took, ledger⟩ := took_of_consume sound hc
    refine ⟨⟨o', hx, ⟨sound.id, sound.row, sound.consumed_of_confirmed, fun _ => took,
      sound.confirmed_of_notified⟩, id, Job.forall_after_inr.2
        ⟨_, rfl, sound.id, sound.id, sound.row, ?_, took, untold⟩⟩, ledger, by simp, by simp [untold]⟩
    simp [empty]
  · next a b _ hc =>
    obtain ⟨-, -, -, unrecorded⟩ := Ledger.consume_conflict hc
    refine of_frame hx sound rfl rfl
      (Job.forall_after_inr.2 ⟨_, rfl, sound.id, rfl, held, empty, fun took => ?_⟩) (by simp)
      (by simp [untold])
    exact unrecorded o.id.render (by simp [Order.reservation, sound.id])
      (by rw [show o'.reservation.key = o.stockKey from Order.stockKey_row sound.row]; exact took)
  · exact of_error hx sound _

theorem of_save {y : Order} {r : Except PipelineError (JobResult ⊕ Job)}
    (hx : p.orders.get o.id = .ok x) (sound : StoredSound o (p.ledger.Took o) x)
    (sound' : StoredSound o (p.ledger.Took o) y) (keep : x.status = .newOrder → y.status = .newOrder)
    (untold : x.progress.notified = false)
    (next : ∀ job, Job.after r = some job →
      ∃ st, job = .finalize st ∧ st.orderId = o.id ∧ StageSound o (p.ledger.Took o) y st)
    (no_hold : p.ledger.Took o → ∀ a b, r ≠ .ok (.inl (.finalized (.onHold a b)))) :
    OwnStep o x p
      (match p.orders.save y with
        | .ok orders => (r, { p with orders })
        | .error e => (.error (PipelineError.ofStore e), p)) := by
  split
  · next orders hsave =>
    have hy : orders.get o.id = .ok y := sound'.id ▸ OrderStore.get_save_self hsave
    exact ⟨⟨y, hy, sound', keep, next⟩, .inl rfl, no_hold, by simp [untold]⟩
  · exact of_error hx sound _

theorem hold (hx : p.orders.get o.id = .ok x) (sound : StoredSound o (p.ledger.Took o) x)
    {o' : Order} {a b : Int} (stage : StageSound o (p.ledger.Took o) x (.hold o' a b)) :
    OwnStep o x p (runIn (Job.finalize (.hold o' a b)).advance ctx p) := by
  obtain ⟨rfl, held, empty, untaken⟩ := stage
  have untold : o'.progress.notified = false := by rw [empty]
  rw [Job.advance_hold]
  split
  · exact of_error hx sound _
  · exact of_error hx sound _
  · next kept _ hkept =>
    obtain ⟨-, rfl⟩ := Order.hold_eq_ok hkept
    refine of_save hx sound ⟨sound.id, sound.row, fun h => by simp [held] at h,
      fun h => by simp [empty] at h, fun h => by simp [empty] at h⟩
      (fun h => by simp [held] at h) untold (by simp) (fun took => absurd took untaken)

theorem settle (hx : p.orders.get o.id = .ok x) (sound : StoredSound o (p.ledger.Took o) x)
    {o' : Order} {remaining : Option Int} (stage : StageSound o (p.ledger.Took o) x (.settle o' remaining)) :
    OwnStep o x p (runIn (Job.finalize (.settle o' remaining)).advance ctx p) := by
  obtain ⟨hid, hrow, progress, took, untold⟩ := stage
  rw [Job.advance_settle]
  split
  · next confirmed =>
    exact of_frame hx sound rfl rfl
      (Job.forall_after_inr.2 ⟨_, rfl, hid, hid, hrow, confirmed, progress, took, untold⟩) (by simp)
      (by simp [untold])
  · split
    · exact of_error hx sound _
    · exact of_error hx sound _
    · next c hc _ =>
      obtain ⟨-, status, cid, crow, cprogress⟩ := Order.confirm_eq_ok hc
      refine of_save hx sound ⟨cid.trans hid, crow.trans hrow, fun _ => by simp [cprogress, progress],
        fun _ => took, fun _ => status⟩ (fun _ => status) untold
        (Job.forall_after_inr.2 ⟨_, rfl, cid.trans hid, cid.trans hid, crow.trans hrow, status,
          cprogress.trans progress, took, ?_⟩) (by simp)
      simp [cprogress, progress]

theorem tell (hx : p.orders.get o.id = .ok x) (sound : StoredSound o (p.ledger.Took o) x)
    {o' : Order} {remaining : Option Int} (stage : StageSound o (p.ledger.Took o) x (.tell o' remaining)) :
    OwnStep o x p (runIn (Job.finalize (.tell o' remaining)).advance ctx p) := by
  obtain ⟨hid, hrow, status, progress, took, untold⟩ := stage
  have unnotified : o'.progress.notified = false := by rw [progress]
  rw [Job.advance_tell, if_neg (by simp [unnotified])]
  refine of_frame hx sound rfl rfl ?_ (fun a b => by split <;> simp) (by simp [untold])
  intro job hjob
  split at hjob
  · simp at hjob
  · simp at hjob
  · simp only [Job.after_inr, Option.some.injEq] at hjob
    subst hjob
    exact ⟨_, rfl, hid, hid, hrow, status, progress, took, untold⟩

theorem announce (hx : p.orders.get o.id = .ok x) (sound : StoredSound o (p.ledger.Took o) x)
    {o' current : Order} {remaining : Option Int}
    (stage : StageSound o (p.ledger.Took o) x (.announce o' current remaining)) :
    OwnStep o x p (runIn (Job.finalize (.announce o' current remaining)).advance ctx p) := by
  obtain ⟨hid, hrow, status, progress, took, untold⟩ := stage
  rw [Job.advance_announce]
  exact of_frame hx sound rfl rfl
    (Job.forall_after_inr.2 ⟨_, rfl, hid, hid, hrow, status, progress, took, untold⟩) (by simp)
    (by simp [untold])

theorem record (hx : p.orders.get o.id = .ok x) (sound : StoredSound o (p.ledger.Took o) x)
    {o' : Order} {remaining : Option Int} (stage : StageSound o (p.ledger.Took o) x (.record o' remaining)) :
    OwnStep o x p (runIn (Job.finalize (.record o' remaining)).advance ctx p) := by
  obtain ⟨hid, hrow, status, progress, took, untold⟩ := stage
  rw [Job.advance_record]
  exact of_save hx sound ⟨by simpa using hid, by simpa using hrow,
    fun _ => by simp [progress], fun _ => took, fun _ => by simpa using status⟩
    (fun _ => by simpa using status) untold (by simp) (by simp)

theorem of_stage (hx : p.orders.get o.id = .ok x) (sound : StoredSound o (p.ledger.Took o) x)
    {st : FinalizeStage} (hst : st.orderId = o.id) (stage : StageSound o (p.ledger.Took o) x st) :
    OwnStep o x p (runIn (Job.finalize st).advance ctx p) := by
  cases st with
  | load id =>
    obtain rfl : id = o.id := hst
    exact load hx sound
  | lookup => exact lookup hx sound stage
  | consume => exact consume hx sound stage
  | hold => exact hold hx sound stage
  | settle => exact settle hx sound stage
  | tell => exact tell hx sound stage
  | announce => exact announce hx sound stage
  | record => exact record hx sound stage

end OwnStep

namespace Job

open Pipeline

variable {ctx : Context} {p : Pipeline}

theorem orderId_after (st : FinalizeStage) {job : Job}
    (h : after (runIn (finalize st).advance ctx p).1 = some job) :
    ∃ st', job = .finalize st' ∧ st'.orderId = st.orderId := by
  cases st with
  | load id =>
    rw [advance_load] at h
    dsimp only at h
    split at h
    · simp at h
    · simp at h
    · next x hget =>
      have hid := OrderStore.id_of_get hget
      split_ifs at h <;> simp only [after_inl, after_inr, Option.some.injEq, reduceCtorEq] at h
      all_goals exact ⟨_, h.symm, hid⟩
  | lookup o =>
    rw [advance_lookup] at h
    dsimp only at h
    split at h <;> simp only [after_error, after_inr, Option.some.injEq, reduceCtorEq] at h
    exact ⟨_, h.symm, rfl⟩
  | consume o =>
    rw [advance_consume] at h
    split at h <;> simp only [after_error, after_inr, Option.some.injEq, reduceCtorEq] at h
    all_goals exact ⟨_, h.symm, rfl⟩
  | hold o a b =>
    rw [advance_hold] at h
    repeat' split at h
    all_goals simp at h
  | settle o remaining =>
    rw [advance_settle] at h
    split at h
    · simp only [after_inr, Option.some.injEq] at h
      exact ⟨_, h.symm, rfl⟩
    · split at h
      · simp at h
      · simp at h
      · next c hc _ =>
        split at h <;> simp only [after_error, after_inr, Option.some.injEq, reduceCtorEq] at h
        exact ⟨_, h.symm, (Order.confirm_eq_ok hc).2.2.1⟩
  | tell o remaining =>
    rw [advance_tell] at h
    split at h
    · simp at h
    · dsimp only at h
      split at h <;> simp only [after_error, after_inr, Option.some.injEq, reduceCtorEq] at h
      exact ⟨_, h.symm, rfl⟩
  | announce o current remaining =>
    rw [advance_announce] at h
    simp only [after_inr, Option.some.injEq] at h
    exact ⟨_, h.symm, rfl⟩
  | record o remaining =>
    rw [advance_record] at h
    split at h <;> simp at h

end Job

/-- What a step of any job but a finalization of `o` leaves, from pipeline `p` to `p'`: the
order stored under `o`'s identity where it was, and the consumption of `o` recorded exactly when
it was. -/
structure QuietStep (o : Order) (p p' : Pipeline) : Prop where
  orders : ∀ x, p.orders.get o.id = .ok x → p'.orders.get o.id = .ok x
  took : p'.ledger.Took o ↔ p.ledger.Took o

namespace QuietStep

open Pipeline

variable {o : Order} {p : Pipeline} {ctx : Context}

theorem of_frame {p' : Pipeline} (orders : p'.orders = p.orders) (ledger : p'.ledger = p.ledger) :
    QuietStep o p p' :=
  ⟨fun _ hx => orders ▸ hx, by rw [ledger]⟩

theorem refl : QuietStep o p p := of_frame rfl rfl

theorem of_save {y : Order} {r : Except PipelineError (JobResult ⊕ Job)} (ne : y.id ≠ o.id) :
    QuietStep o p (match p.orders.save y with
      | .ok orders => (r, { p with orders })
      | .error e => (.error (PipelineError.ofStore e), p)).2 := by
  split
  · next orders hsave =>
    exact ⟨fun x hx => (OrderStore.get_save_of_ne hsave ne).trans hx, Iff.rfl⟩
  · exact refl

theorem finalize {st : FinalizeStage} (ne : st.orderId ≠ o.id) :
    QuietStep o p (runIn (Job.finalize st).advance ctx p).2 := by
  cases st with
  | load => rw [Job.advance_load]; exact refl
  | lookup => rw [Job.advance_lookup]; exact refl
  | consume o' =>
    rw [Job.advance_consume]
    split
    · exact refl
    · next l out _ hc =>
      -- the reference of the consumption is the other order's identity
      have other : o'.reservation.reference ≠ some o.id.render := by
        simp only [Order.reservation, ne_eq, Option.some.injEq]
        exact fun h => ne (OrderId.render_injective h)
      exact ⟨fun _ => id, Ledger.mem_refs_consume_of_ne hc other o.stockKey⟩
    · exact refl
    · exact refl
  | hold o' a b =>
    rw [Job.advance_hold]
    split
    · exact refl
    · exact refl
    · next held _ hheld =>
      obtain ⟨-, rfl⟩ := Order.hold_eq_ok hheld
      exact of_save ne
  | settle o' remaining =>
    rw [Job.advance_settle]
    split
    · exact refl
    · split
      · exact refl
      · exact refl
      · next c hc _ => exact of_save ((Order.confirm_eq_ok hc).2.2.1 ▸ ne)
  | tell => rw [Job.advance_tell]; split <;> exact refl
  | announce => rw [Job.advance_announce]; exact of_frame rfl rfl
  | record => rw [Job.advance_record]; exact of_save ne

theorem ingest (st : BatchStage) : QuietStep o p (runIn (Job.ingest st).advance ctx p).2 := by
  cases st with
  | row b pending =>
    cases pending with
    | nil => rw [Job.advance_row_nil]; exact refl
    | cons => rw [Job.advance_row]; exact refl
  | hub => rw [Job.advance_hub]; exact refl
  | claim b raw entry rest =>
    rw [Job.advance_claim]
    dsimp only
    split
    · exact of_frame rfl rfl
    · exact of_frame rfl rfl
    · next orders hins =>
      exact ⟨fun _ hx => OrderStore.get_insertIngested hins hx, Iff.rfl⟩
  | announce => rw [Job.advance_announce_created]; exact of_frame rfl rfl
  | tell => rw [Job.advance_tell_created]; exact of_frame rfl rfl
  | quarantine => rw [Job.advance_quarantine]; exact of_frame rfl rfl

theorem fetch (messageId : String) (task : IngestionTask) :
    QuietStep o p (runIn (Job.fetch messageId task).advance ctx p).2 := by
  rw [Job.advance_fetch]
  exact refl

end QuietStep

namespace Job

open Pipeline

variable {ctx : Context} {p : Pipeline}

theorem ingest_after_ne (st : BatchStage) (st' : FinalizeStage) :
    after (runIn (ingest st).advance ctx p).1 ≠ some (.finalize st') := by
  rw [runIn_ingest]
  split <;> simp

end Job

namespace QuietStep

variable {o : Order} {p : Pipeline} {ctx : Context}

theorem job {job : Job} (other : ∀ st, job = .finalize st → st.orderId ≠ o.id) :
    QuietStep o p (Pipeline.runIn job.advance ctx p).2 := by
  cases job with
  | finalize st => exact finalize (other st rfl)
  | fetch messageId task => exact fetch messageId task
  | ingest st => exact ingest st

end QuietStep

theorem Job.after_ne {o : Order} {p : Pipeline} {ctx : Context} {job : Job} {st : FinalizeStage}
    (other : ∀ st, job = .finalize st → st.orderId ≠ o.id)
    (h : Job.after (Pipeline.runIn job.advance ctx p).1 = some (.finalize st)) : st.orderId ≠ o.id := by
  cases job with
  | finalize st₀ =>
    obtain ⟨_, same, hid⟩ := Job.orderId_after st₀ h
    cases same
    rw [hid]
    exact other st₀ rfl
  | fetch =>
    obtain ⟨_, _, h'⟩ := Job.fetch_after h
    cases h'
  | ingest st₀ => exact absurd h (Job.ingest_after_ne st₀ st)

/-- The system as the finalizations of `o` leave it: the order stored under its identity sound,
and the run of it in progress, if any, standing where that order says. -/
def System.Resumable (o : Order) (s : System) : Prop :=
  ∃ x, s.pipeline.orders.get o.id = .ok x ∧ StoredSound o (s.pipeline.ledger.Took o) x ∧
    ∀ j st, s.jobs j = some (.finalize st) → st.orderId = o.id →
      StageSound o (s.pipeline.ledger.Took o) x st

/-- What one transition of the system guarantees about the finalizations of `o`. -/
structure SafeStep (o : Order) (s : System) (ℓ : Label) (s' : System) : Prop where
  resumable : s'.Resumable o
  others : ℓ.orderId? ≠ some o.id → (s'.pipeline.ledger.Took o ↔ s.pipeline.ledger.Took o)
  takes : ℓ.orderId? = some o.id → s'.pipeline.ledger ≠ s.pipeline.ledger →
    s.pipeline.ledger.TakesFor o s'.pipeline.ledger
  stays_confirmed : ∀ x y, s.pipeline.orders.get o.id = .ok x →
    s'.pipeline.orders.get o.id = .ok y → x.status = .newOrder → y.status = .newOrder
  finalized : ∀ x, s.pipeline.orders.get o.id = .ok x → x.progress.notified = true →
    ℓ.orderId? = some o.id → s'.pipeline = s.pipeline ∧
      (ℓ.result? = some (.ok (.inl (.finalized .alreadyFinalized))) ∨
        ∃ e, ℓ.result? = some (.error e))
  resumes : s.pipeline.ledger.Took o → ℓ.orderId? = some o.id →
    s'.pipeline.ledger = s.pipeline.ledger ∧
      ∀ a b, ℓ.result? ≠ some (.ok (.inl (.finalized (.onHold a b))))

section Transitions

variable {o : Order} {s s' : System} {ℓ : Label}

theorem System.Resumable.sound (inv : s.Resumable o) {x : Order}
    (hx : s.pipeline.orders.get o.id = .ok x) : StoredSound o (s.pipeline.ledger.Took o) x := by
  obtain ⟨y, hy, sound, -⟩ := inv
  rw [hx, Except.ok.injEq] at hy
  exact hy ▸ sound

theorem System.Resumable.of_quiet (inv : s.Resumable o) (q : QuietStep o s.pipeline s'.pipeline)
    (jobs : ∀ j st, s'.jobs j = some (.finalize st) → st.orderId = o.id →
      s.jobs j = some (.finalize st) ∨ st = .load o.id) : s'.Resumable o := by
  obtain ⟨x, hx, sound, stages⟩ := inv
  have took : s'.pipeline.ledger.Took o = s.pipeline.ledger.Took o := propext q.took
  refine ⟨x, q.orders x hx, took ▸ sound, fun j st hj hst => ?_⟩
  rw [took]
  rcases jobs j st hj hst with old | rfl
  · exact stages j st old hst
  · trivial

theorem SafeStep.of_quiet (inv : s.Resumable o) (q : QuietStep o s.pipeline s'.pipeline)
    (jobs : ∀ j st, s'.jobs j = some (.finalize st) → st.orderId = o.id →
      s.jobs j = some (.finalize st) ∨ st = .load o.id)
    (own : ℓ.orderId? = some o.id → s'.pipeline = s.pipeline ∧ ∃ e, ℓ.result? = some (.error e)) :
    SafeStep o s ℓ s' := by
  refine ⟨inv.of_quiet q jobs, fun _ => q.took, fun hid changed => ?_, fun x y hx hy confirmed => ?_,
    fun _ _ _ hid => ?_, fun _ hid => ?_⟩
  · exact absurd (by rw [(own hid).1]) changed
  · rw [q.orders x hx, Except.ok.injEq] at hy
    exact hy ▸ confirmed
  · obtain ⟨same, e, he⟩ := own hid
    exact ⟨same, .inr ⟨e, he⟩⟩
  · obtain ⟨same, e, he⟩ := own hid
    exact ⟨by rw [same], fun a b => by simp [he]⟩

theorem SafeStep.of_own {x : Order} {j : Nat} {st : FinalizeStage}
    {out : Except PipelineError (JobResult ⊕ Job) × Pipeline}
    (hx : s.pipeline.orders.get o.id = .ok x) (running : s.jobs j = some (.finalize st))
    (hst : st.orderId = o.id) (sole : s.SoleRun o.id) (own : OwnStep o x s.pipeline out) :
    SafeStep o s (.step j (.finalize st) out.1)
      ({ s with pipeline := out.2 }.setJob j (Job.after out.1)) := by
  obtain ⟨⟨y, hy, sound, keep, next⟩, ledger, no_hold, finalized⟩ := own
  have label : (Label.step j (.finalize st) out.1).orderId? = some o.id := by
    simp [Label.orderId?, hst]
  refine ⟨⟨y, hy, sound, fun i st' hi hst' => ?_⟩, fun other => absurd label other,
    fun _ changed => ledger.resolve_left changed, fun x' y' hx' hy' confirmed => ?_,
    fun x' hx' notified _ => ?_, fun took _ => ?_⟩
  · simp only [System.jobs_setJob] at hi
    split at hi
    · obtain ⟨_, same, -, stage⟩ := next _ hi
      cases same
      exact stage
    · -- no other job finalizes `o`: its runs do not overlap
      exact absurd (sole i j ⟨st', hi, hst'⟩ ⟨st, running, hst⟩) ‹_›
  · rw [hx, Except.ok.injEq] at hx'
    rw [System.pipeline_setJob, hy, Except.ok.injEq] at hy'
    subst hx' hy'
    exact keep confirmed
  · rw [hx, Except.ok.injEq] at hx'
    subst hx'
    obtain ⟨same, result⟩ := finalized notified
    exact ⟨same, by simpa [Label.result?] using result⟩
  · refine ⟨?_, fun a b => by simpa [Label.result?] using no_hold took a b⟩
    rcases ledger with same | takes
    · exact same
    · exact absurd took takes.fresh

theorem SafeStep.step {w : World} (restocks : w.Restocks o.id) (step : Step w s ℓ s')
    (sole : s.SoleRun o.id) (inv : s.Resumable o) : SafeStep o s ℓ s' := by
  cases step with
  | @start j job idle initial admitted =>
    refine SafeStep.of_quiet inv QuietStep.refl (fun i st hi hst => ?_) (by simp [Label.orderId?])
    simp only [System.jobs_setJob] at hi
    split at hi
    · -- a finalization starts at its load
      cases hi
      cases st <;> simp_all [Job.Initial, FinalizeStage.orderId]
    · exact .inl hi
  | @step j job ctx running =>
    by_cases own : ∃ st, job = .finalize st ∧ st.orderId = o.id
    · obtain ⟨st, rfl, hst⟩ := own
      obtain ⟨x, hx, sound, stages⟩ := inv
      exact SafeStep.of_own hx running hst sole
        (OwnStep.of_stage hx sound hst (stages j st running hst))
    · have other : ∀ st, job = .finalize st → st.orderId ≠ o.id := fun st h hst => own ⟨st, h, hst⟩
      refine SafeStep.of_quiet inv (QuietStep.job other) (fun i st hi hst => ?_) (fun hid => ?_)
      · simp only [System.jobs_setJob] at hi
        split at hi
        · exact absurd hst (Job.after_ne other hi)
        · exact .inl hi
      · cases job <;> simp_all [Label.orderId?]
  | @fail j job r running failed =>
    refine SafeStep.of_quiet inv QuietStep.refl (fun i st hi hst => ?_) (fun hid => ⟨rfl, ?_⟩)
    · simp only [System.jobs_setJob] at hi
      split at hi
      · -- a failed call never goes on as a finalization
        obtain ⟨_, _, _, _, _, _, h⟩ := Job.after_of_interrupted failed hi
        cases h
      · exact .inl hi
    · cases job with
      | finalize st => obtain ⟨-, e, rfl⟩ := failed; exact ⟨e, rfl⟩
      | fetch => simp [Label.orderId?] at hid
      | ingest => simp [Label.orderId?] at hid
  | env around =>
    obtain ⟨orders, ledger⟩ := restocks _ _ around
    refine SafeStep.of_quiet inv ⟨fun x hx => orders ▸ hx, ?_⟩ (fun _ _ hi _ => .inl hi)
      (by simp [Label.orderId?])
    rcases ledger with same | ⟨k, n, fresh, now, r, h⟩
    · rw [same]
    · simp only [Ledger.Took, Ledger.refs_upsert h]

theorem System.Resumable.init {p : Pipeline} {id : OrderId} {entry : NewOrder} {now : Instant}
    (placed : o = Order.place id entry now) (stored : p.orders.get o.id = .ok o) :
    (System.init p).Resumable o := by
  subst placed
  refine ⟨_, stored, ⟨rfl, rfl, fun h => ?_, fun h => ?_, fun h => ?_⟩, fun j st hj => ?_⟩
  any_goals simp [Order.place] at h
  simp [System.init] at hj

end Transitions

/-- Finalization resumes where it stopped and never does a step twice. Take an order as placed
and stored, and any execution from a system with no job running in which the finalizations of the
order never overlap, each failing at any call, while other jobs run and the surroundings restock
the ledger. Then the ledger takes the order's stock at most once, exactly its quantity under its
identity; the order is `new_order` only with its stock taken and stays so; it is told only once
`new_order`, after which its finalizations change nothing; and once its stock is taken no
finalization takes stock again or holds it. -/
theorem finalizes_safely {w : World} {o : Order} (restocks : w.Restocks o.id) {id : OrderId}
    {entry : NewOrder} {now : Instant} (placed : o = Order.place id entry now) {p : Pipeline}
    (stored : p.orders.get o.id = .ok o) {ts : List Transition} {s : System}
    (run : Execution w (System.init p) ts s) (sole : ∀ t ∈ ts, t.before.SoleRun o.id) :
    FinalizesSafely o ts := by
  have along := (Execution.preserves_of
    (fun step sole inv => (SafeStep.step restocks step sole inv).resumable) run sole
    (System.Resumable.init placed stored)).1
  have safe : ∀ t ∈ ts, SafeStep o t.before t.label t.after := fun t ht =>
    SafeStep.step restocks (run.step_of_mem t ht) (sole t ht) (along t ht).1
  -- the consumption of `o`, once recorded, stays recorded; a step of `o` that changes the ledger
  -- records it where it was not, so there is at most one such step
  have kept : ∀ t ∈ ts, t.before.pipeline.ledger.Took o → t.after.pipeline.ledger.Took o := by
    intro t ht took
    by_cases hid : t.label.orderId? = some o.id
    · exact ((safe t ht).resumes took hid).1 ▸ took
    · exact ((safe t ht).others hid).2 took
  have turns : ∀ t ∈ ts, decide (t.label.orderId? = some o.id ∧
      t.after.pipeline.ledger ≠ t.before.pipeline.ledger) = true →
      ¬t.before.pipeline.ledger.Took o ∧ t.after.pipeline.ledger.Took o := by
    intro t ht hc
    obtain ⟨hid, changed⟩ := of_decide_eq_true hc
    have takes := (safe t ht).takes hid changed
    exact ⟨takes.fresh, by rw [Ledger.Took, takes.refs]; simp⟩
  refine ⟨(Execution.countP_turns (Q := fun s => s.pipeline.ledger.Took o) kept turns run).2, fun t ht => (safe t ht).takes,
    fun t ht => ?_, fun t ht x hx => ((along t ht).2.sound hx).consumed_of_confirmed,
    fun t ht => (safe t ht).stays_confirmed,
    fun t ht x hx => ((along t ht).2.sound hx).confirmed_of_notified,
    fun t ht => (safe t ht).finalized, fun t ht => (safe t ht).resumes,
    fun t ht => (safe t ht).others⟩
  obtain ⟨x, hx, sound, -⟩ := (along t ht).2
  exact ⟨x, hx, sound.row⟩

theorem System.soleRun_of_play {p : Pipeline} {ms : List Move} {j : Nat}
    (one : (ms.all fun m => m.job?.all (· == j)) = true) (id : OrderId) :
    ∀ t ∈ ((System.init p).play ms).1, t.before.SoleRun id := by
  intro t ht
  have only : ∀ n, t.before.Finalizing id n → n = j := by
    rintro n ⟨st, running, -⟩
    by_contra other
    have named : ∀ m ∈ ms, m.job? ≠ some n := by
      intro m hm named
      have only := List.all_eq_true.1 one m hm
      rw [named] at only
      exact other (by simpa using only)
    have idle := System.play_jobs_of_unnamed named _ t ht
    rw [running] at idle
    cases idle
  intro i k hi hk
  rw [only i hi, only k hk]

/-- A finalization whose call fails after it took the stock, delivered again: the second run
replays the consumption, confirms and tells, and the key lost the order's two units once. -/
theorem finalizes_safely_across_a_failed_confirm :
    let entry : NewOrder :=
      { tenant := ⟨"t1", Eq.refl "t1", Eq.refl false⟩
        seller := ⟨"s1", Eq.refl "s1", Eq.refl false⟩
        hub := ⟨"H1", Eq.refl "H1", Eq.refl false⟩
        sku := ⟨"K1", Eq.refl "K1", Eq.refl false⟩
        quantity := ⟨2, by decide, by decide⟩ }
    let o := Order.place default entry Instant.epoch
    let p : Pipeline :=
      { bucket := "orders"
        deadline := ⟨5000⟩
        webhookRetry := ⟨1, 0⟩
        objects := .memory {}
        queue := WorkQueue.empty 5
        bus := {}
        orders := ⟨[o], []⟩
        ledger := ⟨[{ record := ⟨default, o.stockKey, 5, Instant.epoch⟩, consumed := [] }]⟩ }
    let ctx : Context := ⟨Instant.epoch, 0, fun _ => default⟩
    let run := (System.init p).play
      [.start 0 (.finalize (.load o.id)), .step 0 ctx, .step 0 ctx, .step 0 ctx,
        .fail 0 ⟨.transient, "order store unavailable"⟩,
        .start 0 (.finalize (.load o.id)), .step 0 ctx, .step 0 ctx, .step 0 ctx, .step 0 ctx,
        .step 0 ctx, .step 0 ctx, .step 0 ctx]
    World.Restocks ⟨fun _ => True, fun p q => q = p⟩ o.id ∧ p.orders.get o.id = .ok o ∧
      Execution ⟨fun _ => True, fun p q => q = p⟩ (System.init p) run.1 run.2 ∧
      (∀ t ∈ run.1, t.before.SoleRun o.id) ∧
      run.1.length = 13 ∧ run.2.pipeline.ledger.stock? o.stockKey = some 3 ∧
      FinalizesSafely o run.1 := by
  intro entry o p ctx run
  have restocks : World.Restocks ⟨fun _ => True, fun p q => q = p⟩ o.id := by
    intro p q h
    subst h
    exact ⟨rfl, .inl rfl⟩
  have stored : p.orders.get o.id = .ok o := by decide +kernel
  have execution : Execution ⟨fun _ => True, fun p q => q = p⟩ (System.init p) run.1 run.2 :=
    Execution.play (by simp [Move.Allowed, Job.Initial]) _
  have sole : ∀ t ∈ run.1, t.before.SoleRun o.id :=
    System.soleRun_of_play (j := 0) rfl o.id
  have played : run.1.length = 13 ∧ run.2.pipeline.ledger.stock? o.stockKey = some 3 := by
    decide +kernel
  exact ⟨restocks, stored, execution, sole, played.1, played.2,
    finalizes_safely restocks rfl stored execution sole⟩

end Fulfilment
