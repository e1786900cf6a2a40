import Fulfilment.Proofs.Ledger
import Fulfilment.Proofs.Orders
import Fulfilment.Proofs.RetryRedelivery
import Fulfilment.Proofs.Finalization

/-!
What a finalization of a placed order does. Run alone from a message, its outcome is decided by
the stock its key holds (`Pipeline.finalize_by_stock`); in an execution beside other jobs and
restocks, by the stock the key holds when the job takes it (`finalization_outcome_by_stock`):
with enough, the key loses the order's quantity, the order is confirmed and the webhooks are told
once (`ConfirmedRun`); with less, nothing changes and the order stays on hold (`HeldRun`). A key
with no stock record fails the lookup and changes nothing.
-/

namespace Fulfilment

open Pipeline Wire Webhook

theorem Deadline.check_zero {d : Deadline} (budget : 0 < d.budgetMs) (step : String) :
    d.check 0 step = .ok () := by
  simp [Deadline.check, Deadline.remaining, Nat.pos_iff_ne_zero.1 budget]

theorem OrderStore.save_of_get {s : OrderStore} {o x : Order} (h : s.get o.id = .ok x) :
    ∃ s', s.save o = .ok s' := by
  have found := List.find?_some (OrderStore.get_eq_ok.1 h)
  have stored : s.has o.id = true :=
    OrderStore.has_iff.2 ⟨x, List.mem_of_find?_eq_some (OrderStore.get_eq_ok.1 h), by simpa using found⟩
  exact ⟨_, by unfold OrderStore.save; rw [if_pos stored]⟩

namespace Ledger

theorem get_of_stock? {l : Ledger} {k : InventoryKey} {a : Int} (h : l.stock? k = some a) :
    ∃ r, l.get k = .ok r := by
  cases hs : l.slot? k with
  | none => simp [stock?, hs] at h
  | some s => exact ⟨s.record, by simp [get, hs]⟩

theorem get_of_stock?_none {l : Ledger} {k : InventoryKey} (h : l.stock? k = none) :
    l.get k = .error (.notFound k) := by
  cases hs : l.slot? k with
  | none => simp [get, hs]
  | some s => simp [stock?, hs] at h

theorem consume_reservation {l : Ledger} {o : Order} {a : Int} (stock : l.stock? o.stockKey = some a)
    (unrecorded : o.id.render ∉ l.refs o.stockKey) (now : Instant) :
    if o.quantity.val ≤ a then ∃ l', l.consume o.reservation now = .ok (l', { remaining := a - o.quantity.val })
    else l.consume o.reservation now = .error (.conflict a o.quantity.val) :=
  consume_of_unrecorded (r := o.reservation) o.quantity.pos stock
    (fun _ named => Option.some.inj named ▸ unrecorded) now

end Ledger

namespace FinalizeStage

variable {ctx : Context} {p q : Pipeline} {s t : FinalizeStage}

theorem run_goto (h : runIn (Job.finalize s).advance ctx p = (.ok (.inr (.finalize t)), q)) :
    runIn s.run ctx p = runIn t.run ctx q := by
  rw [Job.runIn_finalize] at h
  rw [FinalizeStage.run, runIn_bind]
  rcases hadv : runIn s.advance ctx p with ⟨_ | (_ | _), q'⟩ <;> rw [hadv] at h <;> simp at h
  obtain ⟨rfl, rfl⟩ := h
  rfl

theorem run_finish {out : FinalizeOutcome}
    (h : runIn (Job.finalize s).advance ctx p = (.ok (.inl (.finalized out)), q)) :
    runIn s.run ctx p = (.ok out, q) := by
  rw [Job.runIn_finalize] at h
  rw [FinalizeStage.run, runIn_bind]
  rcases hadv : runIn s.advance ctx p with ⟨_ | (_ | _), q'⟩ <;> rw [hadv] at h <;> simp at h
  obtain ⟨rfl, rfl⟩ := h
  rfl

theorem run_error {e : PipelineError} (h : runIn (Job.finalize s).advance ctx p = (.error e, q)) :
    runIn s.run ctx p = (.error e, q) := by
  rw [Job.runIn_finalize] at h
  rw [FinalizeStage.run, runIn_bind]
  rcases hadv : runIn s.advance ctx p with ⟨_ | (_ | _), q'⟩ <;> rw [hadv] at h <;> simp at h
  obtain ⟨rfl, rfl⟩ := h
  rfl

end FinalizeStage

/-- The pipeline `p'` after a finalization confirmed order `o` from `p`, whose key held `a`
units: the key lost the order's quantity and records the order's identity; the order is stored
`new_order`, with its stock taken and its subscribers told; the webhooks got one
`order.updated` for the tenant with the order as stored, `new_order` with its stock taken; and
nothing else changed. -/
structure ConfirmedFrom (o : Order) (a : Int) (p p' : Pipeline) : Prop where
  stock : ∀ k, p'.ledger.stock? k =
    if k = o.stockKey then some (a - o.quantity.val) else p.ledger.stock? k
  recorded : o.id.render ∈ p'.ledger.refs o.stockKey
  stored : ∃ y, p'.orders.get o.id = .ok y ∧ y.row = o.row ∧ y.status = .newOrder ∧
    y.progress = { inventoryConsumed := true, notified := true }
  others : ∀ id, id ≠ o.id → p'.orders.get id = p.orders.get id
  told : ∃ current, current.id = o.id ∧ current.row = o.row ∧ current.status = .newOrder ∧
    current.progress = { inventoryConsumed := true } ∧
    p'.transport = ((dispatch Recorder.send p.registry p.webhookRetry webhookCapacity o.tenant
      orderUpdatedTopic (orderJson current)).run p.transport).2
  rest : { p' with ledger := p.ledger, orders := p.orders, transport := p.transport } = p

/-- The pipeline `p'` after a finalization kept order `o` on hold from `p`: the order is stored
on hold with its progress as it was, no other order changed, and the ledger, the webhooks and
everything else are as they were. -/
structure HeldFrom (o : Order) (p p' : Pipeline) : Prop where
  stored : ∃ y, p'.orders.get o.id = .ok y ∧ y.row = o.row ∧ y.status = .onHold ∧
    y.progress = o.progress
  others : ∀ id, id ≠ o.id → p'.orders.get id = p.orders.get id
  rest : { p' with orders := p.orders } = p

namespace FinalizeStage

variable {ctx : Context} {p : Pipeline}

/-- The webhooks of `p` after one `order.updated` for the tenant of `x`, with `x`. -/
def toldOf (p : Pipeline) (x : Order) : Recorder :=
  ((dispatch Recorder.send p.registry p.webhookRetry webhookCapacity x.tenant orderUpdatedTopic
    (orderJson x)).run p.transport).2

theorem run_tell (ctx : Context) {x : Order} (hx : p.orders.get x.id = .ok x) (untold : x.progress.notified = false)
    (budget : 0 < p.deadline.budgetMs) (remaining : Option Int) :
    ∃ orders, p.orders.save (x.markNotified ctx.now) = .ok orders ∧
      runIn (tell x remaining).run ctx p =
        (.ok (.confirmed remaining), { p with orders, transport := toldOf p x }) := by
  obtain ⟨orders, hsave⟩ := OrderStore.save_of_get (o := x.markNotified ctx.now) hx
  refine ⟨orders, hsave, ?_⟩
  rw [run_goto (t := .announce x x remaining) (q := p)]
  · rw [run_goto (Job.advance_announce x x remaining), run_finish]
    rw [Job.advance_record]
    simp only [hsave]
    rfl
  · rw [Job.advance_tell, if_neg (by simp [untold]), Deadline.check_zero budget, hx]

theorem run_settle (ctx : Context) {x y : Order} (hx : p.orders.get x.id = .ok y) (onHold : x.status = .onHold)
    (consumed : x.progress.inventoryConsumed = true) (budget : 0 < p.deadline.budgetMs)
    (remaining : Option Int) :
    ∃ orders, p.orders.save { x with status := .newOrder, updatedAt := ctx.now } = .ok orders ∧
      runIn (settle x remaining).run ctx p =
        runIn (tell { x with status := .newOrder, updatedAt := ctx.now } remaining).run ctx
          { p with orders } := by
  have hconfirm : x.confirm ctx.now = .ok { x with status := .newOrder, updatedAt := ctx.now } := by
    simp [Order.confirm, consumed, onHold]
  obtain ⟨orders, hsave⟩ :=
    OrderStore.save_of_get (o := { x with status := .newOrder, updatedAt := ctx.now }) hx
  refine ⟨orders, hsave, run_goto ?_⟩
  rw [Job.advance_settle, if_neg (by simp [onHold]), hconfirm, Deadline.check_zero budget]
  simp only [hsave]

variable {o : Order}

theorem run_lookup_missing (budget : 0 < p.deadline.budgetMs) (missing : p.ledger.stock? o.stockKey = none) :
    runIn (lookup o).run ctx p = (.error (PipelineError.ofLedger (.notFound o.stockKey)), p) := by
  apply run_error
  rw [Job.advance_lookup, Deadline.check_zero budget, Ledger.get_of_stock?_none missing]

theorem run_lookup (budget : 0 < p.deadline.budgetMs) {a : Int} (stock : p.ledger.stock? o.stockKey = some a) :
    runIn (lookup o).run ctx p = runIn (consume o).run ctx p := by
  obtain ⟨r, hr⟩ := Ledger.get_of_stock? stock
  apply run_goto
  rw [Job.advance_lookup, Deadline.check_zero budget, hr]

theorem run_consume_short (budget : 0 < p.deadline.budgetMs) {a : Int} (stock : p.ledger.stock? o.stockKey = some a)
    (short : a < o.quantity.val) (unrecorded : o.id.render ∉ p.ledger.refs o.stockKey) :
    runIn (consume o).run ctx p = runIn (hold o a o.quantity.val).run ctx p := by
  have refused : p.ledger.consume o.reservation ctx.now = .error (.conflict a o.quantity.val) := by
    simpa [not_le.2 short] using Ledger.consume_reservation stock unrecorded ctx.now
  apply run_goto
  rw [Job.advance_consume, Deadline.check_zero budget, refused]

section Placed

variable (stored : p.orders.get o.id = .ok o) (placed : o.status = .onHold ∧ o.progress = {})
  (budget : 0 < p.deadline.budgetMs)
include stored placed budget

theorem run_load : runIn (load o.id).run ctx p = runIn (lookup o).run ctx p := by
  apply run_goto
  rw [Job.advance_load, Deadline.check_zero budget, stored]
  simp [placed.1, placed.2]

theorem run_hold (a q : Int) :
    ∃ p', runIn (hold o a q).run ctx p = (.ok (.onHold a q), p') ∧ HeldFrom o p p' := by
  have held : o.hold ctx.now = .ok { o with updatedAt := ctx.now } := by
    simp [Order.hold, placed.1]
  obtain ⟨orders, hsave⟩ := OrderStore.save_of_get (o := { o with updatedAt := ctx.now }) stored
  refine ⟨{ p with orders }, run_finish ?_,
    ⟨⟨{ o with updatedAt := ctx.now }, OrderStore.get_save_self hsave, rfl, placed.1, rfl⟩,
      fun id ne => OrderStore.get_save_of_ne hsave (Ne.symm ne), rfl⟩⟩
  rw [Job.advance_hold, Deadline.check_zero budget, held]
  simp only [hsave]

theorem run_consume_enough {a : Int} (stock : p.ledger.stock? o.stockKey = some a)
    (enough : o.quantity.val ≤ a) (unrecorded : o.id.render ∉ p.ledger.refs o.stockKey) :
    ∃ p', runIn (consume o).run ctx p = (.ok (.confirmed (some (a - o.quantity.val))), p') ∧
      ConfirmedFrom o a p p' := by
  obtain ⟨l', hl'⟩ : ∃ l', p.ledger.consume o.reservation ctx.now =
      .ok (l', { remaining := a - o.quantity.val }) := by
    simpa [enough] using Ledger.consume_reservation stock unrecorded ctx.now
  let consumed := o.markConsumed ctx.now
  let confirmed : Order := { consumed with status := .newOrder, updatedAt := ctx.now }
  obtain ⟨orders₁, hsave₁, hsettle⟩ := run_settle ctx (p := { p with ledger := l' }) (x := consumed)
    stored placed.1 rfl budget (some (a - o.quantity.val))
  have hget₁ : orders₁.get o.id = .ok confirmed := OrderStore.get_save_self hsave₁
  obtain ⟨orders₂, hsave₂, htell⟩ := run_tell ctx (p := { p with ledger := l', orders := orders₁ })
    (x := confirmed) hget₁ (by simp [confirmed, consumed, placed.2]) budget (some (a - o.quantity.val))
  have hconsume : runIn (Job.finalize (consume o)).advance ctx p =
      (.ok (.inr (.finalize (.settle consumed (some (a - o.quantity.val))))), { p with ledger := l' }) := by
    rw [Job.advance_consume, Deadline.check_zero budget, hl']
  refine ⟨{ p with ledger := l', orders := orders₂, transport := toldOf p confirmed }, ?_, ?_⟩
  · rw [run_goto hconsume, hsettle, htell]
    rfl
  · refine ⟨fun k => ?_, ?_, ?_, fun id ne => ?_, ?_, rfl⟩
    · rw [Ledger.stock?_consume hl' k]
      by_cases hk : k = o.stockKey
      · subst hk
        simp [Order.reservation, stock]
      · simp [Order.reservation, hk]
    · rw [Ledger.refs_consume hl']
      simp [Order.reservation]
    · refine ⟨confirmed.markNotified ctx.now, OrderStore.get_save_self hsave₂, rfl, rfl, ?_⟩
      simp [confirmed, consumed, placed.2]
    · rw [OrderStore.get_save_of_ne hsave₂ (Ne.symm ne), OrderStore.get_save_of_ne hsave₁ (Ne.symm ne)]
    · exact ⟨confirmed, rfl, rfl, rfl, by simp [confirmed, consumed, placed.2], rfl⟩

end Placed

end FinalizeStage

namespace Pipeline

theorem runIn_finalize_of_decoded {ctx : Context} {p : Pipeline} {m : Message} {event : OrderCreated}
    (decoded : decodeCreated m = .ok event) :
    runIn (finalize m) ctx p = runIn (FinalizeStage.load event.orderId).run ctx p := by
  rw [finalize, runIn_bind, runIn_lift, decoded]
  rfl

theorem handle_of_missing_stock {ctx : Context} {p : Pipeline} {m : Message} {event : OrderCreated}
    {o : Order} (decoded : decodeCreated m = .ok event) (names : event.orderId = o.id)
    (stored : p.orders.get o.id = .ok o) (placed : o.status = .onHold ∧ o.progress = {})
    (budget : 0 < p.deadline.budgetMs) (missing : p.ledger.stock? o.stockKey = none) :
    effectIn (handle m) ctx p = (.error (PipelineError.ofLedger (.notFound o.stockKey)), p) := by
  have failed : runIn (finalize m) ctx p =
      (.error (PipelineError.ofLedger (.notFound o.stockKey)), p) := by
    rw [runIn_finalize_of_decoded decoded, names, FinalizeStage.run_load stored placed budget,
      FinalizeStage.run_lookup_missing budget missing]
  rw [handle, effectIn_bind, effectIn_run, failed]
  rfl

theorem finalize_by_stock {ctx : Context} {p : Pipeline} {m : Message} {event : OrderCreated}
    {o : Order} (decoded : decodeCreated m = .ok event) (names : event.orderId = o.id)
    (stored : p.orders.get o.id = .ok o) (placed : o.status = .onHold ∧ o.progress = {})
    (unrecorded : o.id.render ∉ p.ledger.refs o.stockKey) (budget : 0 < p.deadline.budgetMs)
    {a : Int} (stock : p.ledger.stock? o.stockKey = some a) :
    (o.quantity.val ≤ a →
      ∃ p', runIn (finalize m) ctx p = (.ok (.confirmed (some (a - o.quantity.val))), p') ∧
        ConfirmedFrom o a p p') ∧
    (a < o.quantity.val →
      ∃ p', runIn (finalize m) ctx p = (.ok (.onHold a o.quantity.val), p') ∧ HeldFrom o p p') := by
  have looked : runIn (finalize m) ctx p = runIn (FinalizeStage.consume o).run ctx p := by
    rw [runIn_finalize_of_decoded decoded, names, FinalizeStage.run_load stored placed budget,
      FinalizeStage.run_lookup budget stock]
  refine ⟨fun enough => ?_, fun short => ?_⟩
  · rw [looked]
    exact FinalizeStage.run_consume_enough stored placed budget stock enough unrecorded
  · rw [looked, FinalizeStage.run_consume_short budget stock short unrecorded]
    exact FinalizeStage.run_hold stored placed budget a o.quantity.val

end Pipeline

/-! ### The outcome along an execution -/

namespace Label

/-- The job and the order of a step that takes the stock of a finalized order. -/
def consumes? : Label → Option (Nat × Order)
  | .step j (.finalize (.consume x)) _ => some (j, x)
  | _ => none

/-- The job and the order of a step that looks up the stock of a finalized order. -/
def looksUp? : Label → Option (Nat × Order)
  | .step j (.finalize (.lookup x)) _ => some (j, x)
  | _ => none

/-- The job and the outcome of a step that ends a finalization. -/
def finished? : Label → Option (Nat × FinalizeOutcome)
  | .step j (.finalize _) (.ok (.inl (.finalized out))) => some (j, out)
  | _ => none

/-- The job of a finalization step that tells the webhooks an order was updated, with the order
it sends. -/
def updates? : Label → Option (Nat × Order)
  | .step j (.finalize (.announce _ current _)) _ => some (j, current)
  | _ => none

def starts? : Label → Option Nat
  | .start j _ => some j
  | _ => none

variable {ℓ : Label} {j : Nat}

theorem eq_of_consumes? {x : Order} (h : ℓ.consumes? = some (j, x)) :
    ∃ r, ℓ = .step j (.finalize (.consume x)) r := by
  unfold consumes? at h
  split at h
  · simp only [Option.some.injEq, Prod.mk.injEq] at h
    obtain ⟨rfl, rfl⟩ := h
    exact ⟨_, rfl⟩
  · cases h

theorem eq_of_looksUp? {x : Order} (h : ℓ.looksUp? = some (j, x)) :
    ∃ r, ℓ = .step j (.finalize (.lookup x)) r := by
  unfold looksUp? at h
  split at h
  · simp only [Option.some.injEq, Prod.mk.injEq] at h
    obtain ⟨rfl, rfl⟩ := h
    exact ⟨_, rfl⟩
  · cases h

theorem eq_of_finished? {out : FinalizeOutcome} (h : ℓ.finished? = some (j, out)) :
    ∃ st, ℓ = .step j (.finalize st) (.ok (.inl (.finalized out))) := by
  unfold finished? at h
  split at h
  · simp only [Option.some.injEq, Prod.mk.injEq] at h
    obtain ⟨rfl, rfl⟩ := h
    exact ⟨_, rfl⟩
  · cases h

theorem exists_of_updates? (h : (ℓ.updates?.map Prod.fst == some j) = true) :
    ∃ current, ℓ.updates? = some (j, current) := by
  simp only [beq_iff_eq, Option.map_eq_some_iff] at h
  obtain ⟨⟨j', current⟩, hc, rfl⟩ := h
  exact ⟨current, hc⟩

theorem eq_of_updates? {current : Order} (h : ℓ.updates? = some (j, current)) :
    ∃ c r res, ℓ = .step j (.finalize (.announce c current r)) res := by
  unfold updates? at h
  split at h
  · simp only [Option.some.injEq, Prod.mk.injEq] at h
    obtain ⟨rfl, rfl⟩ := h
    exact ⟨_, _, _, rfl⟩
  · cases h

end Label

theorem Step.of_label_step {w : World} {s s' : System} {j : Nat} {job : Job}
    {r : Except PipelineError (JobResult ⊕ Job)} (step : Step w s (.step j job r) s') :
    ∃ ctx, s.jobs j = some job ∧ r = (runIn job.advance ctx s.pipeline).1 ∧
      s' = { s with pipeline := (runIn job.advance ctx s.pipeline).2 }.setJob j (Job.after r) := by
  cases step with
  | step ctx running => exact ⟨ctx, running, rfl, rfl⟩

theorem Step.jobs_cases {w : World} {s s' : System} {ℓ : Label} (step : Step w s ℓ s') (j : Nat) :
    s'.jobs j = s.jobs j ∨ (∃ job, ℓ = .start j job ∧ s'.jobs j = some job) ∨
    (∃ job ctx, s.jobs j = some job ∧ ℓ = .step j job (runIn job.advance ctx s.pipeline).1 ∧
      s'.pipeline = (runIn job.advance ctx s.pipeline).2 ∧
      s'.jobs j = Job.after (runIn job.advance ctx s.pipeline).1) ∨
    (∃ job r, s.jobs j = some job ∧ job.Interrupted r ∧ ℓ = .fail j job r ∧
      s'.jobs j = Job.after r) := by
  cases step with
  | @start i job idle initial admitted =>
    by_cases own : i = j
    · subst own
      exact .inr (.inl ⟨job, rfl, by simp⟩)
    · exact .inl (by simp [Ne.symm own])
  | @step i job ctx running =>
    by_cases own : i = j
    · subst own
      exact .inr (.inr (.inl ⟨job, ctx, running, rfl, rfl, by simp⟩))
    · exact .inl (by simp [Ne.symm own])
  | @fail i job r running failed =>
    by_cases own : i = j
    · subst own
      exact .inr (.inr (.inr ⟨job, r, running, failed, rfl, by simp⟩))
    · exact .inl (by simp [Ne.symm own])
  | env around => exact .inl rfl

namespace FinalizeStage

/-- The outcome a run has settled on: once the stock is taken, confirmed with what the ledger
left; once it was refused, on hold with the quantities seen. -/
def outcome? : FinalizeStage → Option FinalizeOutcome
  | .hold _ a q => some (.onHold a q)
  | .settle _ r | .tell _ r | .announce _ _ r | .record _ r => some (.confirmed r)
  | _ => none

/-- The stage stands past the consumption of `x`, with its copy of `x`: as it was when the stock
was refused; with the stock taken, before it is confirmed; then confirmed, the store `p` holding
that copy while it is to tell the webhooks, which then get it. -/
def After (x : Order) (p : Pipeline) : FinalizeStage → Prop
  | .hold c _ _ => c = x
  | .settle c _ => c.id = x.id ∧ c.row = x.row ∧ c.status = .onHold ∧
      c.progress = { inventoryConsumed := true }
  | .tell c _ => c.id = x.id ∧ c.row = x.row ∧ c.status = .newOrder ∧
      c.progress = { inventoryConsumed := true } ∧ p.orders.get x.id = .ok c
  | .announce c current _ => current = c ∧ c.id = x.id ∧ c.row = x.row ∧ c.status = .newOrder ∧
      c.progress = { inventoryConsumed := true }
  | .record c _ => c.id = x.id ∧ c.row = x.row ∧ c.status = .newOrder ∧
      c.progress = { inventoryConsumed := true }
  | _ => False

theorem After.orderId {x : Order} {p : Pipeline} {st : FinalizeStage} (past : st.After x p) :
    st.orderId = x.id := by
  cases st with
  | load | lookup | consume => exact past.elim
  | hold => obtain rfl := past; rfl
  | settle => exact past.1
  | tell => exact past.1
  | announce => exact past.2.1
  | record => exact past.1

theorem After.of_orders {x : Order} {p p' : Pipeline} {st : FinalizeStage} (past : st.After x p)
    (kept : ∀ y, p.orders.get x.id = .ok y → p'.orders.get x.id = .ok y) : st.After x p' := by
  cases st with
  | tell => exact ⟨past.1, past.2.1, past.2.2.1, past.2.2.2.1, kept _ past.2.2.2.2⟩
  | _ => exact past

end FinalizeStage

/-- How the store holds `x` once its finalization ended with `out`: confirmed and told, or as it
was, on hold. -/
def Pipeline.Ended (x : Order) (out : FinalizeOutcome) (p : Pipeline) : Prop :=
  ∃ y, p.orders.get x.id = .ok y ∧ y.row = x.row ∧
    match out with
    | .confirmed _ =>
      y.status = .newOrder ∧ y.progress = { inventoryConsumed := true, notified := true }
    | .onHold .. => y.status = x.status ∧ y.progress = x.progress
    | .alreadyFinalized => False

namespace FinalizeStage

variable {ctx : Context} {p : Pipeline} {x : Order} {out : FinalizeOutcome}

theorem advance_after (ctx : Context) {st : FinalizeStage} (decided : st.outcome? = some out) (past : st.After x p) :
    (∀ out', (runIn (Job.finalize st).advance ctx p).1 = .ok (.inl (.finalized out')) →
      out' = out ∧ (runIn (Job.finalize st).advance ctx p).2.Ended x out) ∧
    ∀ job, Job.after (runIn (Job.finalize st).advance ctx p).1 = some job →
      ∃ st', job = .finalize st' ∧ st'.outcome? = some out ∧
        st'.After x (runIn (Job.finalize st).advance ctx p).2 := by
  cases st with
  | load | lookup | consume => exact past.elim
  | hold c a q =>
    obtain rfl := past
    obtain rfl : out = .onHold a q := by simpa [outcome?] using decided.symm
    rw [Job.advance_hold]
    split
    · simp
    · simp
    · next held hheld =>
      obtain ⟨-, rfl⟩ := Order.hold_eq_ok hheld
      split
      · next orders hsave =>
        refine ⟨fun out' h => ?_, by simp⟩
        simp only [Except.ok.injEq, Sum.inl.injEq, JobResult.finalized.injEq] at h
        exact ⟨h.symm, { c with updatedAt := ctx.now }, OrderStore.get_save_self hsave, rfl, rfl, rfl⟩
      · simp
  | settle c r =>
    obtain ⟨hid, hrow, held, progress⟩ := past
    rw [Job.advance_settle, if_neg (by simp [held])]
    split
    · simp
    · simp
    · next c' hc _ =>
      obtain ⟨-, status, cid, crow, cprogress⟩ := Order.confirm_eq_ok hc
      split
      · next orders hsave =>
        refine ⟨by simp, ?_⟩
        simp only [Job.after_inr, Option.some.injEq, forall_eq', Job.finalize.injEq, exists_eq_left']
        refine ⟨by simpa [outcome?] using decided, cid.trans hid, crow.trans hrow, status,
          cprogress.trans progress, ?_⟩
        rw [← hid, ← cid]
        exact OrderStore.get_save_self hsave
      · simp
  | tell c r =>
    obtain ⟨hid, hrow, status, progress, stored⟩ := past
    have unnotified : c.progress.notified = false := by rw [progress]
    rw [Job.advance_tell, if_neg (by simp [unnotified]), hid, stored]
    split
    · simp
    · simp
    · next current same =>
      simp only [Except.ok.injEq] at same
      subst same
      refine ⟨by simp, ?_⟩
      simp only [Job.after_inr, Option.some.injEq, forall_eq', Job.finalize.injEq, exists_eq_left']
      exact ⟨by simpa [outcome?] using decided, rfl, hid, hrow, status, progress⟩
  | announce c current r =>
    obtain ⟨-, hid, hrow, status, progress⟩ := past
    rw [Job.advance_announce]
    refine ⟨by simp, ?_⟩
    simp only [Job.after_inr, Option.some.injEq, forall_eq', Job.finalize.injEq, exists_eq_left']
    exact ⟨by simpa [outcome?] using decided, hid, hrow, status, progress⟩
  | record c r =>
    obtain ⟨hid, hrow, status, progress⟩ := past
    obtain rfl : out = .confirmed r := by simpa [outcome?] using decided.symm
    rw [Job.advance_record]
    split
    · next orders hsave =>
      refine ⟨fun out' h => ?_, by simp⟩
      simp only [Except.ok.injEq, Sum.inl.injEq, JobResult.finalized.injEq] at h
      refine ⟨h.symm, c.markNotified ctx.now, ?_, hrow, status, ?_⟩
      · rw [← hid]
        exact OrderStore.get_save_self hsave
      · simp [progress]
    · simp

end FinalizeStage

namespace FinalizeStage

variable {ctx : Context} {p : Pipeline}

theorem eq_announce_of_record {st : FinalizeStage} {c : Order} {r : Option Int}
    (h : Job.after (runIn (Job.finalize st).advance ctx p).1 = some (.finalize (.record c r))) :
    ∃ c' current r', st = .announce c' current r' := by
  cases st with
  | announce => exact ⟨_, _, _, rfl⟩
  | load => rw [Job.advance_load] at h; repeat' split at h
            all_goals simp at h
  | lookup => rw [Job.advance_lookup] at h; split at h <;> simp at h
  | consume => rw [Job.advance_consume] at h; split at h <;> simp at h
  | hold => rw [Job.advance_hold] at h; repeat' split at h
            all_goals simp at h
  | settle => rw [Job.advance_settle] at h; repeat' split at h
              all_goals simp at h
  | tell => rw [Job.advance_tell] at h; repeat' split at h
            all_goals simp at h
  | record => rw [Job.advance_record] at h; split at h <;> simp at h

theorem eq_record_of_finished {x : Order} {st : FinalizeStage} {r : Option Int}
    {out : FinalizeOutcome} (decided : st.outcome? = some (.confirmed r)) (past : st.After x p)
    (h : (runIn (Job.finalize st).advance ctx p).1 = .ok (.inl (.finalized out))) :
    ∃ c, st = .record c r := by
  cases st with
  | load | lookup | consume => exact past.elim
  | hold => simp [outcome?] at decided
  | settle => rw [Job.advance_settle] at h; repeat' split at h
              all_goals simp at h
  | tell c r' =>
    have unnotified : c.progress.notified = false := by rw [past.2.2.2.1]
    rw [Job.advance_tell, if_neg (by simp [unnotified])] at h
    split at h <;> simp at h
  | announce => rw [Job.advance_announce] at h; simp at h
  | record c r' =>
    obtain rfl : r' = r := by simpa [outcome?] using decided
    exact ⟨c, rfl⟩

end FinalizeStage

/-- Job `j` has settled on the outcome `out` of its finalization of `x`: it has ended, or it
stands past the consumption. -/
def System.Decided (s : System) (j : Nat) (x : Order) (out : FinalizeOutcome) : Prop :=
  s.jobs j = none ∨
    ∃ st, s.jobs j = some (.finalize st) ∧ st.outcome? = some out ∧ st.After x s.pipeline

/-- Job `j` has nothing left to tell the webhooks: it has ended, or it is to record that it told
them. -/
def System.PastTelling (s : System) (j : Nat) : Prop :=
  ∀ st, s.jobs j = some (.finalize st) → st.rank = 0

def System.Recording (s : System) (j : Nat) : Prop :=
  ∃ c r, s.jobs j = some (.finalize (.record c r))

section Steps

variable {w : World} {s s' : System} {ℓ : Label} {j : Nat} {x : Order}

theorem Step.keeps_order (restocks : w.Restocks x.id) (step : Step w s ℓ s') (sole : s.SoleRun x.id)
    (running : s.Finalizing x.id j) (other : ∀ job r, ℓ ≠ .step j job r) :
    ∀ y, s.pipeline.orders.get x.id = .ok y → s'.pipeline.orders.get x.id = .ok y := by
  cases step with
  | start => exact fun _ => id
  | @step i job ctx running' =>
    have ne : i ≠ j := fun h => other job _ (by rw [h])
    -- the other job does not finalize `x`, as no two jobs do
    have quiet : QuietStep x s.pipeline (runIn job.advance ctx s.pipeline).2 :=
      QuietStep.job fun st hst same => ne (sole i j ⟨st, hst ▸ running', same⟩ running)
    exact quiet.orders
  | fail => exact fun _ => id
  | env around => exact fun y hy => ((restocks _ _ around).1).trans hy

theorem System.Decided.running {out : FinalizeOutcome} {st : FinalizeStage}
    (decided : s.Decided j x out) (running : s.jobs j = some (.finalize st)) :
    st.outcome? = some out ∧ st.After x s.pipeline := by
  rcases decided with idle | ⟨st', hst, decided, past⟩
  · rw [idle] at running; cases running
  · rw [hst, Option.some.injEq, Job.finalize.injEq] at running
    subst running
    exact ⟨decided, past⟩

theorem System.Decided.step {out : FinalizeOutcome} (restocks : w.Restocks x.id)
    (step : Step w s ℓ s') (sole : s.SoleRun x.id) (fresh : ℓ.starts? ≠ some j)
    (decided : s.Decided j x out) : s'.Decided j x out := by
  rcases decided with idle | ⟨st, hst, decided, past⟩
  · -- an ended job comes back only by a start
    left
    rcases step.jobs_cases j with same | ⟨job, rfl, -⟩ | ⟨job, ctx, running, -⟩ |
      ⟨job, r, running, -⟩
    · rw [same, idle]
    · simp [Label.starts?] at fresh
    · rw [idle] at running; cases running
    · rw [idle] at running; cases running
  · by_cases own : ∃ job r, ℓ = .step j job r
    · obtain ⟨job, r, rfl⟩ := own
      obtain ⟨ctx, running, rfl, rfl⟩ := step.of_label_step
      rw [hst, Option.some.injEq] at running
      subst running
      obtain ⟨-, next⟩ := FinalizeStage.advance_after ctx decided past
      cases hafter : Job.after (runIn (Job.finalize st).advance ctx s.pipeline).1 with
      | none => exact .inl (by simp)
      | some job =>
        obtain ⟨st', rfl, decided', past'⟩ := next job hafter
        exact .inr ⟨st', by simp, decided', past'⟩
    · have other : ∀ job r, ℓ ≠ .step j job r := fun job r h => own ⟨job, r, h⟩
      rcases step.jobs_cases j with same | ⟨job, rfl, -⟩ | ⟨job, ctx, -, hℓ, -⟩ |
        ⟨job, r, running, failed, -, after⟩
      · exact .inr ⟨st, same.trans hst, decided, past.of_orders
          (Step.keeps_order restocks step sole ⟨st, hst, past.orderId⟩ other)⟩
      · simp [Label.starts?] at fresh
      · exact absurd hℓ (other _ _)
      · -- a failed call ends the job
        rw [hst, Option.some.injEq] at running
        subst running
        obtain ⟨-, e, rfl⟩ := failed
        exact .inl (by simpa using after)

theorem System.PastTelling.step (step : Step w s ℓ s') (fresh : ℓ.starts? ≠ some j)
    (past : s.PastTelling j) : s'.PastTelling j := by
  intro st hst
  rcases step.jobs_cases j with same | ⟨job, rfl, -⟩ | ⟨job, ctx, running, -, -, after⟩ |
    ⟨job, r, running, failed, -, after⟩
  · exact past st (same ▸ hst)
  · simp [Label.starts?] at fresh
  · rw [after] at hst
    cases job with
    | finalize st₀ =>
      have rank := past st₀ running
      -- recording, the one stage of rank zero, ends the run
      cases st₀ with
      | record c r => rw [Job.advance_record] at hst; split at hst <;> simp at hst
      | _ => simp [FinalizeStage.rank] at rank
    | fetch => obtain ⟨_, _, h⟩ := Job.fetch_after hst; cases h
    | ingest => exact absurd hst (Job.ingest_after_ne _ _)
  · rw [after] at hst
    obtain ⟨_, _, _, _, _, -, h⟩ := Job.after_of_interrupted failed hst
    cases h

theorem Step.updates {current : Order} (step : Step w s ℓ s') (h : ℓ.updates? = some (j, current)) :
    ¬s.PastTelling j ∧ s'.PastTelling j ∧ s'.Recording j := by
  obtain ⟨c, r, res, rfl⟩ := Label.eq_of_updates? h
  obtain ⟨ctx, running, rfl, rfl⟩ := step.of_label_step
  have recording : (({ s with pipeline := (runIn (Job.finalize (.announce c current r)).advance ctx
      s.pipeline).2 }).setJob j (Job.after (runIn (Job.finalize (.announce c current r)).advance ctx
        s.pipeline).1)).jobs j = some (.finalize (.record c r)) := by
    simp [Job.advance_announce]
  refine ⟨fun past => by simpa [FinalizeStage.rank] using past _ running, fun st hst => ?_,
    ⟨c, r, recording⟩⟩
  rw [recording, Option.some.injEq, Job.finalize.injEq] at hst
  subst hst
  rfl

theorem Step.announcing {current : Order} (step : Step w s ℓ s')
    (h : ℓ.updates? = some (j, current)) :
    ∃ c r, s.jobs j = some (.finalize (.announce c current r)) ∧
      s'.pipeline.transport = FinalizeStage.toldOf s.pipeline current := by
  obtain ⟨c, r, res, rfl⟩ := Label.eq_of_updates? h
  obtain ⟨ctx, running, -, after⟩ := step.of_label_step
  exact ⟨c, r, running, by rw [after]; rfl⟩

theorem System.Recording.of_step (step : Step w s ℓ s') (fresh : ℓ.starts? ≠ some j)
    (recording : s'.Recording j) : s.Recording j ∨ ℓ.updates?.map Prod.fst = some j := by
  obtain ⟨c, r, hrec⟩ := recording
  rcases step.jobs_cases j with same | ⟨job, rfl, -⟩ | ⟨job, ctx, running, rfl, -, after⟩ |
    ⟨job, res, running, failed, -, after⟩
  · exact .inl ⟨c, r, same ▸ hrec⟩
  · simp [Label.starts?] at fresh
  · rw [after] at hrec
    cases job with
    | finalize st =>
      obtain ⟨c', current, r', rfl⟩ := FinalizeStage.eq_announce_of_record hrec
      exact .inr (by simp [Label.updates?])
    | fetch => obtain ⟨_, _, h⟩ := Job.fetch_after hrec; cases h
    | ingest => exact absurd hrec (Job.ingest_after_ne _ _)
  · rw [after] at hrec
    obtain ⟨_, _, _, _, _, -, h⟩ := Job.after_of_interrupted failed hrec
    cases h

/-- A finalization takes the stock of a placed order by what its key holds at that moment: with
enough, the key loses the order's quantity and records its identity, and the run goes on to
confirm it; with too little, nothing changes and the run goes on to hold it. -/
theorem Step.consume {r : Except PipelineError (JobResult ⊕ Job)}
    (step : Step w s (.step j (.finalize (.consume x)) r) s')
    (placed : x.status = .onHold ∧ x.progress = {})
    (unrecorded : x.id.render ∉ s.pipeline.ledger.refs x.stockKey)
    (budget : 0 < s.pipeline.deadline.budgetMs) {a : Int}
    (stock : s.pipeline.ledger.stock? x.stockKey = some a) :
    (x.quantity.val ≤ a →
      (∀ k, s'.pipeline.ledger.stock? k =
        if k = x.stockKey then some (a - x.quantity.val) else s.pipeline.ledger.stock? k) ∧
      x.id.render ∈ s'.pipeline.ledger.refs x.stockKey ∧
      ∃ c, s'.jobs j = some (.finalize (.settle c (some (a - x.quantity.val)))) ∧
        (FinalizeStage.settle c (some (a - x.quantity.val))).After x s'.pipeline) ∧
    (a < x.quantity.val →
      s'.pipeline = s.pipeline ∧ s'.jobs j = some (.finalize (.hold x a x.quantity.val))) := by
  obtain ⟨ctx, -, rfl, rfl⟩ := step.of_label_step
  refine ⟨fun enough => ?_, fun short => ?_⟩
  · obtain ⟨l', hl'⟩ : ∃ l', s.pipeline.ledger.consume x.reservation ctx.now =
        .ok (l', { remaining := a - x.quantity.val }) := by
      simpa [enough] using Ledger.consume_reservation stock unrecorded ctx.now
    have taken : runIn (Job.finalize (.consume x)).advance ctx s.pipeline =
        (.ok (.inr (.finalize (.settle (x.markConsumed ctx.now) (some (a - x.quantity.val))))),
          { s.pipeline with ledger := l' }) := by
      rw [Job.advance_consume, Deadline.check_zero budget, hl']
    simp only [taken, System.pipeline_setJob, System.jobs_setJob, if_true, Job.after_inr]
    refine ⟨fun k => ?_, ?_, _, rfl, rfl, rfl, placed.1, by simp [placed.2]⟩
    · rw [Ledger.stock?_consume hl' k]
      by_cases hk : k = x.stockKey
      · subst hk
        simp [Order.reservation, stock]
      · simp [Order.reservation, hk]
    · rw [Ledger.refs_consume hl']
      simp [Order.reservation]
  · have refused : s.pipeline.ledger.consume x.reservation ctx.now =
        .error (.conflict a x.quantity.val) := by
      simpa [not_le.2 short] using Ledger.consume_reservation stock unrecorded ctx.now
    have held : runIn (Job.finalize (.consume x)).advance ctx s.pipeline =
        (.ok (.inr (.finalize (.hold x a x.quantity.val))), s.pipeline) := by
      rw [Job.advance_consume, Deadline.check_zero budget, refused]
    simp [held]

theorem Step.lookup_missing {r : Except PipelineError (JobResult ⊕ Job)}
    (step : Step w s (.step j (.finalize (.lookup x)) r) s')
    (budget : 0 < s.pipeline.deadline.budgetMs) (missing : s.pipeline.ledger.stock? x.stockKey = none) :
    r = .error (PipelineError.ofLedger (.notFound x.stockKey)) ∧ s'.pipeline = s.pipeline ∧
      s'.jobs j = none := by
  obtain ⟨ctx, -, rfl, rfl⟩ := step.of_label_step
  have failed : runIn (Job.finalize (.lookup x)).advance ctx s.pipeline =
      (.error (PipelineError.ofLedger (.notFound x.stockKey)), s.pipeline) := by
    rw [Job.advance_lookup, Deadline.check_zero budget, Ledger.get_of_stock?_none missing]
  simp [failed]

end Steps

section Runs

variable {w : World} {s s' : System} {ts : List Transition} {j : Nat} {x : Order}

theorem Execution.decided_along {out : FinalizeOutcome} (restocks : w.Restocks x.id)
    (run : Execution w s ts s') (fresh : ∀ u ∈ ts, u.label.starts? ≠ some j)
    (sole : ∀ u ∈ ts, u.before.SoleRun x.id) (start : s.Decided j x out) :
    (∀ u ∈ ts, u.before.Decided j x out) ∧ s'.Decided j x out :=
  Execution.along (P := fun s => s.Decided j x out)
    (fun u hu => System.Decided.step restocks (run.step_of_mem u hu) (sole u hu) (fresh u hu))
    run start

/-- A job that comes to record having told the webhooks, from a state where it was not
recording, told them exactly once on the way: telling moves it past its telling stage, which it
never leaves. -/
theorem Execution.updates_once (run : Execution w s ts s')
    (fresh : ∀ u ∈ ts, u.label.starts? ≠ some j) (start : ¬s.Recording j)
    (finish : s'.Recording j) :
    ts.countP (fun u => u.label.updates?.map Prod.fst == some j) = 1 := by
  have steps := run.step_of_mem
  have most := (Execution.countP_turns (Q := fun s => s.PastTelling j)
    (c := fun u => u.label.updates?.map Prod.fst == some j)
    (fun u hu => System.PastTelling.step (steps u hu) (fresh u hu)) (fun u hu h => by
      obtain ⟨current, hc⟩ := Label.exists_of_updates? h
      obtain ⟨before, after, -⟩ := (steps u hu).updates hc
      exact ⟨before, after⟩) run).2
  have least : ∃ u ∈ ts, (u.label.updates?.map Prod.fst == some j) = true :=
    Execution.exists_of_arises (P := fun s => s.Recording j)
      (fun u hu h => (System.Recording.of_step (steps u hu) (fresh u hu) h).imp id (by simp))
      run start finish
  have pos := List.countP_pos_iff.2 least
  omega

end Runs

/-- What a finalization of `x` did when its key held `a` units, at least the order's quantity,
as it took the stock at `tc`, its last step `tf` ending with `out` and the transitions `mid`
between them: the key lost the order's quantity and records its identity, and no other key
changed; the run ended confirmed with what was left; the order is stored `new_order`, its stock
taken and its subscribers told; and the run told the webhooks once, with the order as stored,
`new_order`. -/
structure ConfirmedRun (j : Nat) (x : Order) (a : Int) (tc : Transition) (mid : List Transition)
    (tf : Transition) (out : FinalizeOutcome) : Prop where
  took : ∀ k, tc.after.pipeline.ledger.stock? k =
    if k = x.stockKey then some (a - x.quantity.val) else tc.before.pipeline.ledger.stock? k
  recorded : x.id.render ∈ tc.after.pipeline.ledger.refs x.stockKey
  outcome : out = .confirmed (some (a - x.quantity.val))
  stored : ∃ y, tf.after.pipeline.orders.get x.id = .ok y ∧ y.row = x.row ∧
    y.status = .newOrder ∧ y.progress = { inventoryConsumed := true, notified := true }
  told_once : mid.countP (fun u => u.label.updates?.map Prod.fst == some j) = 1
  told : ∀ u ∈ mid, ∀ current, u.label.updates? = some (j, current) →
    current.id = x.id ∧ current.row = x.row ∧ current.status = .newOrder ∧
      u.after.pipeline.transport = FinalizeStage.toldOf u.before.pipeline current

/-- What a finalization of `x` did when its key held `a` units, fewer than the order's quantity,
as it tried to take the stock at `tc`: nothing changed there; the run ended on hold with both
quantities; the order is stored on hold with its progress as it was; and the run told the
webhooks nothing. -/
structure HeldRun (j : Nat) (x : Order) (a : Int) (tc : Transition) (mid : List Transition)
    (tf : Transition) (out : FinalizeOutcome) : Prop where
  unchanged : tc.after.pipeline = tc.before.pipeline
  outcome : out = .onHold a x.quantity.val
  stored : ∃ y, tf.after.pipeline.orders.get x.id = .ok y ∧ y.row = x.row ∧ y.status = .onHold ∧
    y.progress = x.progress
  untold : mid.countP (fun u => u.label.updates?.map Prod.fst == some j) = 0

/-- The outcome of a finalization is decided by the stock its key holds when the stock is taken,
whatever ran before and whatever runs beside it. Take any execution, and a finalization job `j`
taking the stock of a placed order `x` at `tc`, whose identity the ledger has not recorded,
within a budget; let it end at `tf` with `out`, not started again in between, while no other job
finalizes `x` and the surroundings keep it stored. If the key held `a` units then, at least the
order's quantity, the key lost that quantity there, the run ended confirmed with `a` less it
left, the order is stored `new_order`, taken and told, and the webhooks were told once with it
as stored; if it held fewer, nothing changed there, the run ended on hold with both quantities,
the order is stored on hold as it was, and the webhooks were told nothing. A lookup of the key
with no record fails as not found and changes nothing, ending its job; and handling the order's
message then reports that failure, so that the message is delivered again. -/
theorem finalization_outcome_by_stock {w : World} {x : Order} (restocks : w.Restocks x.id)
    {s₀ s : System} {pre mid post : List Transition} {tc tf : Transition} {j : Nat}
    {out : FinalizeOutcome} (run : Execution w s₀ (pre ++ tc :: (mid ++ tf :: post)) s)
    (consumes : tc.label.consumes? = some (j, x)) (ends : tf.label.finished? = some (j, out))
    (fresh : ∀ u ∈ mid, u.label.starts? ≠ some j) (sole : ∀ u ∈ mid, u.before.SoleRun x.id)
    (placed : x.status = .onHold ∧ x.progress = {})
    (unrecorded : x.id.render ∉ tc.before.pipeline.ledger.refs x.stockKey)
    (budget : 0 < tc.before.pipeline.deadline.budgetMs) :
    (∀ a, tc.before.pipeline.ledger.stock? x.stockKey = some a → x.quantity.val ≤ a →
      ConfirmedRun j x a tc mid tf out) ∧
    (∀ a, tc.before.pipeline.ledger.stock? x.stockKey = some a → a < x.quantity.val →
      HeldRun j x a tc mid tf out) ∧
    (∀ t ∈ pre ++ tc :: (mid ++ tf :: post), ∀ i, t.label.looksUp? = some (i, x) →
      0 < t.before.pipeline.deadline.budgetMs → t.before.pipeline.ledger.stock? x.stockKey = none →
      t.label.result? = some (.error (PipelineError.ofLedger (.notFound x.stockKey))) ∧
        t.after.pipeline = t.before.pipeline ∧ t.after.jobs i = none) ∧
    ∀ (ctx : Context) (p : Pipeline) (m : Message) (event : OrderCreated),
      decodeCreated m = .ok event → event.orderId = x.id → p.orders.get x.id = .ok x →
      0 < p.deadline.budgetMs → p.ledger.stock? x.stockKey = none →
      effectIn (handle m) ctx p = (.error (PipelineError.ofLedger (.notFound x.stockKey)), p) := by
  have steps := run.step_of_mem
  obtain ⟨rc, hrc⟩ := Label.eq_of_consumes? consumes
  have consumeStep : Step w tc.before (.step j (.finalize (.consume x)) rc) tc.after :=
    hrc ▸ steps tc (by simp)
  have between := (Execution.split (Execution.split run).2).1
  obtain ⟨stf, hstf⟩ := Label.eq_of_finished? ends
  obtain ⟨ctxf, runningf, resultf, afterf⟩ := (hstf ▸ steps tf (by simp)).of_label_step
  have last : ∀ out', tf.before.Decided j x out' →
      out = out' ∧ tf.after.pipeline.Ended x out' ∧ stf.outcome? = some out' ∧ stf.After x tf.before.pipeline := by
    intro out' decided
    obtain ⟨decided, past⟩ := decided.running runningf
    obtain ⟨same, ended⟩ := (FinalizeStage.advance_after ctxf decided past).1 out resultf.symm
    exact ⟨same, by rw [afterf]; exact ended, decided, past⟩
  refine ⟨fun a stock enough => ?_, fun a stock short => ?_, fun t ht i h budget' missing => ?_,
    fun ctx p m event decoded names stored budget' missing =>
      handle_of_missing_stock decoded names stored placed budget' missing⟩
  · obtain ⟨took, recorded, c, settling, past⟩ :=
      (consumeStep.consume placed unrecorded budget stock).1 enough
    obtain ⟨alongMid, atEnd⟩ := between.decided_along restocks fresh sole (.inr ⟨_, settling, rfl, past⟩)
    obtain ⟨rfl, ⟨y, hy, row, status, progress⟩, decided, pastEnd⟩ := last _ atEnd
    refine ⟨took, recorded, rfl, ⟨y, hy, row, status, progress⟩, ?_, fun u hu current h => ?_⟩
    · have settles : ¬tc.after.Recording j := by
        rintro ⟨c', r', h⟩
        rw [settling] at h
        cases h
      have records : tf.before.Recording j := by
        obtain ⟨c', rfl⟩ := FinalizeStage.eq_record_of_finished decided pastEnd resultf.symm
        exact ⟨c', _, runningf⟩
      exact between.updates_once fresh settles records
    · obtain ⟨c', r, running, transport⟩ := (between.step_of_mem u hu).announcing h
      obtain ⟨-, rfl, hid, hrow, hstatus, -⟩ := (alongMid u hu).running running
      exact ⟨hid, hrow, hstatus, transport⟩
  · obtain ⟨unchanged, holding⟩ := (consumeStep.consume placed unrecorded budget stock).2 short
    obtain ⟨alongMid, atEnd⟩ := between.decided_along restocks fresh sole (.inr ⟨_, holding, rfl, rfl⟩)
    obtain ⟨rfl, ⟨y, hy, row, status, progress⟩, -⟩ := last _ atEnd
    refine ⟨unchanged, rfl, ⟨y, hy, row, status.trans placed.1, progress⟩,
      List.countP_eq_zero.2 fun u hu h => ?_⟩
    -- a run that holds the order never reaches its telling
    obtain ⟨current, hc⟩ := Label.exists_of_updates? h
    obtain ⟨c, r, running, -⟩ := (between.step_of_mem u hu).announcing hc
    have decided := ((alongMid u hu).running running).1
    simp [FinalizeStage.outcome?] at decided
  · obtain ⟨r, hr⟩ := Label.eq_of_looksUp? h
    obtain ⟨failed, same, ended⟩ := (hr ▸ steps t ht).lookup_missing budget' missing
    exact ⟨by rw [hr, failed]; rfl, same, ended⟩

/-- One order finalized twice on one job number while its key is restocked between the lookup
and the taking of the stock: first to one unit, fewer than its two, so the run holds it though
the lookup saw three; then, delivered again, to five, so the run confirms it with three left
though the lookup saw one. -/
theorem finalization_outcome_across_restocks :
    let entry : NewOrder :=
      { tenant := ⟨"t1", Eq.refl "t1", Eq.refl false⟩
        seller := ⟨"s1", Eq.refl "s1", Eq.refl false⟩
        hub := ⟨"H1", Eq.refl "H1", Eq.refl false⟩
        sku := ⟨"K1", Eq.refl "K1", Eq.refl false⟩
        quantity := ⟨2, by decide, by decide⟩ }
    let o := Order.place default entry Instant.epoch
    let p : Pipeline :=
      { bucket := "orders"
        deadline := ⟨5000⟩
        webhookRetry := ⟨1, 0⟩
        objects := .memory {}
        queue := WorkQueue.empty 5
        bus := {}
        orders := ⟨[o], []⟩
        ledger := ⟨[{ record := ⟨default, o.stockKey, 3, Instant.epoch⟩, consumed := [] }]⟩ }
    let ctx : Context := ⟨Instant.epoch, 0, fun _ => default⟩
    let restock : Nat → Move := fun n => .env fun q =>
      { q with ledger := match q.ledger.upsert o.stockKey n default Instant.epoch with
        | .ok (l, _) => l
        | .error _ => q.ledger }
    let w : World := ⟨fun _ => True, fun q q' => q'.orders = q.orders ∧
      ∃ k n fresh now r, q.ledger.upsert k n fresh now = .ok (q'.ledger, r)⟩
    let run := (System.init p).play
      [.start 0 (.finalize (.load o.id)), .step 0 ctx, .step 0 ctx, restock 1, .step 0 ctx,
        .step 0 ctx,
        .start 0 (.finalize (.load o.id)), .step 0 ctx, .step 0 ctx, restock 5, .step 0 ctx,
        .step 0 ctx, .step 0 ctx, .step 0 ctx, .step 0 ctx]
    w.Restocks o.id ∧ Execution w (System.init p) run.1 run.2 ∧
      (∃ pre tc tf post, run.1 = pre ++ tc :: ([] ++ tf :: post) ∧
        (∃ t ∈ pre, t.label.looksUp? = some (0, o) ∧
          t.before.pipeline.ledger.stock? o.stockKey = some 3) ∧
        tc.label.consumes? = some (0, o) ∧ tf.label.finished? = some (0, .onHold 1 2) ∧
        tc.before.pipeline.ledger.stock? o.stockKey = some 1 ∧
        HeldRun 0 o 1 tc [] tf (.onHold 1 2)) ∧
      ∃ pre tc mid tf post, run.1 = pre ++ tc :: (mid ++ tf :: post) ∧
        (∃ t ∈ pre, t.label.looksUp? = some (0, o) ∧
          t.before.pipeline.ledger.stock? o.stockKey = some 1) ∧
        tc.label.consumes? = some (0, o) ∧ tf.label.finished? = some (0, .confirmed (some 3)) ∧
        tc.before.pipeline.ledger.stock? o.stockKey = some 5 ∧
        ConfirmedRun 0 o 5 tc mid tf (.confirmed (some 3)) := by
  intro entry o p ctx restock w run
  have restocks : w.Restocks o.id := by
    rintro q q' ⟨orders, k, n, fresh, now, r, h⟩
    exact ⟨by rw [orders], .inr ⟨k, n, fresh, now, r, h⟩⟩
  have restocked : ∀ n : Nat, (restock n).Allowed w := by
    intro n q
    obtain ⟨l, r, h⟩ : ∃ l r, q.ledger.upsert o.stockKey n default Instant.epoch = .ok (l, r) := by
      unfold Ledger.upsert
      rw [if_neg (by omega)]
      split <;> exact ⟨_, _, rfl⟩
    refine ⟨rfl, o.stockKey, n, default, Instant.epoch, r, ?_⟩
    simp only [h]
  have execution : Execution w (System.init p) run.1 run.2 := by
    refine Execution.play ?_ _
    simp only [List.forall_mem_cons]
    refine ⟨?_, trivial, trivial, restocked 1, trivial, trivial, ?_, trivial, trivial, restocked 5,
      trivial, trivial, trivial, trivial, trivial, ?_⟩
    · exact ⟨by simp [Job.Initial], trivial⟩
    · exact ⟨by simp [Job.Initial], trivial⟩
    · simp
  let t₀ : Transition := ⟨System.init p, .env, System.init p⟩
  have facts : run.1.length = 15 ∧
      (∃ t ∈ run.1.take 4, t.label.looksUp? = some (0, o) ∧
        t.before.pipeline.ledger.stock? o.stockKey = some 3) ∧
      (run.1.getD 4 t₀).label.consumes? = some (0, o) ∧
      (run.1.getD 5 t₀).label.finished? = some (0, .onHold 1 2) ∧
      (run.1.getD 4 t₀).before.pipeline.ledger.stock? o.stockKey = some 1 ∧
      o.id.render ∉ (run.1.getD 4 t₀).before.pipeline.ledger.refs o.stockKey ∧
      0 < (run.1.getD 4 t₀).before.pipeline.deadline.budgetMs ∧
      (∃ t ∈ run.1.take 10, t.label.looksUp? = some (0, o) ∧
        t.before.pipeline.ledger.stock? o.stockKey = some 1) ∧
      (run.1.getD 10 t₀).label.consumes? = some (0, o) ∧
      (run.1.getD 14 t₀).label.finished? = some (0, .confirmed (some 3)) ∧
      (run.1.getD 10 t₀).before.pipeline.ledger.stock? o.stockKey = some 5 ∧
      o.id.render ∉ (run.1.getD 10 t₀).before.pipeline.ledger.refs o.stockKey ∧
      0 < (run.1.getD 10 t₀).before.pipeline.deadline.budgetMs ∧
      ∀ u ∈ (run.1.drop 11).take 3, u.label.starts? ≠ some 0 := by
    decide +kernel
  obtain ⟨length, looked₁, consumes₁, ends₁, stock₁, unrecorded₁, budget₁, looked₂, consumes₂,
    ends₂, stock₂, unrecorded₂, budget₂, fresh⟩ := facts
  have around : ∀ i < run.1.length, run.1.getD i t₀ :: run.1.drop (i + 1) = run.1.drop i :=
    fun i h => by simp [List.getD, h, List.getElem_cons_drop]
  have split₁ : run.1 = run.1.take 4 ++ run.1.getD 4 t₀ :: ([] ++ run.1.getD 5 t₀ :: run.1.drop 6) := by
    rw [List.nil_append, around 5 (by omega), around 4 (by omega), List.take_append_drop]
  have split₂ : run.1 = run.1.take 10 ++
      run.1.getD 10 t₀ :: ((run.1.drop 11).take 3 ++ run.1.getD 14 t₀ :: run.1.drop 15) := by
    have later : run.1.drop 14 = (run.1.drop 11).drop 3 := by rw [List.drop_drop]
    rw [around 14 (by omega), later, List.take_append_drop, around 10 (by omega),
      List.take_append_drop]
  have run₁ : Execution w (System.init p) (run.1.take 4 ++
      run.1.getD 4 t₀ :: ([] ++ run.1.getD 5 t₀ :: run.1.drop 6)) run.2 := by
    rw [← split₁]
    exact execution
  have run₂ : Execution w (System.init p) (run.1.take 10 ++
      run.1.getD 10 t₀ :: ((run.1.drop 11).take 3 ++ run.1.getD 14 t₀ :: run.1.drop 15)) run.2 := by
    rw [← split₂]
    exact execution
  have sole : ∀ u ∈ (run.1.drop 11).take 3, u.before.SoleRun o.id := fun u hu =>
    System.soleRun_of_play (j := 0) rfl o.id u (List.mem_of_mem_drop (List.mem_of_mem_take hu))
  have held := (finalization_outcome_by_stock restocks run₁ consumes₁ ends₁ (by simp) (by simp) ⟨rfl, rfl⟩
    unrecorded₁ budget₁).2.1 1 stock₁ (by decide +kernel)
  have confirmed := (finalization_outcome_by_stock restocks run₂ consumes₂ ends₂ fresh sole
    ⟨rfl, rfl⟩ unrecorded₂ budget₂).1 5 stock₂ (by decide +kernel)
  exact ⟨restocks, execution, ⟨_, _, _, _, split₁, looked₁, consumes₁, ends₁, stock₁, held⟩,
    _, _, _, _, _, split₂, looked₂, consumes₂, ends₂, stock₂, confirmed⟩

end Fulfilment
