import Mathlib.Tactic.SplitIfs
import Fulfilment.Proofs.Effects

/-!
One step of a job, computed. For each stage of a finalization and of the placing of a task's
rows there is one equation giving the result of its step and the pipeline after it, in terms
of the calls it makes (the deadline check, the order store, the ledger, the catalog, the
webhooks). The stages that only read return the pipeline unchanged, which the equations show at
a glance; later proofs rewrite with them and never unfold a stage.
-/

namespace Fulfilment.Job

open Pipeline Wire

variable {ctx : Context} {p : Pipeline}

@[simp] theorem after_inr (job : Job) : after (.ok (.inr job)) = some job := rfl
@[simp] theorem after_inl (r : JobResult) : after (.ok (.inl r)) = none := rfl
@[simp] theorem after_error (e : PipelineError) : after (.error e) = none := rfl

theorem forall_after_inr {P : Job → Prop} {job : Job} :
    (∀ job', after (.ok (.inr job)) = some job' → P job') ↔ P job := by
  simp

theorem after_of_interrupted {job job' : Job} {r : Except PipelineError (JobResult ⊕ Job)}
    (failed : job.Interrupted r) (h : after r = some job') :
    ∃ b raw entry rest reason, job = .ingest (.claim b raw entry rest) ∧
      job' = .ingest (.row (b.place raw (.rejected (.persistFailed reason))) rest) := by
  cases job with
  | finalize st => obtain ⟨-, e, rfl⟩ := failed; simp at h
  | fetch => obtain ⟨e, rfl⟩ := failed; simp at h
  | ingest st =>
    cases st with
    | row b pending =>
      cases pending with
      | nil => exact failed.elim
      | cons raw rest => obtain ⟨-, e, rfl⟩ := failed; simp at h
    | hub => obtain ⟨e, rfl⟩ := failed; simp at h
    | claim b raw entry rest =>
      obtain ⟨reason, rfl⟩ := failed
      simp only [after_inr, Option.some.injEq] at h
      exact ⟨b, raw, entry, rest, reason, rfl, h.symm⟩
    | announce => exact failed.elim
    | tell => exact failed.elim
    | quarantine => exact failed.elim

theorem runIn_finalize (st : FinalizeStage) :
    runIn (finalize st).advance ctx p =
      match runIn st.advance ctx p with
      | (.ok (.finish o), q) => (.ok (.inl (.finalized o)), q)
      | (.ok (.goto t _), q) => (.ok (.inr (.finalize t)), q)
      | (.error e, q) => (.error e, q) := by
  simp only [advance, runIn_bind]
  rcases runIn st.advance ctx p with ⟨_ | (_ | _), q⟩ <;> rfl

theorem advance_load (id : OrderId) :
    runIn (finalize (.load id)).advance ctx p =
      ((match p.deadline.check 0 "load order", p.orders.get id with
        | .error e, _ => .error e
        | .ok (), .error e => .error (PipelineError.ofStore e)
        | .ok (), .ok o =>
          .ok (if o.status = .newOrder ∧ o.progress.notified then .inl (.finalized .alreadyFinalized)
            else .inr (.finalize (if o.progress.inventoryConsumed then .settle o none
              else .lookup o)))), p) := by
  rw [runIn_finalize]
  simp only [FinalizeStage.advance, runIn_bind, runIn_checkpoint, runIn_get, runIn_lift]
  cases p.deadline.check 0 "load order" with
  | error e => rfl
  | ok u =>
    cases hget : p.orders.get id with
    | error e => simp only [hget, Except.mapError]
    | ok o =>
      simp only [hget, Except.mapError]
      split_ifs <;> rfl

theorem advance_lookup (o : Order) :
    runIn (finalize (.lookup o)).advance ctx p =
      ((match p.deadline.check 0 "inventory lookup", p.ledger.get o.stockKey with
        | .error e, _ => .error e
        | .ok (), .error e => .error (PipelineError.ofLedger e)
        | .ok (), .ok _ => .ok (.inr (.finalize (.consume o)))), p) := by
  rw [runIn_finalize]
  simp only [FinalizeStage.advance, runIn_bind, runIn_checkpoint, runIn_get, runIn_lift]
  cases p.deadline.check 0 "inventory lookup" with
  | error e => rfl
  | ok u =>
    cases hget : p.ledger.get o.stockKey with
    | error e => simp only [hget, Except.mapError]
    | ok r => simp only [hget, Except.mapError]; rfl

theorem advance_consume (o : Order) :
    runIn (finalize (.consume o)).advance ctx p =
      match p.deadline.check 0 "inventory consume", p.ledger.consume o.reservation ctx.now with
      | .error e, _ => (.error e, p)
      | .ok (), .ok (l, out) =>
        (.ok (.inr (.finalize (.settle (o.markConsumed ctx.now) (some out.remaining)))),
          { p with ledger := l })
      | .ok (), .error (.conflict a q) => (.ok (.inr (.finalize (.hold o a q))), p)
      | .ok (), .error e => (.error (PipelineError.ofLedger e), p) := by
  rw [runIn_finalize]
  simp only [FinalizeStage.advance, runIn_bind, runIn_checkpoint, runIn_get, runIn_read]
  cases p.deadline.check 0 "inventory consume" with
  | error e => rfl
  | ok u =>
    dsimp only
    cases p.ledger.consume o.reservation ctx.now with
    | ok r => rfl
    | error e => cases e <;> rfl

theorem advance_hold (o : Order) (a q : Int) :
    runIn (finalize (.hold o a q)).advance ctx p =
      match p.deadline.check 0 "hold order", o.hold ctx.now with
      | .error e, _ => (.error e, p)
      | .ok (), .error e => (.error (PipelineError.ofDomain e), p)
      | .ok (), .ok held =>
        match p.orders.save held with
        | .ok orders => (.ok (.inl (.finalized (.onHold a q))), { p with orders })
        | .error e => (.error (PipelineError.ofStore e), p) := by
  rw [runIn_finalize]
  simp only [FinalizeStage.advance, runIn_bind, runIn_checkpoint, runIn_read, runIn_lift]
  cases p.deadline.check 0 "hold order" with
  | error e => rfl
  | ok u =>
    dsimp only
    cases o.hold ctx.now with
    | error e => rfl
    | ok held =>
      simp only [Except.mapError, runIn_saveOrder]
      cases p.orders.save held <;> rfl

theorem advance_settle (o : Order) (remaining : Option Int) :
    runIn (finalize (.settle o remaining)).advance ctx p =
      if o.status = .newOrder then (.ok (.inr (.finalize (.tell o remaining))), p) else
      match o.confirm ctx.now, p.deadline.check 0 "confirm order" with
      | .error e, _ => (.error (PipelineError.ofDomain e), p)
      | .ok _, .error e => (.error e, p)
      | .ok confirmed, .ok () =>
        match p.orders.save confirmed with
        | .ok orders => (.ok (.inr (.finalize (.tell confirmed remaining))), { p with orders })
        | .error e => (.error (PipelineError.ofStore e), p) := by
  rw [runIn_finalize]
  simp only [FinalizeStage.advance]
  split_ifs
  · rfl
  · simp only [runIn_bind, runIn_read, runIn_lift]
    cases o.confirm ctx.now with
    | error e => rfl
    | ok confirmed =>
      simp only [Except.mapError, runIn_checkpoint]
      cases p.deadline.check 0 "confirm order" with
      | error e => rfl
      | ok u =>
        simp only [runIn_saveOrder]
        cases p.orders.save confirmed <;> rfl

theorem advance_tell (o : Order) (remaining : Option Int) :
    runIn (finalize (.tell o remaining)).advance ctx p =
      if o.progress.notified then (.ok (.inl (.finalized (.confirmed remaining))), p) else
      ((match p.deadline.check 0 "notify", p.orders.get o.id with
        | .error e, _ => .error e
        | .ok (), .error e => .error (PipelineError.ofStore e)
        | .ok (), .ok current => .ok (.inr (.finalize (.announce o current remaining)))), p) := by
  rw [runIn_finalize]
  simp only [FinalizeStage.advance]
  split_ifs
  · rfl
  · simp only [runIn_bind, runIn_checkpoint, runIn_get, runIn_lift]
    cases p.deadline.check 0 "notify" with
    | error e => rfl
    | ok u =>
      cases hget : p.orders.get o.id with
      | error e => simp only [hget, Except.mapError]
      | ok current => simp only [hget, Except.mapError]; rfl

theorem advance_announce (o current : Order) (remaining : Option Int) :
    runIn (finalize (.announce o current remaining)).advance ctx p =
      (.ok (.inr (.finalize (.record o remaining))),
        { p with transport := ((Webhook.dispatch Webhook.Recorder.send p.registry p.webhookRetry
          webhookCapacity current.tenant orderUpdatedTopic (orderJson current)).run p.transport).2 }) :=
  rfl

theorem advance_record (o : Order) (remaining : Option Int) :
    runIn (finalize (.record o remaining)).advance ctx p =
      match p.orders.save (o.markNotified ctx.now) with
      | .ok orders => (.ok (.inl (.finalized (.confirmed remaining))), { p with orders })
      | .error e => (.error (PipelineError.ofStore e), p) := by
  rw [runIn_finalize]
  simp only [FinalizeStage.advance, runIn_bind, runIn_read, runIn_saveOrder]
  cases p.orders.save (o.markNotified ctx.now) <;> rfl

theorem runIn_ingest (st : BatchStage) :
    runIn (ingest st).advance ctx p =
      match runIn st.advance ctx p with
      | (.ok (.finish r), q) => (.ok (.inl (.processed r)), q)
      | (.ok (.goto t _), q) => (.ok (.inr (.ingest t)), q)
      | (.error e, q) => (.error e, q) := by
  simp only [advance, runIn_bind]
  rcases runIn st.advance ctx p with ⟨_ | (_ | _), q⟩ <;> rfl

theorem advance_row_nil (b : Batch) :
    runIn (ingest (.row b [])).advance ctx p =
      (.ok (if b.rejected.isEmpty then .inl (.processed b.report) else .inr (.ingest (.quarantine b))),
        p) := by
  rw [runIn_ingest]
  simp only [BatchStage.advance]
  split_ifs <;> rfl

theorem advance_row (b : Batch) (raw : Csv.Record) (rest : List Csv.Record) :
    runIn (ingest (.row b (raw :: rest))).advance ctx p =
      (.ok (.inr (.ingest
        (match Csv.texts raw with
        | .error fault => .row (b.place raw (.rejected (.invalidEncoding fault.field))) rest
        | .ok fields =>
          match b.schema.extract fields with
          | .error why => .row (b.place raw (.rejected why)) rest
          | .ok entry =>
            if p.knowsSku entry.sku then .hub b raw entry rest
            else .row (b.place raw (.rejected (.unknownSku entry.sku))) rest))), p) := by
  rw [runIn_ingest]
  simp only [BatchStage.advance]
  cases Csv.texts raw with
  | error fault => rfl
  | ok fields =>
    dsimp only
    cases b.schema.extract fields with
    | error why => rfl
    | ok entry =>
      simp only [runIn_bind, runIn_get]
      split_ifs <;> simp_all

theorem advance_hub (b : Batch) (raw : Csv.Record) (entry : NewOrder) (rest : List Csv.Record) :
    runIn (ingest (.hub b raw entry rest)).advance ctx p =
      (.ok (.inr (.ingest (if p.knowsHub entry.hub then .claim b raw entry rest
        else .row (b.place raw (.rejected (.unknownHub entry.hub))) rest))), p) := by
  rw [runIn_ingest]
  simp only [BatchStage.advance, runIn_bind, runIn_get]
  split_ifs <;> simp_all

theorem advance_claim (b : Batch) (raw : Csv.Record) (entry : NewOrder) (rest : List Csv.Record) :
    runIn (ingest (.claim b raw entry rest)).advance ctx p =
      let order := Order.place ⟨ctx.identity p.issued⟩ entry ctx.now
      let p' := { p with issued := p.issued + 1 }
      match p.orders.insertIngested order b.key with
      | .error e => (.ok (.inr (.ingest (.row (b.place raw (.rejected (.persistFailed e.message))) rest))), p')
      | .ok (_, false) => (.ok (.inr (.ingest (.row (b.place raw .duplicate) rest))), p')
      | .ok (orders, true) => (.ok (.inr (.ingest (.announce b raw order rest))), { p' with orders }) := by
  rw [runIn_ingest]
  simp only [BatchStage.advance, runIn_bind, runIn_freshId, runIn_read, runIn_get]
  cases p.orders.insertIngested (Order.place ⟨ctx.identity p.issued⟩ entry ctx.now) b.key with
  | error e => rfl
  | ok r =>
    obtain ⟨orders, _ | _⟩ := r <;> rfl

theorem advance_announce_created (b : Batch) (raw : Csv.Record) (order : Order)
    (rest : List Csv.Record) :
    runIn (ingest (.announce b raw order rest)).advance ctx p =
      (.ok (.inr (.ingest (.tell b raw order rest))),
        { p with issued := p.issued + 1,
                 bus := p.bus.publish (Message.ofJson (ctx.identity p.issued) orderCreatedTopic
                   order.id.render (orderCreatedJson (OrderCreated.ofOrder order)) ctx.now) }) :=
  rfl

theorem advance_tell_created (b : Batch) (raw : Csv.Record) (order : Order)
    (rest : List Csv.Record) :
    runIn (ingest (.tell b raw order rest)).advance ctx p =
      (.ok (.inr (.ingest (.row (b.place raw (.created order.id)) rest))),
        { p with transport := ((Webhook.dispatch Webhook.Recorder.send p.registry p.webhookRetry
          webhookCapacity order.tenant orderCreatedTopic (orderJson order)).run p.transport).2 }) :=
  rfl

theorem advance_quarantine (b : Batch) :
    runIn (ingest (.quarantine b)).advance ctx p =
      let key := quarantineKey b.task.key ctx.now
      let written := p.objects.put b.task.bucket key (Csv.write (b.rawHeader :: b.rejected))
      (.ok (.inl (.processed
          { b.report with quarantineKey := if written.2 matches .ok () then some key else none })),
        { p with objects := written.1 }) :=
  rfl

theorem advance_fetch (messageId : String) (task : IngestionTask) :
    runIn (fetch messageId task).advance ctx p =
      ((match p.objects.get task.bucket task.key with
        | .error e => .error (PipelineError.ofObjects e)
        | .ok bytes =>
          match Csv.records bytes with
          | [] => .error ⟨.validation, task.key ++ " is empty"⟩
          | rawHeader :: rows =>
            match Csv.texts rawHeader with
            | .error fault =>
              .error ⟨.validation, task.key ++ ": header is not valid UTF-8: " ++ fault.message⟩
            | .ok header =>
              match CsvSchema.ofHeader header with
              | .error e => .error (PipelineError.ofDomain e)
              | .ok schema => .ok (.inr (.ingest (.row { messageId, task, rawHeader, schema } rows)))),
        p) := by
  simp only [advance, Pipeline.fetch, runIn_bind, runIn_get, runIn_lift]
  cases p.objects.get task.bucket task.key with
  | error e => rfl
  | ok bytes =>
    simp only [Except.mapError]
    cases Csv.records bytes with
    | nil => rfl
    | cons rawHeader rows =>
      dsimp only
      cases Csv.texts rawHeader with
      | error fault => rfl
      | ok header =>
        simp only [runIn_bind, runIn_lift, runIn_pure]
        cases CsvSchema.ofHeader header <;> rfl

theorem fetch_after {messageId : String} {task : IngestionTask} {job : Job}
    (h : after (runIn (fetch messageId task).advance ctx p).1 = some job) :
    ∃ b pending, job = .ingest (.row b pending) := by
  rw [advance_fetch] at h
  repeat' split at h
  all_goals simp only [after_error, after_inr, Option.some.injEq, reduceCtorEq] at h
  exact ⟨_, _, h.symm⟩

end Fulfilment.Job
