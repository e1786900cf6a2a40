import Fulfilment.Pipeline.Interleaving

/-!
Running pipeline effects. `runIn` of a `PipelineM` computation gives its result and the
pipeline after it; these equations take `runIn` through `bind` and through each primitive, so
that a stage of a job is computed by rewriting alone. A failure keeps the changes made before
it, which `runIn_bind` shows: the error is returned with the pipeline reached so far.
-/

namespace Fulfilment.Pipeline

variable {α β ε : Type} {ctx : Context} {p : Pipeline}

@[simp] theorem runIn_pure (a : α) : runIn (pure a : PipelineM α) ctx p = (.ok a, p) := rfl

theorem runIn_bind (x : PipelineM α) (f : α → PipelineM β) :
    runIn (x >>= f) ctx p =
      match runIn x ctx p with
      | (.ok a, q) => runIn (f a) ctx q
      | (.error e, q) => (.error e, q) := by
  unfold runIn
  simp only [bind, ExceptT.bind, ExceptT.mk, ExceptT.run, ReaderT.run, ReaderT.bind, StateT.run,
    StateT.bind]
  cases x ctx p with
  | mk r q => cases r <;> rfl

@[simp] theorem runIn_get : runIn (get : PipelineM Pipeline) ctx p = (.ok p, p) := rfl

@[simp] theorem runIn_set (q : Pipeline) : runIn (set q : PipelineM PUnit) ctx p = (.ok ⟨⟩, q) :=
  rfl

@[simp] theorem runIn_read : runIn (read : PipelineM Context) ctx p = (.ok ctx, p) := rfl

@[simp] theorem runIn_throw (e : PipelineError) :
    runIn (throw e : PipelineM α) ctx p = (.error e, p) := rfl

@[simp] theorem runIn_lift (convert : ε → PipelineError) (r : Except ε α) :
    runIn (lift convert r) ctx p = (r.mapError convert, p) := by
  cases r <;> rfl

@[simp] theorem runIn_checkpoint (step : String) :
    runIn (checkpoint step) ctx p = (p.deadline.check 0 step, p) := by
  simp only [checkpoint, runIn_bind, runIn_get, runIn_lift]
  cases p.deadline.check 0 step <;> rfl

theorem runIn_saveOrder (o : Order) :
    runIn (saveOrder o) ctx p =
      match p.orders.save o with
      | .ok orders => (.ok (), { p with orders })
      | .error e => (.error (PipelineError.ofStore e), p) := by
  simp only [saveOrder, runIn_bind, runIn_get, runIn_lift]
  cases p.orders.save o <;> rfl

@[simp] theorem runIn_freshId :
    runIn (freshId : PipelineM Uuid) ctx p =
      (.ok (ctx.identity p.issued), { p with issued := p.issued + 1 }) := rfl

@[simp] theorem runIn_publish (m : Message) :
    runIn (publish m : PipelineM Unit) ctx p = (.ok (), { p with bus := p.bus.publish m }) := rfl

theorem runIn_notify (tenant : TenantId) (event : String) (data : Json.Value) :
    runIn (notify tenant event data : PipelineM Nat) ctx p =
      let sent := (Webhook.dispatch Webhook.Recorder.send p.registry p.webhookRetry webhookCapacity tenant
        event data).run p.transport
      (.ok sent.1.length, { p with transport := sent.2 }) := rfl

theorem runIn_quarantine (task : IngestionTask) (header : Csv.Record) (rows : List Csv.Record) :
    runIn (quarantine task header rows : PipelineM (Option String)) ctx p =
      let key := quarantineKey task.key ctx.now
      let written := p.objects.put task.bucket key (Csv.write (header :: rows))
      (.ok (if written.2 matches .ok () then some key else none),
        { p with objects := written.1 }) := rfl

end Fulfilment.Pipeline
