import Mathlib
import Fulfilment.Proofs.Orders
import Fulfilment.Proofs.Stages

/-!
Placing the rows of one uploaded object. Each record placed is accounted for by its outcome
(`RowSound`), and every step keeps this account while the order store grows (`PlaceStep`).
-/

namespace Fulfilment

/-- An uploaded object as one queue message asks for it: the message, the task, and what the
object reads as. -/
structure Upload where
  messageId : String
  task : IngestionTask
  rawHeader : Csv.Record
  schema : CsvSchema
  rows : List Csv.Record

namespace Upload

variable (u : Upload)

def key (n : Nat) : RowKey := RowKey.forRow u.messageId u.task.bucket u.task.key n

/-- A record read as an order row: UTF-8 fields making an entry, or why not. -/
def read (raw : Csv.Record) : Except RowRejection NewOrder :=
  match Csv.texts raw with
  | .error fault => .error (.invalidEncoding fault.field)
  | .ok fields => u.schema.extract fields

/-- The object's bytes read as the upload's header and records, the header naming the
columns the schema needs. -/
def Reads (bytes : List UInt8) : Prop :=
  Csv.records bytes = u.rawHeader :: u.rows ∧
    ∃ header, Csv.texts u.rawHeader = .ok header ∧ CsvSchema.ofHeader header = .ok u.schema

end Upload

/-- What outcome `out` says of data record `n`, read `raw`, against the catalog of `p` and the
order store `store`. -/
def RowSound (u : Upload) (p : Pipeline) (store : OrderStore) (n : Nat) (raw : Csv.Record) :
    RowOutcome → Prop
  | .created id => ∃ e, u.read raw = .ok e ∧ p.knowsSku e.sku ∧ p.knowsHub e.hub ∧
      u.key n ∈ store.ingested ∧ ∃ o, store.get id = .ok o ∧ o.row = e
  | .duplicate => ∃ e, u.read raw = .ok e ∧ p.knowsSku e.sku ∧ p.knowsHub e.hub ∧
      u.key n ∈ store.ingested
  | .rejected why => u.read raw = .error why ∨ ∃ e, u.read raw = .ok e ∧
      (p.knowsSku e.sku = false ∧ why = .unknownSku e.sku ∨
        p.knowsSku e.sku ∧ p.knowsHub e.hub = false ∧ why = .unknownHub e.hub ∨
        p.knowsSku e.sku ∧ p.knowsHub e.hub ∧ ∃ m, why = .persistFailed m)

/-- `s'` keeps every row key and every order of `s`. -/
structure OrderStore.Grows (s s' : OrderStore) : Prop where
  ingested : ∀ k ∈ s.ingested, k ∈ s'.ingested
  orders : ∀ id o, s.get id = .ok o → s'.get id = .ok o

namespace OrderStore.Grows

variable {s s' s'' : OrderStore}

theorem refl : s.Grows s := ⟨fun _ => id, fun _ _ => id⟩

theorem trans (h : s.Grows s') (h' : s'.Grows s'') : s.Grows s'' :=
  ⟨fun k hk => h'.ingested k (h.ingested k hk), fun id o ho => h'.orders id o (h.orders id o ho)⟩

theorem of_insertIngested {o : Order} {k : RowKey} (h : s.insertIngested o k = .ok (s', true)) :
    s.Grows s' := by
  have h' := OrderStore.insertIngested_eq_ok h
  simp only [if_true] at h'
  refine ⟨fun k' hk' => ?_, fun id x hx => OrderStore.get_insertIngested h hx⟩
  rw [h'.2.2]
  exact List.mem_append_left _ hk'

end OrderStore.Grows

theorem RowSound.mono {u : Upload} {p : Pipeline} {store store' : OrderStore} {n : Nat}
    {raw : Csv.Record} {out : RowOutcome} (sound : RowSound u p store n raw out)
    (grows : store.Grows store') : RowSound u p store' n raw out := by
  cases out with
  | created id =>
    obtain ⟨e, read, sku, hub, key, o, ho, row⟩ := sound
    exact ⟨e, read, sku, hub, grows.ingested _ key, o, grows.orders _ _ ho, row⟩
  | duplicate =>
    obtain ⟨e, read, sku, hub, key⟩ := sound
    exact ⟨e, read, sku, hub, grows.ingested _ key⟩
  | rejected => exact sound

/-- A batch of the upload whose placed records, followed by `rest`, are the upload's data
records, each accounted for by its outcome. -/
structure BatchSound (u : Upload) (p : Pipeline) (store : OrderStore) (b : Batch)
    (rest : List Csv.Record) : Prop where
  messageId : b.messageId = u.messageId
  task : b.task = u.task
  schema : b.schema = u.schema
  rows : b.placed.map Prod.fst ++ rest = u.rows
  placed : ∀ n raw out, b.placed[n]? = some (raw, out) → RowSound u p store n raw out

namespace BatchSound

variable {u : Upload} {p : Pipeline} {store : OrderStore} {b : Batch} {rest : List Csv.Record}

theorem mono {store' : OrderStore} (sound : BatchSound u p store b rest) (grows : store.Grows store') :
    BatchSound u p store' b rest :=
  ⟨sound.messageId, sound.task, sound.schema, sound.rows,
    fun n raw out h => (sound.placed n raw out h).mono grows⟩

theorem key_eq (sound : BatchSound u p store b rest) : b.key = u.key b.index := by
  simp [Batch.key, Upload.key, sound.messageId, sound.task]

theorem read_eq (sound : BatchSound u p store b rest) (raw : Csv.Record) :
    (match Csv.texts raw with
      | .error fault => .error (.invalidEncoding fault.field)
      | .ok fields => b.schema.extract fields) = u.read raw := by
  rw [sound.schema]
  rfl

theorem row_at {raw : Csv.Record} (sound : BatchSound u p store b (raw :: rest)) :
    u.rows[b.index]? = some raw := by
  rw [← sound.rows, Batch.index, List.getElem?_append_right (by simp)]
  simp

theorem place {raw : Csv.Record} {out : RowOutcome} (sound : BatchSound u p store b (raw :: rest))
    (row : RowSound u p store b.index raw out) : BatchSound u p store (b.place raw out) rest := by
  refine ⟨sound.messageId, sound.task, sound.schema, ?_, fun n raw' out' h => ?_⟩
  · simpa [Batch.place] using sound.rows
  · simp only [Batch.place] at h
    rcases Nat.lt_or_ge n b.placed.length with lt | ge
    · rw [List.getElem?_append_left lt] at h
      exact sound.placed n raw' out' h
    · rw [List.getElem?_append_right ge] at h
      have hn : n = b.placed.length := by
        by_contra ne
        have : [(raw, out)][n - b.placed.length]? = none := by
          simp only [List.getElem?_eq_none_iff, List.length_singleton]
          omega
        simp [this] at h
      subst hn
      simp only [Nat.sub_self, List.getElem?_cons_zero, Option.some.injEq, Prod.mk.injEq] at h
      obtain ⟨rfl, rfl⟩ := h
      exact row

end BatchSound

/-- Where a stage of a run of the upload stands: its batch is sound with the records still to
place, and the record at hand has passed the checks the stage has behind it. -/
def BatchStage.Sound (u : Upload) (p : Pipeline) (store : OrderStore) : BatchStage → Prop
  | .row b pending => BatchSound u p store b pending
  | .hub b raw e pending => BatchSound u p store b (raw :: pending) ∧ u.read raw = .ok e ∧
      p.knowsSku e.sku
  | .claim b raw e pending => BatchSound u p store b (raw :: pending) ∧ u.read raw = .ok e ∧
      p.knowsSku e.sku ∧ p.knowsHub e.hub
  | .announce b raw o pending | .tell b raw o pending => BatchSound u p store b (raw :: pending) ∧
      u.read raw = .ok o.row ∧ p.knowsSku o.row.sku ∧ p.knowsHub o.row.hub ∧
      u.key b.index ∈ store.ingested ∧ store.get o.id = .ok o
  | .quarantine b => BatchSound u p store b []

/-- A job of a run of the upload: reading its object, or at a sound stage. -/
def Job.Sound (u : Upload) (p : Pipeline) (store : OrderStore) : Job → Prop
  | .fetch messageId task => messageId = u.messageId ∧ task = u.task
  | .ingest st => BatchStage.Sound u p store st
  | .finalize _ => False

theorem BatchStage.Sound.mono {u : Upload} {p : Pipeline} {store store' : OrderStore}
    {st : BatchStage} (sound : BatchStage.Sound u p store st) (grows : store.Grows store') :
    BatchStage.Sound u p store' st := by
  cases st with
  | row => exact BatchSound.mono sound grows
  | hub => exact ⟨sound.1.mono grows, sound.2⟩
  | claim => exact ⟨sound.1.mono grows, sound.2⟩
  | announce =>
    obtain ⟨batch, read, sku, hub, key, stored⟩ := sound
    exact ⟨batch.mono grows, read, sku, hub, grows.ingested _ key, grows.orders _ _ stored⟩
  | tell =>
    obtain ⟨batch, read, sku, hub, key, stored⟩ := sound
    exact ⟨batch.mono grows, read, sku, hub, grows.ingested _ key, grows.orders _ _ stored⟩
  | quarantine => exact BatchSound.mono sound grows

theorem Job.Sound.mono {u : Upload} {p : Pipeline} {store store' : OrderStore} {job : Job}
    (sound : Job.Sound u p store job) (grows : store.Grows store') : Job.Sound u p store' job := by
  cases job with
  | fetch => exact sound
  | ingest st => exact BatchStage.Sound.mono sound grows
  | finalize => exact sound.elim

/-- What a step of a run of the upload leaves, from the order store `store`: the store grown, the
job that goes on sound, and, when the run ends, a report of one outcome for each data record. -/
structure PlaceStep (u : Upload) (p : Pipeline) (store : OrderStore)
    (out : Except PipelineError (JobResult ⊕ Job) × Pipeline) : Prop where
  grows : store.Grows out.2.orders
  next : ∀ job, Job.after out.1 = some job → Job.Sound u p out.2.orders job
  report : ∀ r, out.1 = .ok (.inl (.processed r)) →
    ∃ b, BatchSound u p out.2.orders b [] ∧ r = { b.report with quarantineKey := r.quarantineKey }

namespace PlaceStep

open Pipeline

variable {u : Upload} {p q : Pipeline} {ctx : Context}

theorem of_frame {out : Except PipelineError (JobResult ⊕ Job) × Pipeline}
    (orders : out.2.orders = q.orders)
    (next : ∀ job, Job.after out.1 = some job → Job.Sound u p q.orders job)
    (report : ∀ r, out.1 = .ok (.inl (.processed r)) →
      ∃ b, BatchSound u p q.orders b [] ∧ r = { b.report with quarantineKey := r.quarantineKey }) :
    PlaceStep u p q.orders out := by
  refine ⟨?_, ?_, ?_⟩ <;> rw [orders]
  exacts [.refl, next, report]

theorem row_nil {b : Batch} (sound : BatchSound u p q.orders b []) :
    PlaceStep u p q.orders (runIn (Job.ingest (.row b [])).advance ctx q) := by
  rw [Job.advance_row_nil]
  by_cases clean : b.rejected.isEmpty
  · refine of_frame rfl (by simp [clean]) fun r hr => ?_
    simp only [clean, if_true, Except.ok.injEq, Sum.inl.injEq, JobResult.processed.injEq] at hr
    exact ⟨b, sound, by rw [← hr]⟩
  · refine of_frame rfl (fun job hjob => ?_) (by simp [clean])
    simp only [clean, Bool.false_eq_true, if_false, Job.after_inr, Option.some.injEq] at hjob
    subst hjob
    exact sound

theorem row_cons (skus : q.knowsSku = p.knowsSku) {b : Batch} {raw : Csv.Record}
    {rest : List Csv.Record} (sound : BatchSound u p q.orders b (raw :: rest)) :
    PlaceStep u p q.orders (runIn (Job.ingest (.row b (raw :: rest))).advance ctx q) := by
  rw [Job.advance_row]
  refine of_frame rfl (Job.forall_after_inr.2 ?_) (by simp)
  have read := sound.read_eq raw
  cases htexts : Csv.texts raw with
  | error fault =>
    have row : RowSound u p q.orders b.index raw (.rejected (.invalidEncoding fault.field)) :=
      .inl (by rw [← read, htexts])
    exact sound.place row
  | ok fields =>
    dsimp only
    cases hextract : b.schema.extract fields with
    | error why =>
      have row : RowSound u p q.orders b.index raw (.rejected why) :=
        .inl (by rw [← read, htexts]; exact hextract)
      exact sound.place row
    | ok entry =>
      have hread : u.read raw = .ok entry := by rw [← read, htexts]; exact hextract
      dsimp only
      by_cases known : q.knowsSku entry.sku
      · rw [if_pos known]
        exact ⟨sound, hread, skus ▸ known⟩
      · rw [if_neg known]
        have row : RowSound u p q.orders b.index raw (.rejected (.unknownSku entry.sku)) :=
          .inr ⟨entry, hread, .inl ⟨by simpa [skus] using known, rfl⟩⟩
        exact sound.place row

theorem hub (hubs : q.knowsHub = p.knowsHub) {b : Batch} {raw : Csv.Record} {e : NewOrder}
    {rest : List Csv.Record} (sound : BatchStage.Sound u p q.orders (.hub b raw e rest)) :
    PlaceStep u p q.orders (runIn (Job.ingest (.hub b raw e rest)).advance ctx q) := by
  obtain ⟨batch, read, sku⟩ := sound
  rw [Job.advance_hub]
  refine of_frame rfl (Job.forall_after_inr.2 ?_) (by simp)
  by_cases known : q.knowsHub e.hub
  · rw [if_pos known]
    exact ⟨batch, read, sku, hubs ▸ known⟩
  · rw [if_neg known]
    have row : RowSound u p q.orders b.index raw (.rejected (.unknownHub e.hub)) :=
      .inr ⟨e, read, .inr (.inl ⟨sku, by simpa [hubs] using known, rfl⟩)⟩
    exact batch.place row

theorem claim {b : Batch} {raw : Csv.Record} {e : NewOrder} {rest : List Csv.Record}
    (sound : BatchStage.Sound u p q.orders (.claim b raw e rest)) :
    PlaceStep u p q.orders (runIn (Job.ingest (.claim b raw e rest)).advance ctx q) := by
  obtain ⟨batch, read, sku, hub⟩ := sound
  rw [Job.advance_claim]
  dsimp only
  split
  · next err _ =>
    refine of_frame rfl (Job.forall_after_inr.2 ?_) (by simp)
    have row : RowSound u p q.orders b.index raw (.rejected (.persistFailed err.message)) :=
      .inr ⟨e, read, .inr (.inr ⟨sku, hub, _, rfl⟩)⟩
    exact batch.place row
  · next hins =>
    have duplicate := OrderStore.insertIngested_eq_ok hins
    simp only [Bool.false_eq_true, if_false] at duplicate
    refine of_frame rfl (Job.forall_after_inr.2 ?_) (by simp)
    have row : RowSound u p q.orders b.index raw .duplicate :=
      ⟨e, read, sku, hub, batch.key_eq ▸ duplicate.1⟩
    exact batch.place row
  · next orders hins =>
    have grows := OrderStore.Grows.of_insertIngested hins
    have stored := OrderStore.insertIngested_eq_ok hins
    simp only [if_true] at stored
    refine ⟨grows, Job.forall_after_inr.2 ?_, by simp⟩
    refine ⟨batch.mono grows, by simpa using read, by simpa using sku, by simpa using hub, ?_,
      OrderStore.get_insertIngested_self hins⟩
    rw [← batch.key_eq, stored.2.2]
    simp

theorem announce {b : Batch} {raw : Csv.Record} {o : Order} {rest : List Csv.Record}
    (sound : BatchStage.Sound u p q.orders (.announce b raw o rest)) :
    PlaceStep u p q.orders (runIn (Job.ingest (.announce b raw o rest)).advance ctx q) := by
  rw [Job.advance_announce_created]
  exact of_frame rfl (Job.forall_after_inr.2 sound) (by simp)

theorem tell {b : Batch} {raw : Csv.Record} {o : Order} {rest : List Csv.Record}
    (sound : BatchStage.Sound u p q.orders (.tell b raw o rest)) :
    PlaceStep u p q.orders (runIn (Job.ingest (.tell b raw o rest)).advance ctx q) := by
  obtain ⟨batch, read, sku, hub, key, stored⟩ := sound
  rw [Job.advance_tell_created]
  refine of_frame rfl (Job.forall_after_inr.2 ?_) (by simp)
  have row : RowSound u p q.orders b.index raw (.created o.id) :=
    ⟨o.row, read, sku, hub, key, o, stored, rfl⟩
  exact batch.place row

theorem quarantine {b : Batch} (sound : BatchSound u p q.orders b []) :
    PlaceStep u p q.orders (runIn (Job.ingest (.quarantine b)).advance ctx q) := by
  rw [Job.advance_quarantine]
  refine of_frame rfl (by simp) fun r hr => ?_
  simp only [Except.ok.injEq, Sum.inl.injEq, JobResult.processed.injEq] at hr
  exact ⟨b, sound, by rw [← hr]⟩

theorem ingest (skus : q.knowsSku = p.knowsSku) (hubs : q.knowsHub = p.knowsHub)
    {st : BatchStage} (sound : BatchStage.Sound u p q.orders st) :
    PlaceStep u p q.orders (runIn (Job.ingest st).advance ctx q) := by
  cases st with
  | row b pending =>
    cases pending with
    | nil => exact row_nil sound
    | cons raw rest => exact row_cons skus sound
  | hub => exact hub hubs sound
  | claim => exact claim sound
  | announce => exact announce sound
  | tell => exact tell sound
  | quarantine => exact quarantine sound

theorem fetch {bytes : List UInt8} (reads : u.Reads bytes)
    (object : q.objects.get u.task.bucket u.task.key = .ok bytes) :
    PlaceStep u p q.orders (runIn (Job.fetch u.messageId u.task).advance ctx q) := by
  obtain ⟨records, header, htexts, hschema⟩ := reads
  rw [Job.advance_fetch, object]
  simp only [records, htexts, hschema]
  exact of_frame rfl (Job.forall_after_inr.2 ⟨rfl, rfl, rfl, by simp, by simp⟩) (by simp)

theorem job {bytes : List UInt8} (reads : u.Reads bytes)
    (object : q.objects.get u.task.bucket u.task.key = .ok bytes)
    (skus : q.knowsSku = p.knowsSku) (hubs : q.knowsHub = p.knowsHub) {job : Job}
    (sound : Job.Sound u p q.orders job) : PlaceStep u p q.orders (runIn job.advance ctx q) := by
  cases job with
  | fetch messageId task =>
    obtain ⟨rfl, rfl⟩ := sound
    exact fetch reads object
  | ingest st => exact ingest skus hubs sound
  | finalize => exact sound.elim

end PlaceStep

end Fulfilment
