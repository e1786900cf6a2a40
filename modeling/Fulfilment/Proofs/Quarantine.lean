import Fulfilment.Proofs.RowPlacement
import Fulfilment.Proofs.Submission
import Fulfilment.Proofs.CsvRoundTrip
import Fulfilment.Proofs.ObjectStore

/-!
The quarantine object of a task: placing keeps the batch's header (`BatchStage.Keeps`) and ends by
writing the header and the rejected rows in row order under the task's quarantine key.
-/

namespace Fulfilment

namespace BatchStage

def batch : BatchStage → Batch
  | .row b _ | .hub b _ _ _ | .claim b _ _ _ | .announce b _ _ _ | .tell b _ _ _ | .quarantine b => b

/-- A stage that writes the quarantine object has rejected rows to write. -/
def Waits : BatchStage → Prop
  | .quarantine b => b.rejected ≠ []
  | _ => True

end BatchStage

namespace Batch

/-- How the placing of the rows of `b` left the objects, from `before` to `after`, and the
quarantine key of its report: with no row rejected nothing is written and no key named; otherwise
the header and the rejected rows are written under the quarantine key of the task in its bucket,
and the report names that key when the write succeeded. -/
def Quarantined (b : Batch) (now : Instant) (before after : ObjectStorage) (key : Option String) :
    Prop :=
  if b.rejected = [] then key = none ∧ after = before
  else
    let k := quarantineKey b.task.key now
    let written := before.put b.task.bucket k (Csv.write (b.rawHeader :: b.rejected))
    after = written.1 ∧ key = if written.2 matches .ok () then some k else none

theorem Quarantined.get_named {b : Batch} {now : Instant} {before after : ObjectStorage}
    {key : Option String} {k : String} (quarantined : b.Quarantined now before after key)
    (named : key = some k) :
    after.get b.task.bucket k = .ok (Csv.write (b.rawHeader :: b.rejected)) := by
  unfold Quarantined at quarantined
  split at quarantined
  · simp [quarantined.1] at named
  · -- a named key is the quarantine key, named because the write succeeded
    obtain ⟨objects, key⟩ := quarantined
    rw [named] at key
    split at key
    · next written =>
      obtain rfl := Option.some.inj key
      rw [objects]
      exact ObjectStorage.get_put written
    · cases key

theorem report_quarantined (b : Batch) : b.report.quarantined = b.rejected.length := by
  simp only [report, rejected]
  induction b.placed with
  | nil => rfl
  | cons x xs ih =>
    obtain ⟨raw, o⟩ := x
    -- a rejected row counts once on each side, any other row on neither
    cases o <;> simp only [List.filter_cons, List.filterMap_cons] <;> simp [ih]

theorem mem_rejected {b : Batch} {raw : Csv.Record} (h : raw ∈ b.rejected) :
    raw ∈ b.placed.map Prod.fst := by
  simp only [rejected, List.mem_filterMap] at h
  obtain ⟨⟨raw', o⟩, placed, kept⟩ := h
  split at kept
  · cases kept
    exact List.mem_map_of_mem placed
  · cases kept

end Batch

namespace BatchStage

/-- A stage that goes on to stage `t`, from pipeline `q` to `q'`, keeps the objects, the catalog
and the header of its batch, and goes to write the quarantine only with rows to write. -/
structure Keeps (st t : BatchStage) (q q' : Pipeline) : Prop where
  objects : q'.objects = q.objects
  skus : q'.knowsSku = q.knowsSku
  hubs : q'.knowsHub = q.knowsHub
  header : t.batch.rawHeader = st.batch.rawHeader
  waits : t.Waits

/-- A stage that ends the placing with report `r` is the last row stage or the quarantine; it
leaves the orders as they were, reports its batch, and leaves the objects as its batch says. -/
structure Ends (st : BatchStage) (now : Instant) (q q' : Pipeline) (r : BatchReport) : Prop where
  last : st = .row st.batch [] ∨ st = .quarantine st.batch
  orders : q'.orders = q.orders
  report : r = { st.batch.report with quarantineKey := r.quarantineKey }
  quarantined : st.batch.Quarantined now q.objects q'.objects r.quarantineKey

/-- What a step of placing rows does besides keeping its account: it never fails, and it either
goes on keeping the frame or ends. -/
def Frames (st : BatchStage) (now : Instant) (q : Pipeline) :
    Except PipelineError (JobResult ⊕ Job) × Pipeline → Prop
  | (.ok (.inr (.ingest t)), q') => st.Keeps t q q'
  | (.ok (.inl (.processed r)), q') => st.Ends now q q' r
  | _ => False

open Pipeline

variable {ctx : Context} {q : Pipeline}

theorem frames_goto {st t : BatchStage} {now : Instant} {q' : Pipeline} (keeps : st.Keeps t q q') :
    st.Frames now q (.ok (.inr (.ingest t)), q') := keeps

theorem frames_finish {st : BatchStage} {now : Instant} {q' : Pipeline} {r : BatchReport}
    (ends : st.Ends now q q' r) : st.Frames now q (.ok (.inl (.processed r)), q') := ends

theorem frames_row_nil (b : Batch) :
    (row b []).Frames ctx.now q (runIn (Job.ingest (.row b [])).advance ctx q) := by
  rw [Job.advance_row_nil]
  by_cases clean : b.rejected.isEmpty
  · have none : b.rejected = [] := List.isEmpty_iff.1 clean
    simp only [clean, if_true]
    exact frames_finish ⟨.inl rfl, rfl, rfl, by simp [Batch.Quarantined, batch, none, Batch.report]⟩
  · simp only [clean, Bool.false_eq_true, if_false]
    exact frames_goto ⟨rfl, rfl, rfl, rfl, by simpa [Waits] using clean⟩

theorem frames_row_cons (b : Batch) (raw : Csv.Record) (rest : List Csv.Record) :
    (row b (raw :: rest)).Frames ctx.now q (runIn (Job.ingest (.row b (raw :: rest))).advance ctx q) := by
  rw [Job.advance_row]
  refine frames_goto ⟨rfl, rfl, rfl, ?_, ?_⟩ <;> repeat' split
  all_goals first | rfl | trivial

theorem frames_hub (b : Batch) (raw : Csv.Record) (e : NewOrder) (rest : List Csv.Record) :
    (hub b raw e rest).Frames ctx.now q (runIn (Job.ingest (.hub b raw e rest)).advance ctx q) := by
  rw [Job.advance_hub]
  refine frames_goto ⟨rfl, rfl, rfl, ?_, ?_⟩ <;> split
  all_goals first | rfl | trivial

theorem frames_claim (b : Batch) (raw : Csv.Record) (e : NewOrder) (rest : List Csv.Record) :
    (claim b raw e rest).Frames ctx.now q (runIn (Job.ingest (.claim b raw e rest)).advance ctx q) := by
  rw [Job.advance_claim]
  dsimp only
  split
  all_goals exact frames_goto ⟨rfl, rfl, rfl, rfl, trivial⟩

theorem frames_announce (b : Batch) (raw : Csv.Record) (o : Order) (rest : List Csv.Record) :
    (announce b raw o rest).Frames ctx.now q
      (runIn (Job.ingest (.announce b raw o rest)).advance ctx q) := by
  rw [Job.advance_announce_created]
  exact frames_goto ⟨rfl, rfl, rfl, rfl, trivial⟩

theorem frames_tell (b : Batch) (raw : Csv.Record) (o : Order) (rest : List Csv.Record) :
    (tell b raw o rest).Frames ctx.now q (runIn (Job.ingest (.tell b raw o rest)).advance ctx q) := by
  rw [Job.advance_tell_created]
  exact frames_goto ⟨rfl, rfl, rfl, rfl, trivial⟩

theorem frames_quarantine {b : Batch} (waits : b.rejected ≠ []) :
    (quarantine b).Frames ctx.now q (runIn (Job.ingest (.quarantine b)).advance ctx q) := by
  rw [Job.advance_quarantine]
  refine frames_finish ⟨.inr rfl, rfl, rfl, ?_⟩
  rw [batch, Batch.Quarantined, if_neg waits]
  exact ⟨rfl, rfl⟩

theorem frames (st : BatchStage) (waits : st.Waits) :
    st.Frames ctx.now q (runIn (Job.ingest st).advance ctx q) := by
  cases st with
  | row b pending =>
    cases pending with
    | nil => exact frames_row_nil b
    | cons raw rest => exact frames_row_cons b raw rest
  | hub => exact frames_hub ..
  | claim => exact frames_claim ..
  | announce => exact frames_announce ..
  | tell => exact frames_tell ..
  | quarantine b => exact frames_quarantine waits

variable {u : Upload} {p : Pipeline}

/-- A run of the row stages from a sound stage, the catalog answering as that of `p`, never
fails: it ends with a batch that accounts for every data record, whose header is the stage's, and
whose report it returns, with the quarantine written as the batch says. -/
theorem run_places (ctx : Context) {q : Pipeline} (st : BatchStage) (skus : q.knowsSku = p.knowsSku)
    (hubs : q.knowsHub = p.knowsHub) (sound : st.Sound u p q.orders) (waits : st.Waits) :
    ∃ b r q', runIn st.run ctx q = (.ok r, q') ∧ BatchSound u p q'.orders b [] ∧
      b.rawHeader = st.batch.rawHeader ∧ r = { b.report with quarantineKey := r.quarantineKey } ∧
      b.Quarantined ctx.now q.objects q'.objects r.quarantineKey := by
  rw [BatchStage.run, runIn_bind]
  have frame : st.Frames ctx.now q (runIn (Job.ingest st).advance ctx q) := frames st waits
  have step : PlaceStep u p q.orders (runIn (Job.ingest st).advance ctx q) :=
    PlaceStep.ingest skus hubs sound
  rw [Job.runIn_ingest] at frame step
  rcases hadv : runIn st.advance ctx q with ⟨_ | (r | ⟨t, lower⟩), q'⟩ <;> rw [hadv] at frame step
  · exact frame.elim
  · -- the last stage: its batch is the one reported
    obtain ⟨last, orders, report, quarantined⟩ := frame
    have batch : BatchSound u p q'.orders st.batch [] := by
      rw [orders]
      rcases last with e | e <;> rw [e] at sound <;> exact sound
    exact ⟨st.batch, r, q', rfl, batch, rfl, report, quarantined⟩
  · -- a stage that goes on: the rest of the run starts sound, with the same objects and catalog
    obtain ⟨objects, skus', hubs', header, waits'⟩ := frame
    have sound' : t.Sound u p q'.orders := step.next (.ingest t) rfl
    obtain ⟨b, r, q'', hrun, batch, bheader, report, quarantined⟩ :=
      run_places ctx t (skus'.trans skus) (hubs'.trans hubs) sound' waits'
    refine ⟨b, r, q'', hrun, batch, bheader.trans header, report, ?_⟩
    rwa [objects] at quarantined
termination_by st.rank
decreasing_by exact lower

end BatchStage

namespace Pipeline

variable {u : Upload} {p : Pipeline} {ctx : Context}

theorem runIn_fetch_of_reads {bytes : List UInt8}
    (object : p.objects.get u.task.bucket u.task.key = .ok bytes) (reads : u.Reads bytes) :
    runIn (fetch u.messageId u.task) ctx p =
      (.ok ({ messageId := u.messageId, task := u.task, rawHeader := u.rawHeader,
              schema := u.schema }, u.rows), p) := by
  obtain ⟨records, header, htexts, hschema⟩ := reads
  simp only [fetch, runIn_bind, runIn_get, runIn_lift, object, Except.mapError, records, htexts,
    hschema, runIn_pure]

/-- Processing a task whose object reads as an upload with a usable header never fails. Every data
record is accounted for by its outcome, rejected exactly when it is not UTF-8, its fields make no
order row, the catalog does not know its SKU or then its hub, or its order could not be stored;
the report counts the rejected records. With none rejected nothing is written and no key is
named. Otherwise the header and the rejected records, in the order they came, are written under
the quarantine key of the task in its bucket, and the report names that key exactly when the
write succeeded; the object under a key the report names holds those bytes, and they read back as
the header and the rejected records unless the written header starts with a byte order mark. -/
theorem quarantine_holds_rejected_rows (ctx : Context) {body : String} {bytes : List UInt8}
    (parsed : IngestionTask.parse body = .ok u.task)
    (object : p.objects.get u.task.bucket u.task.key = .ok bytes) (reads : u.Reads bytes) :
    ∃ b r p', runIn (process u.messageId body) ctx p = (.ok r, p') ∧
      BatchSound u p p'.orders b [] ∧ b.rawHeader = u.rawHeader ∧
      r.quarantined = b.rejected.length ∧
      b.Quarantined ctx.now p.objects p'.objects r.quarantineKey ∧
      (∀ k, r.quarantineKey = some k →
        p'.objects.get u.task.bucket k = .ok (Csv.write (u.rawHeader :: b.rejected))) ∧
      (Csv.dropMark (Csv.writeRecord u.rawHeader) = Csv.writeRecord u.rawHeader →
        Csv.records (Csv.write (u.rawHeader :: b.rejected)) = u.rawHeader :: b.rejected) := by
  rw [process_of_parse parsed, runIn_bind, runIn_fetch_of_reads object reads]
  have start : (BatchStage.row ⟨u.messageId, u.task, u.rawHeader, u.schema, []⟩ u.rows).Sound u p
      p.orders :=
    ⟨rfl, rfl, rfl, by simp, by simp⟩
  obtain ⟨b, r, p', hrun, batch, header, report, quarantined⟩ :=
    BatchStage.run_places ctx _ rfl rfl start trivial
  replace header : b.rawHeader = u.rawHeader := header
  refine ⟨b, r, p', hrun, batch, header, ?_, quarantined, ?_, ?_⟩
  · rw [report, Batch.report_quarantined]
  · intro k named
    rw [← batch.task, ← header]
    exact quarantined.get_named named
  · -- the header and the rejected records are records of the object, so each has a field
    intro unmarked
    obtain ⟨records, -⟩ := reads
    have rows : b.placed.map Prod.fst = u.rows := by simpa using batch.rows
    refine Csv.records_write_of_read bytes ?_ (fun raw hraw => ?_) unmarked
    · exact Csv.records_ne_nil bytes _ (by simp [records])
    · have : raw ∈ u.rows := rows ▸ Batch.mem_rejected hraw
      simp [records, this]

/-- A task whose one data record is too short for the header. -/
theorem quarantine_holds_rejected_rows_of_a_short_row :
    let bytes : List UInt8 := "tenant_id,seller_id,hub_id,sku_id,quantity\n1\n".toUTF8.toList
    let u : Upload :=
      { messageId := "m1"
        task := ⟨"orders", "in/b.csv"⟩
        rawHeader := ["tenant_id".toUTF8.toList, "seller_id".toUTF8.toList,
          "hub_id".toUTF8.toList, "sku_id".toUTF8.toList, "quantity".toUTF8.toList]
        schema := ⟨5, [("tenant_id", 0), ("seller_id", 1), ("hub_id", 2), ("sku_id", 3),
          ("quantity", 4)]⟩
        rows := [["1".toUTF8.toList]] }
    let p : Pipeline :=
      { bucket := "orders"
        deadline := ⟨5000⟩
        webhookRetry := ⟨1, 0⟩
        objects := .memory ⟨[(("orders", "in/b.csv"), bytes)]⟩
        queue := WorkQueue.empty 5
        bus := {} }
    let ctx : Context := ⟨Instant.epoch, 0, fun _ => default⟩
    let body := u.task.toJson
    IngestionTask.parse body = .ok u.task ∧ p.objects.get u.task.bucket u.task.key = .ok bytes ∧
    u.Reads bytes ∧
    ∃ b r p', runIn (process u.messageId body) ctx p = (.ok r, p') ∧
      BatchSound u p p'.orders b [] ∧ b.rawHeader = u.rawHeader ∧
      r.quarantined = b.rejected.length ∧
      b.Quarantined ctx.now p.objects p'.objects r.quarantineKey ∧
      (∀ k, r.quarantineKey = some k →
        p'.objects.get u.task.bucket k = .ok (Csv.write (u.rawHeader :: b.rejected))) ∧
      (Csv.dropMark (Csv.writeRecord u.rawHeader) = Csv.writeRecord u.rawHeader →
        Csv.records (Csv.write (u.rawHeader :: b.rejected)) = u.rawHeader :: b.rejected) := by
  intro bytes u p ctx body
  have parsed : IngestionTask.parse body = .ok u.task :=
    IngestionTask.parse_toJson u.task (by decide) (by decide)
  have object : p.objects.get u.task.bucket u.task.key = .ok bytes := rfl
  have reads : u.Reads bytes := ⟨by decide +kernel, ["tenant_id", "seller_id", "hub_id", "sku_id",
    "quantity"], by decide +kernel, by decide +kernel⟩
  exact ⟨parsed, object, reads, quarantine_holds_rejected_rows ctx parsed object reads⟩

/-- An upload that starts with two byte order marks and whose header starts with a column of its
own: the reader drops the first mark, so the header's first field starts with the second, which
the writer does not quote. The one data record is rejected and the quarantine object is written
and named, but reading it back drops the mark again, and it no longer reads as the header and
the rejected record. -/
theorem quarantine_loses_a_leading_mark :
    let bytes : List UInt8 := [0xEF, 0xBB, 0xBF, 0xEF, 0xBB, 0xBF] ++
      "x,tenant_id,seller_id,hub_id,sku_id,quantity\n1\n".toUTF8.toList
    let p : Pipeline :=
      { bucket := "orders"
        deadline := ⟨5000⟩
        webhookRetry := ⟨1, 0⟩
        objects := .memory ⟨[(("orders", "in/b.csv"), bytes)]⟩
        queue := WorkQueue.empty 5
        bus := {} }
    let ctx : Context := ⟨Instant.epoch, 0, fun _ => default⟩
    let key := quarantineKey "in/b.csv" ctx.now
    let out := runIn (process "m1" (IngestionTask.toJson ⟨"orders", "in/b.csv"⟩)) ctx p
    out.1.toOption = some { quarantined := 1, quarantineKey := some key } ∧
      (out.2.objects.get "orders" key).toOption.map Csv.records ≠ some (Csv.records bytes) := by
  intro bytes p ctx key out
  have parsed := IngestionTask.parse_toJson ⟨"orders", "in/b.csv"⟩ (by decide) (by decide)
  simp only [out, process_of_parse parsed]
  decide +kernel

end Pipeline

end Fulfilment
