import Fulfilment.Config.Settings
import Fulfilment.Pipeline.Intake
import Fulfilment.Pipeline.Batch
import Fulfilment.Proofs.JsonText
import Fulfilment.Proofs.Effects

/-!
Submitting an upload and processing it agree on the task. The body a submission queues is the
JSON text of the task, and reading that text gives the same bucket and key back, so the
processing of a queued task never takes it for a malformed one and reads the very object whose
presence the submission checked. The key is never blank: trimming leaves a last character that
is no blank, and dropping leading slashes keeps it.
-/

namespace Fulfilment

open Json

theorem IngestionTask.decodeText_toJson (t : IngestionTask) :
    decodeText IngestionTask.shape t.toJson.toUTF8 =
      .ok (.obj [("Bucket", .str t.bucket), ("Key", .str t.key)]) :=
  decodeText_textRecord "IngestionTask" _ ("Bucket", t.bucket) [("Key", t.key)] rfl
    (by simp) (by simp)

theorem IngestionTask.parse_toJson (t : IngestionTask) (bucket : Text.isBlankText t.bucket = false)
    (key : Text.isBlankText t.key = false) : IngestionTask.parse t.toJson = .ok t := by
  rw [IngestionTask.parse, IngestionTask.decodeText_toJson]
  simp [Value.field?, Value.getStr?, bucket, key]

theorem Settings.bucket_of_read {env : Settings.Lookup} {s : Settings} (h : Settings.read env = .ok s) :
    s.bucket = (Settings.value? env "ORDERFLOW_BUCKET").getD Settings.defaults.bucket := by
  unfold Settings.read at h
  simp only [bind, Except.bind, pure, Except.pure] at h
  -- each bind either fails, which contradicts `h`, or goes on; the last one builds `s`
  repeat' split at h
  all_goals first | (cases h; rfl) | simp at h

theorem Settings.bucket_not_blank {env : Settings.Lookup} {s : Settings} (h : Settings.read env = .ok s) :
    Text.isBlankText s.bucket = false := by
  rw [Settings.bucket_of_read h]
  cases hv : Settings.value? env "ORDERFLOW_BUCKET" with
  | none => decide
  | some v =>
    obtain ⟨-, hb⟩ := Option.mem_filter_iff.1 (show v ∈ (env "ORDERFLOW_BUCKET").filter _ from hv)
    simpa using hb

theorem trimBlankList_getLast {cs : List Char} (h : Text.trimBlankList cs ≠ []) :
    Text.isBlank ((Text.trimBlankList cs).getLast h) = false := by
  unfold Text.trimBlankList at h ⊢
  rw [List.getLast_reverse]
  exact List.head_dropWhile_not _ _

theorem submittedKey_not_blank {path : String} (h : submittedKey path ≠ "") :
    Text.isBlankText (submittedKey path) = false := by
  have key : (Text.trimBlankList path.toList).dropWhile (· = '/') ≠ [] := by
    rintro e
    exact h (by rw [submittedKey, e])
  have suffix := List.dropWhile_suffix (fun c => decide (c = '/')) (l := Text.trimBlankList path.toList)
  have last := suffix.getLast key
  have blank : Text.isBlank ((Text.trimBlankList path.toList).getLast _) = false :=
    trimBlankList_getLast (suffix.ne_nil key)
  rw [Text.isBlankText, submittedKey, String.toList_ofList, List.all_eq_false]
  exact ⟨_, List.getLast_mem key, by simp [last, blank]⟩

namespace Pipeline

variable {ctx : Context} {p : Pipeline}

theorem runIn_submit (path : String) :
    runIn (submit path) ctx p =
      if submittedKey path = "" then (.error ⟨.validation, "path is required"⟩, p)
      else match p.objects.head p.bucket (submittedKey path) with
        | .error e => (.error (PipelineError.ofObjects e), p)
        | .ok _ =>
          let id := (ctx.identity p.issued).render
          (.ok ⟨id, p.bucket, submittedKey path⟩,
            { p with queue := p.queue.send id (IngestionTask.toJson ⟨p.bucket, submittedKey path⟩),
                     issued := p.issued + 1 }) := by
  by_cases empty : submittedKey path = ""
  · simp [submit, empty]
  · cases hh : p.objects.head p.bucket (submittedKey path) with
    | error e => simp [submit, empty, hh, runIn_bind, Except.mapError]
    | ok size => simp [submit, empty, hh, runIn_bind]; rfl

theorem process_of_parse {body : String} {task : IngestionTask}
    (h : IngestionTask.parse body = .ok task) (messageId : String) :
    process messageId body = (fetch messageId task >>= fun br => (BatchStage.row br.1 br.2).run) := by
  simp only [process, h]

/-- A submission either fails and queues nothing (an empty key; an object the store does not
have) or queues exactly one task body, under a fresh identity, for the key whose object it found;
that body reads back as the pipeline's bucket and that key, so processing it never drops it as
malformed and reads exactly that object. -/
theorem submission_agrees_with_processing (p : Pipeline) (ctx : Context) (path : String)
    (bucket : Text.isBlankText p.bucket = false) :
    (submittedKey path = "" ∧ runIn (submit path) ctx p = (.error ⟨.validation, "path is required"⟩, p)) ∨
    (∃ e, submittedKey path ≠ "" ∧ p.objects.head p.bucket (submittedKey path) = .error e ∧
      runIn (submit path) ctx p = (.error (PipelineError.ofObjects e), p)) ∨
    (∃ size body, submittedKey path ≠ "" ∧ p.objects.head p.bucket (submittedKey path) = .ok size ∧
      runIn (submit path) ctx p =
        (.ok ⟨(ctx.identity p.issued).render, p.bucket, submittedKey path⟩,
          { p with queue := p.queue.send (ctx.identity p.issued).render body, issued := p.issued + 1 }) ∧
      IngestionTask.parse body = .ok ⟨p.bucket, submittedKey path⟩ ∧
      ∀ messageId, process messageId body =
        (fetch messageId ⟨p.bucket, submittedKey path⟩ >>= fun br => (BatchStage.row br.1 br.2).run)) := by
  by_cases empty : submittedKey path = ""
  · exact .inl ⟨empty, by rw [runIn_submit, if_pos empty]⟩
  cases hh : p.objects.head p.bucket (submittedKey path) with
  | error e => exact .inr (.inl ⟨e, empty, rfl, by rw [runIn_submit, if_neg empty, hh]⟩)
  | ok size =>
    have reads := IngestionTask.parse_toJson ⟨p.bucket, submittedKey path⟩ bucket
      (submittedKey_not_blank empty)
    exact .inr (.inr ⟨size, _, empty, rfl, by rw [runIn_submit, if_neg empty, hh], reads,
      process_of_parse reads⟩)

/-- A submission to a pipeline whose bucket is `orders`. -/
theorem submission_agrees_with_processing_in_orders :
    let p : Pipeline :=
      { bucket := "orders"
        deadline := ⟨5000⟩
        webhookRetry := ⟨1, 0⟩
        objects := .memory {}
        queue := WorkQueue.empty 5
        bus := {} }
    let ctx : Context := ⟨Instant.epoch, 0, fun _ => default⟩
    let path := " /uploads/day.csv"
    Text.isBlankText p.bucket = false ∧
    ((submittedKey path = "" ∧ runIn (submit path) ctx p = (.error ⟨.validation, "path is required"⟩, p)) ∨
    (∃ e, submittedKey path ≠ "" ∧ p.objects.head p.bucket (submittedKey path) = .error e ∧
      runIn (submit path) ctx p = (.error (PipelineError.ofObjects e), p)) ∨
    (∃ size body, submittedKey path ≠ "" ∧ p.objects.head p.bucket (submittedKey path) = .ok size ∧
      runIn (submit path) ctx p =
        (.ok ⟨(ctx.identity p.issued).render, p.bucket, submittedKey path⟩,
          { p with queue := p.queue.send (ctx.identity p.issued).render body, issued := p.issued + 1 }) ∧
      IngestionTask.parse body = .ok ⟨p.bucket, submittedKey path⟩ ∧
      ∀ messageId, process messageId body =
        (fetch messageId ⟨p.bucket, submittedKey path⟩ >>= fun br => (BatchStage.row br.1 br.2).run))) :=
  ⟨by decide, submission_agrees_with_processing _ _ _ (by decide)⟩

end Pipeline

end Fulfilment
