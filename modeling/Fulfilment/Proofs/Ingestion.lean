import Mathlib
import Fulfilment.Proofs.RowPlacement
import Fulfilment.Proofs.Executions
import Fulfilment.Proofs.Finalization

/-!
Ingestion creates each row at most once across redeliveries of its queue message, however the
runs interleave or fail. The proof keeps every job of the message sound (`Job.Sound`) and each
stored order held by at most one job between storing and telling it (`System.Placing`).
-/

namespace Fulfilment

/-- The surroundings of the deliveries of one upload: only runs of its message start, and nothing
else writes the order store. -/
def World.Redelivers (w : World) (u : Upload) : Prop :=
  (∀ job, w.admits job → job = .fetch u.messageId u.task) ∧ ∀ p q, w.env p q → q.orders = p.orders

/-- The order a transition stores for a data record, with the record's index. -/
def Label.stored? : Label → Option (Nat × Order)
  | .step _ (.ingest (.claim b _ _ _)) (.ok (.inr (.ingest (.announce _ _ o _)))) => some (b.index, o)
  | _ => none

def Label.published? : Label → Option Order
  | .step _ (.ingest (.announce _ _ o _)) _ => some o
  | _ => none

def Label.told? : Label → Option Order
  | .step _ (.ingest (.tell _ _ o _)) _ => some o
  | _ => none

namespace System

def Announcing (s : System) (o : Order) (j : Nat) : Prop :=
  ∃ b raw rest, s.jobs j = some (.ingest (.announce b raw o rest))

def Telling (s : System) (o : Order) (j : Nat) : Prop :=
  ∃ b raw rest, s.jobs j = some (.ingest (.tell b raw o rest))

def Holds (s : System) (o : Order) (j : Nat) : Prop := s.Announcing o j ∨ s.Telling o j

/-- The runs of an upload as they stand: every job sound against the catalog of `p`, and each
order held by one job at most. -/
structure Placing (u : Upload) (p : Pipeline) (s : System) : Prop where
  jobs : ∀ j job, s.jobs j = some job → Job.Sound u p s.pipeline.orders job
  held_once : ∀ o i j, s.Holds o i → s.Holds o j → i = j

end System

namespace Job

open Pipeline

variable {ctx : Context} {q : Pipeline}

theorem after_announce {st : BatchStage} {b : Batch} {raw : Csv.Record} {o : Order}
    {rest : List Csv.Record}
    (h : after (runIn (ingest st).advance ctx q).1 = some (.ingest (.announce b raw o rest))) :
    ∃ e, st = .claim b raw e rest ∧ o = Order.place ⟨ctx.identity q.issued⟩ e ctx.now ∧
      q.orders.insertIngested o b.key = .ok ((runIn (ingest st).advance ctx q).2.orders, true) := by
  cases st with
  | row b' pending =>
    cases pending with
    | nil => rw [advance_row_nil] at h; split at h <;> simp at h
    | cons =>
      rw [advance_row] at h
      simp only [after_inr, Option.some.injEq, ingest.injEq] at h
      repeat' split at h
      all_goals simp at h
  | hub =>
    rw [advance_hub] at h
    simp only [after_inr, Option.some.injEq, ingest.injEq] at h
    split at h <;> simp at h
  | claim b' raw' e rest' =>
    rw [advance_claim] at h ⊢
    dsimp only at h ⊢
    split at h
    · simp at h
    · simp at h
    · next orders hins =>
      simp only [after_inr, Option.some.injEq, ingest.injEq, BatchStage.announce.injEq] at h
      obtain ⟨rfl, rfl, rfl, rfl⟩ := h
      exact ⟨e, rfl, rfl, by rw [hins]⟩
  | announce => rw [advance_announce_created] at h; simp at h
  | tell => rw [advance_tell_created] at h; simp at h
  | quarantine => rw [advance_quarantine] at h; simp at h

theorem after_tell {st : BatchStage} {b : Batch} {raw : Csv.Record} {o : Order}
    {rest : List Csv.Record}
    (h : after (runIn (ingest st).advance ctx q).1 = some (.ingest (.tell b raw o rest))) :
    st = .announce b raw o rest := by
  cases st with
  | row b' pending =>
    cases pending with
    | nil => rw [advance_row_nil] at h; split at h <;> simp at h
    | cons =>
      rw [advance_row] at h
      simp only [after_inr, Option.some.injEq, ingest.injEq] at h
      repeat' split at h
      all_goals simp at h
  | hub =>
    rw [advance_hub] at h
    simp only [after_inr, Option.some.injEq, ingest.injEq] at h
    split at h <;> simp at h
  | claim =>
    rw [advance_claim] at h
    dsimp only at h
    split at h <;> simp at h
  | announce =>
    rw [advance_announce_created] at h
    simp only [after_inr, Option.some.injEq, ingest.injEq, BatchStage.tell.injEq] at h
    obtain ⟨rfl, rfl, rfl, rfl⟩ := h
    rfl
  | tell => rw [advance_tell_created] at h; simp at h
  | quarantine => rw [advance_quarantine] at h; simp at h

end Job

theorem Job.after_eq_some {r : Except PipelineError (JobResult ⊕ Job)} {job : Job} :
    Job.after r = some job ↔ r = .ok (.inr job) := by
  rcases r with _ | (_ | _) <;> simp

theorem Job.not_processed_of_interrupted {job : Job} {r : Except PipelineError (JobResult ⊕ Job)}
    (failed : job.Interrupted r) (report : BatchReport) : r ≠ .ok (.inl (.processed report)) := by
  cases job with
  | finalize => obtain ⟨-, e, rfl⟩ := failed; simp
  | fetch => obtain ⟨e, rfl⟩ := failed; simp
  | ingest st =>
    cases st with
    | row b pending =>
      cases pending with
      | nil => exact failed.elim
      | cons => obtain ⟨-, e, rfl⟩ := failed; simp
    | hub => obtain ⟨e, rfl⟩ := failed; simp
    | claim => obtain ⟨reason, rfl⟩ := failed; simp
    | announce => exact failed.elim
    | tell => exact failed.elim
    | quarantine => exact failed.elim

namespace System.Placing

variable {u : Upload} {p : Pipeline} {s : System}

theorem init (q : Pipeline) : (System.init q).Placing u p :=
  ⟨fun j job h => by simp [System.init] at h, fun o i j hi => by
    simp [System.Holds, System.Announcing, System.Telling, System.init] at hi⟩

theorem get_of_holds (placing : s.Placing u p) {o : Order} {j : Nat} (holds : s.Holds o j) :
    s.pipeline.orders.get o.id = .ok o := by
  rcases holds with ⟨b, raw, rest, hj⟩ | ⟨b, raw, rest, hj⟩
  · exact (placing.jobs j _ hj).2.2.2.2.2
  · exact (placing.jobs j _ hj).2.2.2.2.2

end System.Placing

theorem System.holds_iff_of_jobs {s s' : System} {j : Nat} (same : s'.jobs j = s.jobs j) (o : Order) :
    (s'.Announcing o j ↔ s.Announcing o j) ∧ (s'.Telling o j ↔ s.Telling o j) ∧
      (s'.Holds o j ↔ s.Holds o j) := by
  simp [System.Holds, System.Announcing, System.Telling, same]

theorem System.held_once_of_setJob {s s' : System} {j : Nat}
    (held_once : ∀ o i i', s.Holds o i → s.Holds o i' → i = i')
    (other : ∀ {i}, i ≠ j → s'.jobs i = s.jobs i)
    (fresh : ∀ o, s'.Holds o j → ∀ i, i ≠ j → ¬s.Holds o i) :
    ∀ o i i', s'.Holds o i → s'.Holds o i' → i = i' := by
  intro o i i' hi hi'
  have kept : ∀ {i}, i ≠ j → s'.Holds o i → s.Holds o i := fun e h =>
    (System.holds_iff_of_jobs (other e) o).2.2.1 h
  by_cases e : i = j <;> by_cases e' : i' = j
  · rw [e, e']
  · subst e
    exact absurd (kept e' hi') (fresh o hi i' e')
  · subst e'
    exact absurd (kept e hi) (fresh o hi' i e)
  · exact held_once o i i' (kept e hi) (kept e' hi')

/-- What one transition does for the runs of an upload, against the catalog of `p`. -/
structure PlacingStep (u : Upload) (p : Pipeline) (s : System) (ℓ : Label) (s' : System) : Prop where
  placing : s'.Placing u p
  grows : s.pipeline.orders.Grows s'.pipeline.orders
  stored : ∀ n o, ℓ.stored? = some (n, o) →
    (∃ raw, u.rows[n]? = some raw ∧ u.read raw = .ok o.row) ∧ p.knowsSku o.row.sku ∧
      p.knowsHub o.row.hub ∧ o.status = .onHold ∧ o.progress = {} ∧
      u.key n ∉ s.pipeline.orders.ingested ∧ u.key n ∈ s'.pipeline.orders.ingested ∧
      (∀ x, s.pipeline.orders.get o.id ≠ .ok x) ∧ s'.pipeline.orders.get o.id = .ok o ∧
      ∃ j, s'.Announcing o j
  announcing : ∀ o j, s'.Announcing o j → s.Announcing o j ∨ ∃ n, ℓ.stored? = some (n, o)
  telling : ∀ o j, s'.Telling o j → s.Telling o j ∨ ℓ.published? = some o
  published : ∀ o, ℓ.published? = some o →
    (∃ j, s.Announcing o j) ∧ (∃ j, s'.Telling o j) ∧ ∀ j, ¬s'.Announcing o j
  told : ∀ o, ℓ.told? = some o → (∃ j, s.Telling o j) ∧ ∀ j, ¬s'.Holds o j
  keeps_announcing : ∀ o j, s.Announcing o j → ℓ.published? ≠ some o → s'.Announcing o j
  keeps_telling : ∀ o j, s.Telling o j → ℓ.told? ≠ some o → s'.Telling o j
  report : ∀ r, ℓ.result? = some (.ok (.inl (.processed r))) →
    ∃ b, BatchSound u p s'.pipeline.orders b [] ∧ r = { b.report with quarantineKey := r.quarantineKey }

namespace Label

variable {j : Nat} {job : Job} {r : Except PipelineError (JobResult ⊕ Job)}

theorem stored?_step {n : Nat} {o : Order} (h : (Label.step j job r).stored? = some (n, o)) :
    ∃ b raw e rest b' raw' rest', job = .ingest (.claim b raw e rest) ∧
      r = .ok (.inr (.ingest (.announce b' raw' o rest'))) ∧ n = b.index := by
  unfold Label.stored? at h
  split at h
  · next heq =>
    simp only [Label.step.injEq] at heq
    obtain ⟨-, rfl, rfl⟩ := heq
    simp only [Option.some.injEq, Prod.mk.injEq] at h
    obtain ⟨rfl, rfl⟩ := h
    exact ⟨_, _, _, _, _, _, _, rfl, rfl, rfl⟩
  · simp at h

theorem published?_step {o : Order} (h : (Label.step j job r).published? = some o) :
    ∃ b raw rest, job = .ingest (.announce b raw o rest) := by
  unfold Label.published? at h
  split at h
  · next heq =>
    simp only [Label.step.injEq] at heq
    obtain ⟨-, rfl, rfl⟩ := heq
    simp only [Option.some.injEq] at h
    subst h
    exact ⟨_, _, _, rfl⟩
  · simp at h

theorem told?_step {o : Order} (h : (Label.step j job r).told? = some o) :
    ∃ b raw rest, job = .ingest (.tell b raw o rest) := by
  unfold Label.told? at h
  split at h
  · next heq =>
    simp only [Label.step.injEq] at heq
    obtain ⟨-, rfl, rfl⟩ := heq
    simp only [Option.some.injEq] at h
    subst h
    exact ⟨_, _, _, rfl⟩
  · simp at h

end Label

namespace PlacingStep

variable {u : Upload} {p : Pipeline} {s s' : System} {ℓ : Label}

theorem of_quiet (placing : s.Placing u p) (orders : s'.pipeline.orders = s.pipeline.orders)
    (jobs : ∀ i, s'.jobs i = s.jobs i ∨
      ((∀ job, s'.jobs i = some job → Job.Sound u p s.pipeline.orders job) ∧
        ∀ o, ¬s'.Holds o i ∧ ¬s.Holds o i))
    (stored : ℓ.stored? = none) (published : ℓ.published? = none) (told : ℓ.told? = none)
    (report : ∀ r, ℓ.result? ≠ some (.ok (.inl (.processed r)))) : PlacingStep u p s ℓ s' := by
  -- a job that holds an order after the transition is a job that was there before
  have held : ∀ o i, s'.Holds o i → s.Holds o i ∧ (s'.Announcing o i → s.Announcing o i) ∧
      (s'.Telling o i → s.Telling o i) := by
    intro o i hi
    rcases jobs i with same | ⟨-, free⟩
    · obtain ⟨a, t, h⟩ := System.holds_iff_of_jobs same o
      exact ⟨h.1 hi, a.1, t.1⟩
    · exact absurd hi (free o).1
  refine ⟨⟨fun i job hi => ?_, fun o i i' hi hi' => placing.held_once o i i' (held o i hi).1
    (held o i' hi').1⟩, by rw [orders]; exact .refl, by simp [stored], fun o i hi => ?_,
    fun o i hi => ?_, by simp [published], by simp [told], fun o i hi _ => ?_, fun o i hi _ => ?_,
    fun r hr => absurd hr (report r)⟩
  · rw [orders]
    rcases jobs i with same | ⟨sound, -⟩
    · exact placing.jobs i job (same ▸ hi)
    · exact sound job hi
  · exact .inl ((held o i (.inl hi)).2.1 hi)
  · exact .inl ((held o i (.inr hi)).2.2 hi)
  · rcases jobs i with same | ⟨-, free⟩
    · exact ((System.holds_iff_of_jobs same o).1).2 hi
    · exact absurd (.inl hi) (free o).2
  · rcases jobs i with same | ⟨-, free⟩
    · exact ((System.holds_iff_of_jobs same o).2.1).2 hi
    · exact absurd (.inr hi) (free o).2

section Step

open Pipeline

variable {j : Nat} {job : Job} {ctx : Context}

theorem stored_of_announcing (placing : s.Placing u p) (running : s.jobs j = some job)
    {b : Batch} {raw : Csv.Record} {o : Order} {rest : List Csv.Record}
    (h : Job.after (runIn job.advance ctx s.pipeline).1 = some (.ingest (.announce b raw o rest))) :
    (Label.step j job (runIn job.advance ctx s.pipeline).1).stored? = some (b.index, o) := by
  cases job with
  | finalize => exact (placing.jobs j _ running).elim
  | fetch => obtain ⟨_, _, h'⟩ := Job.fetch_after h; cases h'
  | ingest st =>
    obtain ⟨e, rfl, -, -⟩ := Job.after_announce h
    rw [Job.after_eq_some] at h
    rw [h]
    rfl

theorem published_of_telling (placing : s.Placing u p) (running : s.jobs j = some job)
    {b : Batch} {raw : Csv.Record} {o : Order} {rest : List Csv.Record}
    (h : Job.after (runIn job.advance ctx s.pipeline).1 = some (.ingest (.tell b raw o rest))) :
    (Label.step j job (runIn job.advance ctx s.pipeline).1).published? = some o := by
  cases job with
  | finalize => exact (placing.jobs j _ running).elim
  | fetch => obtain ⟨_, _, h'⟩ := Job.fetch_after h; cases h'
  | ingest st =>
    obtain rfl := Job.after_tell h
    rfl

theorem stored_step (placing : s.Placing u p) (running : s.jobs j = some job) {n : Nat}
    {o : Order} (h : (Label.step j job (runIn job.advance ctx s.pipeline).1).stored? = some (n, o)) :
    (∃ raw, u.rows[n]? = some raw ∧ u.read raw = .ok o.row) ∧ p.knowsSku o.row.sku ∧
      p.knowsHub o.row.hub ∧ o.status = .onHold ∧ o.progress = {} ∧
      u.key n ∉ s.pipeline.orders.ingested ∧
      u.key n ∈ (runIn job.advance ctx s.pipeline).2.orders.ingested ∧
      (∀ x, s.pipeline.orders.get o.id ≠ .ok x) ∧
      (runIn job.advance ctx s.pipeline).2.orders.get o.id = .ok o := by
  obtain ⟨b, raw, e, rest, b', raw', rest', rfl, hr, rfl⟩ := Label.stored?_step h
  obtain ⟨batch, read, sku, hub⟩ := placing.jobs j _ running
  have after : Job.after (runIn (Job.ingest (.claim b raw e rest)).advance ctx s.pipeline).1 =
      some (.ingest (.announce b' raw' o rest')) := by rw [hr]; rfl
  obtain ⟨e', same, placed, hins⟩ := Job.after_announce after
  simp only [BatchStage.claim.injEq] at same
  obtain ⟨rfl, rfl, rfl, rfl⟩ := same
  have stored := OrderStore.insertIngested_eq_ok hins
  simp only [if_true] at stored
  obtain ⟨new_key, new_id, grown⟩ := stored
  subst placed
  refine ⟨⟨raw, batch.row_at, by simpa using read⟩, by simpa using sku, by simpa using hub,
    by simp, by simp, batch.key_eq ▸ new_key, by rw [← batch.key_eq, grown]; simp,
    fun x hx => ?_, OrderStore.get_insertIngested_self hins⟩
  -- an order stored under the new order's identity would have made the insertion fail
  have found := OrderStore.get_eq_ok.1 hx
  exact new_id x (List.mem_of_find?_eq_some found) (by simpa using List.find?_some found)

theorem of_step (placing : s.Placing u p) (running : s.jobs j = some job)
    (place : PlaceStep u p s.pipeline.orders (runIn job.advance ctx s.pipeline)) :
    PlacingStep u p s (.step j job (runIn job.advance ctx s.pipeline).1)
      ({ s with pipeline := (runIn job.advance ctx s.pipeline).2 }.setJob j
        (Job.after (runIn job.advance ctx s.pipeline).1)) := by
  set out := runIn job.advance ctx s.pipeline with hout
  set s' := ({ s with pipeline := out.2 } : System).setJob j (Job.after out.1)
  have other : ∀ {i}, i ≠ j → s'.jobs i = s.jobs i := fun ne => by simp [s', ne]
  have own : s'.jobs j = Job.after out.1 := by simp [s']
  -- no other job held an order the job goes on holding
  have held_new : ∀ o, s'.Holds o j → ∀ i, i ≠ j → ¬s.Holds o i := by
    intro o hj i ne hi
    rcases hj with ⟨b, raw, rest, h⟩ | ⟨b, raw, rest, h⟩
    · rw [own] at h
      obtain ⟨-, -, -, -, -, -, -, fresh, -⟩ :=
        stored_step placing running (stored_of_announcing placing running h)
      exact fresh o (placing.get_of_holds hi)
    · rw [own] at h
      obtain ⟨b', raw', rest', rfl⟩ := Label.published?_step (published_of_telling placing running h)
      exact ne (placing.held_once o i j hi (.inl ⟨b', raw', rest', running⟩))
  refine ⟨⟨fun i job' hi => ?_, System.held_once_of_setJob placing.held_once other held_new⟩,
    place.grows, fun n o h => ?_, fun o i hi => ?_, fun o i hi => ?_, fun o h => ?_, fun o h => ?_,
    fun o i hi hne => ?_, fun o i hi hne => ?_,
    fun r hr => place.report r (by simpa [Label.result?] using hr)⟩
  · by_cases e : i = j
    · subst e
      exact place.next job' (own ▸ hi)
    · exact (placing.jobs i job' (other e ▸ hi)).mono place.grows
  · obtain ⟨row, sku, hub, status, progress, old, new, fresh, found⟩ := stored_step placing running h
    obtain ⟨-, -, -, -, b', raw', rest', -, hr, -⟩ := Label.stored?_step h
    exact ⟨row, sku, hub, status, progress, old, new, fresh, found, j, b', raw', rest',
      by rw [own, hr]; rfl⟩
  · by_cases e : i = j
    · subst e
      obtain ⟨b, raw, rest, h⟩ := hi
      exact .inr ⟨_, stored_of_announcing placing running (own ▸ h)⟩
    · exact .inl ((System.holds_iff_of_jobs (other e) o).1.1 hi)
  · by_cases e : i = j
    · subst e
      obtain ⟨b, raw, rest, h⟩ := hi
      exact .inr (published_of_telling placing running (own ▸ h))
    · exact .inl ((System.holds_iff_of_jobs (other e) o).2.1.1 hi)
  · obtain ⟨b, raw, rest, rfl⟩ := Label.published?_step h
    refine ⟨⟨j, b, raw, rest, running⟩, ⟨j, b, raw, rest, by rw [own, hout, Job.advance_announce_created]; rfl⟩,
      fun i hi => ?_⟩
    by_cases e : i = j
    · subst e
      obtain ⟨_, _, _, hi⟩ := hi
      rw [own, hout, Job.advance_announce_created] at hi
      simp at hi
    · exact e (placing.held_once o i j (.inl ((System.holds_iff_of_jobs (other e) o).1.1 hi))
        (.inl ⟨b, raw, rest, running⟩))
  · obtain ⟨b, raw, rest, rfl⟩ := Label.told?_step h
    refine ⟨⟨j, b, raw, rest, running⟩, fun i hi => ?_⟩
    by_cases e : i = j
    · subst e
      rcases hi with ⟨_, _, _, hi⟩ | ⟨_, _, _, hi⟩ <;>
        rw [own, hout, Job.advance_tell_created] at hi <;> simp at hi
    · exact e (placing.held_once o i j ((System.holds_iff_of_jobs (other e) o).2.2.1 hi)
        (.inr ⟨b, raw, rest, running⟩))
  · by_cases e : i = j
    · subst e
      obtain ⟨b, raw, rest, hj⟩ := hi
      rw [running, Option.some.injEq] at hj
      subst hj
      exact absurd rfl hne
    · exact (System.holds_iff_of_jobs (other e) o).1.2 hi
  · by_cases e : i = j
    · subst e
      obtain ⟨b, raw, rest, hj⟩ := hi
      rw [running, Option.some.injEq] at hj
      subst hj
      exact absurd rfl hne
    · exact (System.holds_iff_of_jobs (other e) o).2.1.2 hi

end Step

theorem step {w : World} (redelivers : w.Redelivers u) {bytes : List UInt8} (reads : u.Reads bytes)
    (steady : s.pipeline.objects.get u.task.bucket u.task.key = .ok bytes ∧
      s.pipeline.knowsSku = p.knowsSku ∧ s.pipeline.knowsHub = p.knowsHub)
    (step : Step w s ℓ s') (placing : s.Placing u p) : PlacingStep u p s ℓ s' := by
  obtain ⟨object, skus, hubs⟩ := steady
  cases step with
  | @start j job idle initial admitted =>
    obtain rfl := redelivers.1 job admitted
    refine of_quiet placing rfl (fun i => ?_) rfl rfl rfl (by simp [Label.result?])
    by_cases e : i = j
    · -- the run starts by reading the object, holding no order
      subst e
      refine .inr ⟨fun job h => ?_, fun o => ⟨?_, ?_⟩⟩
      · simp only [System.jobs_setJob, if_true, Option.some.injEq] at h
        subst h
        exact ⟨rfl, rfl⟩
      · rintro (⟨_, _, _, h⟩ | ⟨_, _, _, h⟩) <;> simp at h
      · rintro (⟨_, _, _, h⟩ | ⟨_, _, _, h⟩) <;> simp [idle] at h
    · exact .inl (by simp [e])
  | @step j job ctx running =>
    exact of_step placing running (PlaceStep.job reads object skus hubs (placing.jobs j job running))
  | @fail j job r running failed =>
    refine of_quiet placing rfl (fun i => ?_) rfl rfl rfl
      (fun rep h => Job.not_processed_of_interrupted failed rep (by simpa [Label.result?] using h))
    by_cases e : i = j
    · -- a failed call ends the run, or rejects the record at hand and goes on
      subst e
      have ends : ∀ job', Job.after r = some job' → ∃ b raw entry rest reason,
          job = .ingest (.claim b raw entry rest) ∧
            job' = .ingest (.row (b.place raw (.rejected (.persistFailed reason))) rest) :=
        fun job' h => Job.after_of_interrupted failed h
      refine .inr ⟨fun job' h => ?_, fun o => ⟨?_, ?_⟩⟩
      · simp only [System.jobs_setJob, if_true] at h
        obtain ⟨b, raw, entry, rest, reason, rfl, rfl⟩ := ends job' h
        obtain ⟨batch, read, sku, hub⟩ := placing.jobs i _ running
        have row : RowSound u p s.pipeline.orders b.index raw (.rejected (.persistFailed reason)) :=
          .inr ⟨entry, read, .inr (.inr ⟨sku, hub, reason, rfl⟩)⟩
        exact batch.place row
      · rintro (⟨_, _, _, h⟩ | ⟨_, _, _, h⟩) <;> simp only [System.jobs_setJob, if_true] at h <;>
          obtain ⟨_, _, _, _, _, -, h⟩ := ends _ h <;> cases h
      · rintro (⟨_, _, _, h⟩ | ⟨_, _, _, h⟩) <;> rw [running, Option.some.injEq] at h <;> subst h <;>
          exact failed
    · exact .inl (by simp [e])
  | env around =>
    exact of_quiet placing (redelivers.2 _ _ around) (fun i => .inl rfl) rfl rfl rfl
      (by simp [Label.result?])

section Runs

/-! What an execution whose every transition is a placing step guarantees. -/

variable {w : World} {s₀ : System} {ts pre post : List Transition} {t : Transition} {o : Order}

end Runs

end PlacingStep

end Fulfilment
