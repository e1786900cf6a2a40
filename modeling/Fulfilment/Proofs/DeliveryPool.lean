import Fulfilment.Webhook.Pool

/-!
Every job submitted to the delivery pool gets exactly one outcome. `Pool.Sound` holds of the pool
as a whole and `JobStage` of each job; every event keeps both.
-/

namespace Fulfilment.Webhook

open scoped List

theorem filterMap_set_perm {α β : Type} (f : α → Option β) :
    ∀ (l : List α) (w : Nat) {a : α} (b : α), l[w]? = some a →
      ((l.set w b).filterMap f ++ (f a).toList).Perm (l.filterMap f ++ (f b).toList)
  | [], _, _, _, h => by simp at h
  | x :: xs, 0, a, b, h => by
    simp only [List.getElem?_cons_zero, Option.some.injEq] at h
    subst h
    simp only [List.set_cons_zero, List.filterMap_cons]
    -- the entry's old value leaves the list and its new value joins it
    cases hx : f x with
    | none =>
      cases hb : f b with
      | none => simp
      | some y =>
        simp only [Option.toList_none, Option.toList_some, List.append_nil]
        exact (List.perm_append_singleton y _).symm
    | some y =>
      cases hb : f b with
      | none => simp
      | some y' =>
        simp only [Option.toList_some, List.cons_append]
        exact ((List.perm_append_singleton y _).cons y').trans
          ((List.Perm.swap y y' _).trans ((List.perm_append_singleton y' _).symm.cons y))
  | x :: xs, w + 1, a, b, h => by
    simp only [List.getElem?_cons_succ] at h
    simp only [List.set_cons_succ, List.filterMap_cons]
    have rest := filterMap_set_perm f xs w b h
    cases f x <;> simp [rest]

/-- Outcome `o` is what delivering `job` gives after the transport answered `calls`: delivered at
the first success, or failed with the last error once the retry policy allows no more tries;
the number of attempts is the number of calls. -/
def DeliveryJob.Serves (job : DeliveryJob) (calls : List (Except TransportError Nat))
    (o : DeliveryOutcome) : Prop :=
  o.subscription = job.subscription ∧ o.url = job.request.url ∧ o.attempts = calls.length ∧
    ((∃ (errs : List TransportError) (code : Nat), calls = errs.map .error ++ [.ok code] ∧
        calls.length ≤ job.retry.maxAttempts ∧ o.status = .delivered code) ∨
      (∃ (errs : List TransportError) (e : TransportError), calls = (errs ++ [e]).map .error ∧
        calls.length = job.retry.maxAttempts ∧ o.status = .failed e.message))

namespace Pool

def busyJobs (s : Pool) : List Nat := s.workers.filterMap fun x => x.map Busy.job

theorem mem_jobs {l : List (Option Busy)} {n : Nat} :
    n ∈ l.filterMap (fun x => x.map Busy.job) ↔ ∃ w k : Nat, l[w]? = some (some ⟨n, k⟩) := by
  simp only [List.mem_filterMap]
  constructor
  · rintro ⟨x, hx, hmap⟩
    obtain ⟨b, rfl, rfl⟩ := Option.map_eq_some_iff.1 hmap
    obtain ⟨w, hw⟩ := List.mem_iff_getElem?.1 hx
    exact ⟨w, b.calls, hw⟩
  · rintro ⟨w, k, hw⟩
    exact ⟨_, List.mem_iff_getElem?.2 ⟨w, hw⟩, rfl⟩

theorem mem_busyJobs {s : Pool} {n : Nat} :
    n ∈ s.busyJobs ↔ ∃ w k : Nat, s.workers[w]? = some (some ⟨n, k⟩) :=
  mem_jobs

theorem set_busy_iff {l : List (Option Busy)} {w n : Nat} {old : Option Busy} (new : Option Busy)
    (at_w : l[w]? = some old) (not_old : ∀ k, old ≠ some ⟨n, k⟩) (not_new : ∀ k, new ≠ some ⟨n, k⟩)
    (v k : Nat) : (l.set w new)[v]? = some (some ⟨n, k⟩) ↔ l[v]? = some (some ⟨n, k⟩) := by
  by_cases hv : w = v
  · subst hv
    have lt : w < l.length := (List.getElem?_eq_some_iff.1 at_w).1
    rw [List.getElem?_set_self lt, at_w]
    simp only [Option.some.injEq]
    exact ⟨fun e => absurd e (not_new k), fun e => absurd e (not_old k)⟩
  · rw [List.getElem?_set_ne hv]

theorem jobs_set_idle {l : List (Option Busy)} {w : Nat} {b : Busy} (at_w : l[w]? = some (some b)) :
    ((l.set w none).filterMap (fun x => x.map Busy.job) ++ [b.job]) ~
      l.filterMap (fun x => x.map Busy.job) := by
  have perm := filterMap_set_perm (fun x => x.map Busy.job) l w none at_w
  simp only [Option.map_none, Option.toList_none, List.append_nil, Option.map_some,
    Option.toList_some] at perm
  exact perm

theorem jobs_set_busy {l : List (Option Busy)} {w : Nat} (idle : l[w]? = some none) (b : Busy) :
    (l.set w (some b)).filterMap (fun x => x.map Busy.job) ~
      l.filterMap (fun x => x.map Busy.job) ++ [b.job] := by
  have perm := filterMap_set_perm (fun x => x.map Busy.job) l w (some b) idle
  simp only [Option.map_none, Option.toList_none, List.append_nil, Option.map_some,
    Option.toList_some] at perm
  exact perm

theorem maxAttempts_pos (p : RetryPolicy) : 0 < p.maxAttempts := by
  unfold RetryPolicy.maxAttempts
  omega

/-! ### What each event does -/

theorem submit_cases (s : Pool) (job : DeliveryJob) :
    (s.refuses = true ∧ s.submit job =
      { s with
        jobs := s.jobs ++ [job]
        outcomes := s.outcomes ++ [(s.jobs.length, job.dropped)] }) ∨
    (s.refuses = false ∧ s.submit job =
      { s with
        jobs := s.jobs ++ [job]
        waiting := s.waiting ++ [s.jobs.length] }) := by
  unfold submit
  cases s.refuses
  · exact .inr ⟨rfl, rfl⟩
  · exact .inl ⟨rfl, rfl⟩

theorem take_cases (s : Pool) (w : Nat) :
    s.take w = s ∨ ∃ n rest, s.workers[w]? = some none ∧ s.waiting = n :: rest ∧
      s.take w = { s with workers := s.workers.set w (some ⟨n, 0⟩), waiting := rest } := by
  unfold take
  split
  · next n rest idle waiting => exact .inr ⟨n, rest, idle, waiting, rfl⟩
  · exact .inl rfl

/-- How a transport call ends a job: delivered at a success, failed at an error once the policy
allows no further attempt. -/
def Ends (job : DeliveryJob) (attempt : Nat) (answer : Except TransportError Nat)
    (status : DeliveryStatus) : Prop :=
  (∃ code, answer = .ok code ∧ status = .delivered code) ∨
    (∃ e, answer = .error e ∧ job.retry.maxAttempts ≤ attempt ∧ status = .failed e.message)

theorem call_cases (s : Pool) (w : Nat) (answer : Except TransportError Nat) :
    s.call w answer = s ∨ ∃ b job, s.workers[w]? = some (some b) ∧ s.jobs[b.job]? = some job ∧
      ((∃ status, Ends job (b.calls + 1) answer status ∧
          s.call w answer = ({ s with calls := s.calls ++ [(b.job, answer)] }).finish w b.job job
            (b.calls + 1) status) ∨
        (∃ e, answer = .error e ∧ b.calls + 1 < job.retry.maxAttempts ∧
          s.call w answer =
            { s with
              calls := s.calls ++ [(b.job, answer)]
              workers := s.workers.set w (some ⟨b.job, b.calls + 1⟩) })) := by
  unfold call
  split
  · next b busy =>
    split
    · next job known =>
      refine .inr ⟨b, job, busy, known, ?_⟩
      cases answer with
      | ok code => exact .inl ⟨_, .inl ⟨code, rfl, rfl⟩, rfl⟩
      | error e =>
        dsimp only
        split
        · next last => exact .inl ⟨_, .inr ⟨e, rfl, last, rfl⟩, rfl⟩
        · next more => exact .inr ⟨e, rfl, by omega, rfl⟩
    · exact .inl rfl
  · exact .inl rfl

/-! ### Calls and outcomes by job -/

section Entries

variable {α : Type} (l : List (Nat × α))

theorem entries_append_self (n : Nat) (x : α) :
    ((l ++ [(n, x)]).filter (·.1 == n)).map (·.2) = (l.filter (·.1 == n)).map (·.2) ++ [x] := by
  simp

theorem entries_append_of_ne {m n : Nat} (x : α) (ne : m ≠ n) :
    ((l ++ [(m, x)]).filter (·.1 == n)).map (·.2) = (l.filter (·.1 == n)).map (·.2) := by
  simp [ne]

theorem entries_fresh {k : Nat} (below : ∀ e ∈ l, e.1 < k) :
    (l.filter (·.1 == k)).map (·.2) = [] := by
  simp only [List.map_eq_nil_iff, List.filter_eq_nil_iff, beq_iff_eq]
  intro e he same
  exact absurd (below e he) (by omega)

end Entries

/-! ### The pool as a whole -/

/-- What holds of the pool as a whole: no job number waits twice or is with two workers, and
every number waiting, delivered, called for or answered is that of a submitted job. -/
structure Sound (s : Pool) : Prop where
  distinct : (s.waiting ++ s.busyJobs).Nodup
  known : ∀ n ∈ s.waiting ++ s.busyJobs, n < s.jobs.length
  called : ∀ c ∈ s.calls, c.1 < s.jobs.length
  answered : ∀ o ∈ s.outcomes, o.1 < s.jobs.length

namespace Sound

variable {s : Pool}

theorem new (capacity started : Nat) : (Pool.new capacity started).Sound := by
  have idle : (Pool.new capacity started).waiting ++ (Pool.new capacity started).busyJobs = [] := by
    simp [Pool.new, busyJobs]
  refine ⟨by rw [idle]; simp, fun n hn => ?_, by simp [Pool.new], by simp [Pool.new]⟩
  rw [idle] at hn
  simp at hn

theorem of_perm {s' : Pool} (h : s.Sound) (jobs : s'.jobs = s.jobs) (extra : List Nat)
    (perm : ((s'.waiting ++ s'.busyJobs) ++ extra).Perm (s.waiting ++ s.busyJobs))
    (called : ∀ c ∈ s'.calls, c.1 < s.jobs.length)
    (answered : ∀ o ∈ s'.outcomes, o.1 < s.jobs.length) : s'.Sound := by
  refine ⟨(perm.nodup_iff.2 h.distinct).sublist (List.sublist_append_left _ _), ?_, ?_, ?_⟩
  · intro n hn
    rw [jobs]
    exact h.known n (perm.subset (List.mem_append_left _ hn))
  · simpa [jobs] using called
  · simpa [jobs] using answered

theorem fresh (h : s.Sound) : s.jobs.length ∉ s.waiting ++ s.busyJobs := fun mem => by
  have := h.known _ mem
  omega

theorem submit (h : s.Sound) (job : DeliveryJob) : (s.submit job).Sound := by
  have grow : ∀ m, m < s.jobs.length → m < (s.jobs ++ [job]).length := fun m lt => by
    simp only [List.length_append, List.length_singleton]
    omega
  rcases submit_cases s job with ⟨-, e⟩ | ⟨-, e⟩ <;> rw [e]
  · -- refused: only its dropped outcome is added
    refine ⟨h.distinct, fun n hn => grow n (h.known n hn), fun c hc => grow _ (h.called c hc),
      fun o ho => ?_⟩
    rcases List.mem_append.1 ho with ho | ho
    · exact grow _ (h.answered o ho)
    · rw [List.mem_singleton.1 ho]
      simp
  · -- accepted: its number joins the channel
    refine ⟨?_, fun n hn => ?_, fun c hc => grow _ (h.called c hc),
      fun o ho => grow _ (h.answered o ho)⟩
    · have perm : (s.waiting ++ [s.jobs.length] ++ s.busyJobs).Perm
          (s.jobs.length :: (s.waiting ++ s.busyJobs)) := by
        simp
      exact perm.nodup_iff.2 (List.nodup_cons.2 ⟨h.fresh, h.distinct⟩)
    · simp only [List.mem_append, List.mem_singleton] at hn
      rcases hn with (hn | rfl) | hn
      · exact grow n (h.known n (List.mem_append_left _ hn))
      · simp
      · exact grow n (h.known n (List.mem_append_right _ hn))

theorem take (h : s.Sound) (w : Nat) : (s.take w).Sound := by
  rcases take_cases s w with e | ⟨n, rest, idle, waiting, e⟩
  · rw [e]
    exact h
  · -- the oldest job moves from the channel to the worker
    rw [e]
    refine h.of_perm rfl [] ?_ h.called h.answered
    rw [waiting, List.append_nil]
    calc rest ++ (s.workers.set w (some ⟨n, 0⟩)).filterMap (fun x => x.map Busy.job)
      _ ~ rest ++ (s.busyJobs ++ [n]) := (jobs_set_busy idle _).append_left rest
      _ = (rest ++ s.busyJobs) ++ [n] := (List.append_assoc _ _ _).symm
      _ ~ n :: (rest ++ s.busyJobs) := List.perm_append_singleton n _

theorem call (h : s.Sound) (w : Nat) (answer : Except TransportError Nat) :
    (s.call w answer).Sound := by
  rcases call_cases s w answer with e | ⟨b, job, busyAt, -, ⟨status, -, e⟩ | ⟨err, -, -, e⟩⟩
  · rw [e]
    exact h
  all_goals
    rw [e]
    have known : b.job < s.jobs.length :=
      h.known _ (List.mem_append_right _ (mem_busyJobs.2 ⟨w, b.calls, busyAt⟩))
    have called : ∀ c ∈ s.calls ++ [(b.job, answer)], c.1 < s.jobs.length := by
      intro c hc
      rcases List.mem_append.1 hc with hc | hc
      · exact h.called c hc
      · rw [List.mem_singleton.1 hc]
        exact known
  · -- the worker is done: its job leaves the busy ones and its outcome is sent
    refine h.of_perm rfl [b.job] ?_ called fun o ho => ?_
    · simpa [finish, busyJobs, List.append_assoc] using (jobs_set_idle busyAt).append_left s.waiting
    · rcases List.mem_append.1 ho with ho | ho
      · exact h.answered o ho
      · rw [List.mem_singleton.1 ho]
        exact known
  · -- the worker tries again: the same jobs are busy
    have busy := filterMap_set_perm (fun x => x.map Busy.job) s.workers w
      (some ⟨b.job, b.calls + 1⟩) busyAt
    simp only [Option.map_some, Option.toList_some, List.perm_append_right_iff] at busy
    exact h.of_perm rfl [] (by simpa [busyJobs] using busy.append_left s.waiting) called h.answered

theorem unique_worker (h : s.Sound) {w w' n k k' : Nat} (at_w : s.workers[w]? = some (some ⟨n, k⟩))
    (at_w' : s.workers[w']? = some (some ⟨n, k'⟩)) : w = w' ∧ k = k' := by
  by_cases same : w = w'
  · subst same
    rw [at_w] at at_w'
    simp only [Option.some.injEq, Busy.mk.injEq, true_and] at at_w'
    exact ⟨rfl, at_w'⟩
  · -- with worker `w` idle, `n` would still be busy at `w'` and so be busy twice
    have perm := jobs_set_idle at_w
    have still : n ∈ (s.workers.set w none).filterMap (fun x => x.map Busy.job) :=
      mem_jobs.2 ⟨w', k', by rw [List.getElem?_set_ne same, at_w']⟩
    have nodup := perm.nodup_iff.2 (h.distinct.sublist (List.sublist_append_right _ _))
    exact ((List.nodup_append.1 nodup).2.2 n still n (List.mem_singleton_self n) rfl).elim

theorem step (h : s.Sound) : ∀ e : PoolEvent, (s.step e).Sound
  | .submit job => h.submit job
  | .take w => h.take w
  | .call w answer => h.call w answer
  | .close => ⟨h.distinct, h.known, h.called, h.answered⟩

theorem run (h : s.Sound) (events : List PoolEvent) : (s.run events).Sound := by
  induction events generalizing s with
  | nil => exact h
  | cons e rest ih => exact ih (h.step e)

end Sound

theorem jobs_step (s : Pool) (e : PoolEvent) : ∃ extra, (s.step e).jobs = s.jobs ++ extra := by
  cases e with
  | submit job =>
    rcases submit_cases s job with ⟨-, e⟩ | ⟨-, e⟩ <;> exact ⟨[job], by rw [step, e]⟩
  | take w =>
    rcases take_cases s w with e | ⟨n, rest, -, -, e⟩ <;> exact ⟨[], by simp [step, e]⟩
  | call w answer =>
    rcases call_cases s w answer with e | ⟨b, job, -, -, ⟨status, -, e⟩ | ⟨err, -, -, e⟩⟩ <;>
      exact ⟨[], by simp [step, e, finish]⟩
  | close => exact ⟨[], by simp [step]⟩

theorem getElem?_jobs_step {s : Pool} {n : Nat} {job : DeliveryJob} (e : PoolEvent)
    (h : s.jobs[n]? = some job) : (s.step e).jobs[n]? = some job := by
  obtain ⟨extra, grown⟩ := jobs_step s e
  rw [grown, List.getElem?_append_left (List.getElem?_eq_some_iff.1 h).1, h]

/-! ### One job -/

/-- Where job number `n`, which is `job`, stands in the pool; `refused` says whether submitting
it found the pool refusing. -/
inductive JobStage (s : Pool) (n : Nat) (job : DeliveryJob) : (refused : Bool) → Prop
  /-- Refused when submitted: its dropped outcome was sent, and the transport never called. -/
  | refused : n ∉ s.waiting → n ∉ s.busyJobs → s.callsOf n = [] →
      s.outcomesOf n = [job.dropped] → JobStage s n job true
  /-- Waiting in the channel, with no call made and no outcome sent. -/
  | waiting : n ∈ s.waiting → n ∉ s.busyJobs → s.callsOf n = [] → s.outcomesOf n = [] →
      JobStage s n job false
  /-- With worker `w`, after calls that all failed, fewer than the policy allows. -/
  | busy (w : Nat) (errs : List TransportError) : s.workers[w]? = some (some ⟨n, errs.length⟩) →
      n ∉ s.waiting → errs.length < job.retry.maxAttempts → s.callsOf n = errs.map .error →
      s.outcomesOf n = [] → JobStage s n job false
  /-- Done, with exactly one outcome, the one its calls give. -/
  | served (o : DeliveryOutcome) : n ∉ s.waiting → n ∉ s.busyJobs → s.outcomesOf n = [o] →
      job.Serves (s.callsOf n) o → JobStage s n job false

namespace JobStage

variable {s : Pool} {n : Nat} {job : DeliveryJob} {refused : Bool}

theorem frame {s' : Pool} (stage : JobStage s n job refused)
    (calls : s'.callsOf n = s.callsOf n) (outcomes : s'.outcomesOf n = s.outcomesOf n)
    (waiting : n ∈ s'.waiting ↔ n ∈ s.waiting)
    (workers : ∀ w k : Nat,
      s'.workers[w]? = some (some ⟨n, k⟩) ↔ s.workers[w]? = some (some ⟨n, k⟩)) :
    JobStage s' n job refused := by
  have busy : n ∈ s'.busyJobs ↔ n ∈ s.busyJobs := by simp only [mem_busyJobs, workers]
  cases stage with
  | refused hw hb hc ho =>
    exact .refused (by rwa [waiting]) (by rwa [busy]) (by rw [calls, hc]) (by rw [outcomes, ho])
  | waiting hw hb hc ho =>
    exact .waiting (waiting.2 hw) (by rwa [busy]) (by rw [calls, hc]) (by rw [outcomes, ho])
  | busy w errs hat hw hlt hc ho =>
    exact .busy w errs ((workers w _).2 hat) (by rwa [waiting]) hlt (by rw [calls, hc])
      (by rw [outcomes, ho])
  | served o hw hb ho hs =>
    exact .served o (by rwa [waiting]) (by rwa [busy]) (by rw [outcomes, ho]) (by rwa [calls])

theorem submit_self (h : s.Sound) (job : DeliveryJob) :
    JobStage (s.submit job) s.jobs.length job s.refuses := by
  have fresh := h.fresh
  have uncalled : s.callsOf s.jobs.length = [] := entries_fresh _ h.called
  have unanswered : s.outcomesOf s.jobs.length = [] := entries_fresh _ h.answered
  rcases submit_cases s job with ⟨refuses, e⟩ | ⟨accepts, e⟩ <;> rw [e]
  · rw [refuses]
    refine .refused (fun hw => fresh (List.mem_append_left _ hw))
      (fun hb => fresh (List.mem_append_right _ hb)) uncalled ?_
    simp only [outcomesOf, entries_append_self]
    rw [← outcomesOf, unanswered, List.nil_append]
  · rw [accepts]
    exact .waiting (by simp) (fun hb => fresh (List.mem_append_right _ hb)) uncalled unanswered

theorem submit_other (stage : JobStage s n job refused) (lt : n < s.jobs.length) (j : DeliveryJob) :
    JobStage (s.submit j) n job refused := by
  have ne : s.jobs.length ≠ n := by omega
  rcases submit_cases s j with ⟨-, e⟩ | ⟨-, e⟩ <;> rw [e]
  · exact stage.frame rfl (entries_append_of_ne _ _ ne) Iff.rfl (fun _ _ => Iff.rfl)
  · exact stage.frame rfl rfl (by simp [Ne.symm ne]) (fun _ _ => Iff.rfl)

theorem take (h : s.Sound) (stage : JobStage s n job refused) (w : Nat) :
    JobStage (s.take w) n job refused := by
  rcases take_cases s w with e | ⟨m, rest, idle, waiting, e⟩
  · rw [e]
    exact stage
  rw [e]
  by_cases hm : m = n
  · -- this job is the oldest waiting: the worker takes it, with no call made yet
    subst hm
    have first : m ∈ s.waiting := by simp [waiting]
    cases stage with
    | refused hw => exact absurd first hw
    | busy _ _ _ hw => exact absurd first hw
    | served _ hw => exact absurd first hw
    | waiting _ _ hc ho =>
      have once : m ∉ rest := by
        have := h.distinct.sublist (List.sublist_append_left _ _)
        rw [waiting] at this
        exact (List.nodup_cons.1 this).1
      have lt : w < s.workers.length := (List.getElem?_eq_some_iff.1 idle).1
      exact .busy w [] (by simp [List.getElem?_set_self lt]) once (maxAttempts_pos _) hc ho
  · -- another job is taken
    refine stage.frame rfl rfl (by simp [waiting, Ne.symm hm]) ?_
    exact set_busy_iff _ idle (fun _ => by simp) (fun _ => by simp [hm])

theorem call (h : s.Sound) (stage : JobStage s n job refused) (hjob : s.jobs[n]? = some job)
    (w : Nat) (answer : Except TransportError Nat) : JobStage (s.call w answer) n job refused := by
  rcases call_cases s w answer with e | ⟨⟨m, k⟩, bjob, busyAt, known, done⟩
  · rw [e]
    exact stage
  by_cases hm : m = n
  · -- this job's worker calls the transport: the job must be with that worker
    subst hm
    have with_w : m ∈ s.busyJobs := mem_busyJobs.2 ⟨w, k, busyAt⟩
    have same_job : bjob = job := Option.some.inj (known.symm.trans hjob)
    subst same_job
    cases stage with
    | refused _ hb => exact absurd with_w hb
    | waiting _ hb => exact absurd with_w hb
    | served _ _ hb => exact absurd with_w hb
    | busy w' errs hat hw hlt hc ho =>
      obtain ⟨rfl, rfl⟩ := h.unique_worker hat busyAt
      have calls : ∀ t : Pool, t.calls = s.calls ++ [(m, answer)] →
          t.callsOf m = errs.map .error ++ [answer] := by
        intro t ht
        simp only [callsOf, ht, entries_append_self]
        rw [← callsOf, hc]
      rcases done with ⟨status, ends, e⟩ | ⟨err, rfl, more, e⟩ <;> rw [e]
      · -- the call ends the job: the worker is idle and the one outcome is sent
        have gone := jobs_set_idle hat
        have nodup := gone.nodup_iff.2 (h.distinct.sublist (List.sublist_append_right _ _))
        refine .served ⟨bjob.subscription, bjob.request.url, errs.length + 1, status⟩ hw
          (fun hb => ?_) ?_ ?_
        · exact (List.nodup_append.1 nodup).2.2 m hb m (List.mem_singleton_self m) rfl
        · simp only [finish, outcomesOf, entries_append_self]
          rw [← outcomesOf, ho, List.nil_append]
        · rw [calls _ rfl]
          refine ⟨rfl, rfl, by simp, ?_⟩
          rcases ends with ⟨code, rfl, rfl⟩ | ⟨err, rfl, last, rfl⟩
          · exact .inl ⟨errs, code, rfl, by simp; omega, rfl⟩
          · have last : bjob.retry.maxAttempts ≤ errs.length + 1 := last
            exact .inr ⟨errs, err, by simp, by simp; omega, rfl⟩
      · -- the call fails with attempts left: the worker keeps the job
        refine .busy w' (errs ++ [err]) ?_ hw (by simpa using more) (by simpa using calls _ rfl) ho
        have lt : w' < s.workers.length := (List.getElem?_eq_some_iff.1 hat).1
        simp [List.getElem?_set_self lt]
  · -- another job's worker calls the transport
    have other : ∀ k', some (⟨m, k⟩ : Busy) ≠ some ⟨n, k'⟩ := fun _ => by simp [hm]
    rcases done with ⟨status, -, e⟩ | ⟨err, -, -, e⟩ <;> rw [e]
    · refine stage.frame (entries_append_of_ne _ _ hm) (entries_append_of_ne _ _ hm) Iff.rfl ?_
      exact set_busy_iff _ busyAt other (fun _ => by simp)
    · refine stage.frame (entries_append_of_ne _ _ hm) rfl Iff.rfl ?_
      exact set_busy_iff _ busyAt other (fun _ => by simp [hm])

theorem step (h : s.Sound) (stage : JobStage s n job refused) (hjob : s.jobs[n]? = some job) :
    ∀ e : PoolEvent, JobStage (s.step e) n job refused
  | .submit j => stage.submit_other (List.getElem?_eq_some_iff.1 hjob).1 j
  | .take w => stage.take h w
  | .call w answer => stage.call h hjob w answer
  | .close => stage.frame rfl rfl Iff.rfl fun _ _ => Iff.rfl

theorem run (events : List PoolEvent) (h : s.Sound) (stage : JobStage s n job refused)
    (hjob : s.jobs[n]? = some job) :
    JobStage (s.run events) n job refused ∧ (s.run events).jobs[n]? = some job := by
  induction events generalizing s with
  | nil => exact ⟨stage, hjob⟩
  | cons e rest ih => exact ih (h.step e) (stage.step h hjob e) (getElem?_jobs_step e hjob)

theorem outcome_of_closed (stage : JobStage s n job refused) (shut : s.closed) :
    ∃ o, s.outcomesOf n = [o] ∧
      (refused = true ∧ o = job.dropped ∧ s.callsOf n = [] ∨
        refused = false ∧ job.Serves (s.callsOf n) o) := by
  simp only [closed, Bool.and_eq_true, Bool.not_eq_true', List.isEmpty_iff, List.all_eq_true,
    Option.isNone_iff_eq_none] at shut
  obtain ⟨⟨-, empty⟩, idle⟩ := shut
  cases stage with
  | refused _ _ hc ho => exact ⟨_, ho, .inl ⟨rfl, rfl, hc⟩⟩
  | waiting hw => simp [empty] at hw
  | busy w _ hat => simpa using idle _ (List.mem_of_getElem? hat)
  | served o _ _ ho hs => exact ⟨o, ho, .inr ⟨rfl, hs⟩⟩

end JobStage

/-- Every job submitted to the pool, in any interleaving of submissions, worker steps whose
transport calls return, and closing, has exactly one outcome once closing has returned. It is the
dropped one, with no attempt, exactly when the pool refused the job as it was submitted (it was
closed, had no worker, or its channel was full). Otherwise the job was delivered at the first
successful call, within the attempts its policy allows, or failed with the last error after as
many calls as the policy allows. Either way the transport was called for the job as many times
as its outcome counts attempts. -/
theorem every_job_gets_one_outcome (capacity started : Nat) (before after : List PoolEvent)
    (job : DeliveryJob)
    (shut : ((Pool.new capacity started).run (before ++ .submit job :: after)).closed) :
    let s := (Pool.new capacity started).run before
    let t := (Pool.new capacity started).run (before ++ .submit job :: after)
    t.jobs[s.jobs.length]? = some job ∧
    ∃ o, t.outcomesOf s.jobs.length = [o] ∧ o.subscription = job.subscription ∧
      o.url = job.request.url ∧ o.attempts = (t.callsOf s.jobs.length).length ∧
      ((s.refuses = true ∧ o.status = .dropped ∧ o.attempts = 0) ∨
        (s.refuses = false ∧ ∃ (errs : List TransportError) (code : Nat),
          t.callsOf s.jobs.length = errs.map .error ++ [.ok code] ∧
          o.attempts ≤ job.retry.maxAttempts ∧ o.status = .delivered code) ∨
        (s.refuses = false ∧ ∃ (errs : List TransportError) (e : TransportError),
          t.callsOf s.jobs.length = (errs ++ [e]).map .error ∧
          o.attempts = job.retry.maxAttempts ∧ o.status = .failed e.message)) := by
  intro s t
  have sound : s.Sound := (Sound.new capacity started).run before
  have here : (s.submit job).jobs[s.jobs.length]? = some job := by
    rcases submit_cases s job with ⟨-, e⟩ | ⟨-, e⟩ <;> simp [e]
  have split : t = (s.submit job).run after := by
    simp only [t, s, run, List.foldl_append, List.foldl_cons]
    rfl
  obtain ⟨stage, named⟩ := (JobStage.submit_self sound job).run after (sound.submit job) here
  rw [← split] at stage named
  obtain ⟨o, ho, fate⟩ := stage.outcome_of_closed shut
  refine ⟨named, o, ho, ?_⟩
  rcases fate with ⟨refused, rfl, hc⟩ | ⟨accepted, sub, url, attempts, delivered | failed⟩
  · exact ⟨rfl, rfl, by simp [hc, DeliveryJob.dropped], .inl ⟨refused, rfl, rfl⟩⟩
  · obtain ⟨errs, code, calls, within, status⟩ := delivered
    exact ⟨sub, url, attempts, .inr (.inl ⟨accepted, errs, code, calls, attempts ▸ within, status⟩)⟩
  · obtain ⟨errs, e, calls, all, status⟩ := failed
    exact ⟨sub, url, attempts, .inr (.inr ⟨accepted, errs, e, calls, attempts ▸ all, status⟩)⟩

/-- A job to a destination that refuses every connection, under a policy of three tries, on a
pool of four slots and one worker, closed after the worker is done with it. -/
theorem every_job_gets_one_outcome_when_unreachable :
    let job : DeliveryJob := ⟨default, ⟨"http://down.test/hook", [], []⟩, ⟨3, 0⟩⟩
    let refused : Except TransportError Nat := .error (.request "connection refused")
    let after : List PoolEvent :=
      [.take 0, .call 0 refused, .call 0 refused, .call 0 refused, .close]
    let s := (Pool.new 4 1).run []
    let t := (Pool.new 4 1).run ([] ++ .submit job :: after)
    t.closed = true ∧
    t.jobs[s.jobs.length]? = some job ∧
    ∃ o, t.outcomesOf s.jobs.length = [o] ∧ o.subscription = job.subscription ∧
      o.url = job.request.url ∧ o.attempts = (t.callsOf s.jobs.length).length ∧
      ((s.refuses = true ∧ o.status = .dropped ∧ o.attempts = 0) ∨
        (s.refuses = false ∧ ∃ (errs : List TransportError) (code : Nat),
          t.callsOf s.jobs.length = errs.map .error ++ [.ok code] ∧
          o.attempts ≤ job.retry.maxAttempts ∧ o.status = .delivered code) ∨
        (s.refuses = false ∧ ∃ (errs : List TransportError) (e : TransportError),
          t.callsOf s.jobs.length = (errs ++ [e]).map .error ∧
          o.attempts = job.retry.maxAttempts ∧ o.status = .failed e.message)) := by
  intro job refused after s t
  have shut : t.closed = true := by decide
  exact ⟨shut, every_job_gets_one_outcome 4 1 [] after job shut⟩

end Pool

end Fulfilment.Webhook
