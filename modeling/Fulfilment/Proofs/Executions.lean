import Fulfilment.Pipeline.Interleaving

/-!
Reasoning about executions. A property that every transition preserves holds at every system
an execution passes through, when it holds at the start: the one induction on executions,
made once here. Each transition of an execution is a step of the system.
-/

namespace Fulfilment

@[simp] theorem System.jobs_setJob (s : System) (j : Nat) (job : Option Job) (i : Nat) :
    (s.setJob j job).jobs i = if i = j then job else s.jobs i := rfl

@[simp] theorem System.pipeline_setJob (s : System) (j : Nat) (job : Option Job) :
    (s.setJob j job).pipeline = s.pipeline := rfl

namespace Execution

variable {w : World} {s s' : System} {ts : List Transition}

theorem step_of_mem (run : Execution w s ts s') : ∀ t ∈ ts, Step w t.before t.label t.after := by
  induction run with
  | done => simp
  | step first _ ih =>
    intro t ht
    rcases List.mem_cons.1 ht with rfl | ht
    · exact first
    · exact ih t ht

theorem preserves_of {P Q : System → Prop} (keep : ∀ {s ℓ s'}, Step w s ℓ s' → Q s → P s → P s')
    (run : Execution w s ts s') (side : ∀ t ∈ ts, Q t.before) (start : P s) :
    (∀ t ∈ ts, P t.before ∧ P t.after) ∧ P s' := by
  induction run with
  | done => simpa using start
  | step first _ ih =>
    have next := keep first (side _ List.mem_cons_self) start
    obtain ⟨along, last⟩ := ih (fun t ht => side t (List.mem_cons_of_mem _ ht)) next
    refine ⟨fun t ht => ?_, last⟩
    rcases List.mem_cons.1 ht with rfl | ht
    · exact ⟨start, next⟩
    · exact along t ht

theorem preserves {P : System → Prop} (keep : ∀ {s ℓ s'}, Step w s ℓ s' → P s → P s')
    (run : Execution w s ts s') (start : P s) : (∀ t ∈ ts, P t.before ∧ P t.after) ∧ P s' :=
  preserves_of (fun step (_ : True) => keep step) run (fun _ _ => trivial) start

theorem along {P : System → Prop} (keep : ∀ t ∈ ts, P t.before → P t.after)
    (run : Execution w s ts s') (start : P s) : (∀ t ∈ ts, P t.before) ∧ P s' := by
  induction run with
  | done => simpa using start
  | step first _ ih =>
    have next := keep _ List.mem_cons_self start
    obtain ⟨later, last⟩ := ih (fun t ht => keep t (List.mem_cons_of_mem _ ht)) next
    refine ⟨fun t ht => ?_, last⟩
    rcases List.mem_cons.1 ht with rfl | ht
    · exact start
    · exact later t ht

/-- A property that no transition gives up comes to hold at most once: of the transitions that
meet `c`, each making the property hold where it did not, there is at most one, and none when it
held from the start. -/
theorem countP_turns {Q : System → Prop} {c : Transition → Bool}
    (mono : ∀ t ∈ ts, Q t.before → Q t.after) (turns : ∀ t ∈ ts, c t → ¬Q t.before ∧ Q t.after)
    (run : Execution w s ts s') : (Q s → ts.countP c = 0) ∧ ts.countP c ≤ 1 := by
  induction run with
  | done => simp
  | @step s s₁ _ ℓ rest first _ ih =>
    obtain ⟨none_after, at_most⟩ := ih (fun t ht => mono t (List.mem_cons_of_mem _ ht))
      (fun t ht => turns t (List.mem_cons_of_mem _ ht))
    have kept : Q s → Q s₁ := mono ⟨s, ℓ, s₁⟩ List.mem_cons_self
    by_cases hc : c ⟨s, ℓ, s₁⟩
    · -- the first transition turns the property on, so none of the rest does
      obtain ⟨before, after⟩ := turns ⟨s, ℓ, s₁⟩ List.mem_cons_self hc
      simp [hc, none_after after, before]
    · simp only [List.countP_cons, hc]
      exact ⟨fun h => by simpa using none_after (kept h), by simpa using at_most⟩

theorem split {pre post : List Transition} {t : Transition}
    (run : Execution w s (pre ++ t :: post) s') :
    Execution w s pre t.before ∧ Execution w t.after post s' := by
  induction pre generalizing s with
  | nil =>
    rcases run with _ | ⟨_, rest⟩
    exact ⟨.done _, rest⟩
  | cons _ pre ih =>
    rcases run with _ | ⟨first, rest⟩
    obtain ⟨before, after⟩ := ih rest
    exact ⟨.step first before, after⟩

theorem exists_of_arises {P : System → Prop} {c : Transition → Prop}
    (arise : ∀ t ∈ ts, P t.after → P t.before ∨ c t) (run : Execution w s ts s') (start : ¬P s)
    (finish : P s') : ∃ t ∈ ts, c t := by
  induction run with
  | done => exact absurd finish start
  | @step s s₁ _ ℓ rest first _ ih =>
    by_cases hc : c ⟨s, ℓ, s₁⟩
    · exact ⟨_, List.mem_cons_self, hc⟩
    · have mid : ¬P s₁ := fun h => (arise _ List.mem_cons_self h).elim start hc
      obtain ⟨t, ht, ct⟩ := ih (fun t ht => arise t (List.mem_cons_of_mem _ ht)) mid finish
      exact ⟨t, List.mem_cons_of_mem _ ht, ct⟩

end Execution

/-- A move of a schedule: a job starts, takes a step in a context, or a finalization's call
fails; or the surroundings change the pipeline. -/
inductive Move where
  | start (j : Nat) (job : Job)
  | step (j : Nat) (ctx : Context)
  | fail (j : Nat) (e : PipelineError)
  | env (change : Pipeline → Pipeline)

def Move.job? : Move → Option Nat
  | .start j _ | .step j _ | .fail j _ => some j
  | .env _ => none

/-- What a world allows of a move: a start of a first stage it admits, a change it makes of any
pipeline. -/
def Move.Allowed (w : World) : Move → Prop
  | .start _ job => job.Initial ∧ w.admits job
  | .env change => ∀ p, w.env p (change p)
  | _ => True

/-- Plays a schedule: the transitions it makes and the system it ends in. A move that cannot be
made is passed over: a start at a number in use, a step at a number with no job, a failure of a
call that cannot fail. -/
def System.play : System → List Move → List Transition × System
  | s, [] => ([], s)
  | s, .start j job :: ms =>
    if s.jobs j = none then
      let s' := s.setJob j (some job)
      ((⟨s, .start j job, s'⟩ :: (s'.play ms).1), (s'.play ms).2)
    else s.play ms
  | s, .step j ctx :: ms =>
    match s.jobs j with
    | some job =>
      let out := Pipeline.runIn job.advance ctx s.pipeline
      let s' := { s with pipeline := out.2 }.setJob j (Job.after out.1)
      ((⟨s, .step j job out.1, s'⟩ :: (s'.play ms).1), (s'.play ms).2)
    | none => s.play ms
  | s, .fail j e :: ms =>
    match s.jobs j with
    | some (.finalize st) =>
      if st.Fallible then
        let s' := s.setJob j (Job.after (.error e))
        ((⟨s, .fail j (.finalize st) (.error e), s'⟩ :: (s'.play ms).1), (s'.play ms).2)
      else s.play ms
    | _ => s.play ms
  | s, .env change :: ms =>
    let s' := { s with pipeline := change s.pipeline }
    ((⟨s, .env, s'⟩ :: (s'.play ms).1), (s'.play ms).2)

theorem System.play_cons (s : System) (m : Move) (ms : List Move) :
    s.play (m :: ms) = s.play ms ∨
    ∃ ℓ s', s.play (m :: ms) = (⟨s, ℓ, s'⟩ :: (s'.play ms).1, (s'.play ms).2) ∧
      (∀ w, m.Allowed w → Step w s ℓ s') ∧ ∀ i, m.job? ≠ some i → s'.jobs i = s.jobs i := by
  -- each kind of move, when it is made, is one constructor of a step
  cases m with
  | start j job =>
    by_cases idle : s.jobs j = none
    · refine .inr ⟨_, _, by simp only [System.play, idle, if_true], fun w allowed =>
        .start idle allowed.1 allowed.2, fun i other => ?_⟩
      simp [Move.job?] at other
      simp [Ne.symm other]
    · exact .inl (by simp only [System.play, idle, if_false])
  | step j ctx =>
    cases running : s.jobs j with
    | none => exact .inl (by simp only [System.play, running])
    | some job =>
      refine .inr ⟨_, _, by simp only [System.play, running], fun _ _ => .step ctx running,
        fun i other => ?_⟩
      simp [Move.job?] at other
      simp [Ne.symm other]
  | fail j e =>
    cases running : s.jobs j with
    | none => exact .inl (by simp only [System.play, running])
    | some job =>
      cases job with
      | finalize st =>
        by_cases fallible : st.Fallible
        · refine .inr ⟨_, _, by simp only [System.play, running, fallible, if_true],
            fun _ _ => .fail running ⟨fallible, e, rfl⟩, fun i other => ?_⟩
          simp [Move.job?] at other
          simp [Ne.symm other]
        · exact .inl (by simp only [System.play, running, fallible, if_false])
      | fetch => exact .inl (by simp only [System.play, running])
      | ingest => exact .inl (by simp only [System.play, running])
  | env change =>
    exact .inr ⟨_, _, by simp only [System.play], fun w allowed => .env (allowed _),
      fun _ _ => rfl⟩

theorem Execution.play {w : World} {ms : List Move} (allowed : ∀ m ∈ ms, m.Allowed w)
    (s : System) : Execution w s (s.play ms).1 (s.play ms).2 := by
  induction ms generalizing s with
  | nil => exact .done s
  | cons m ms ih =>
    have rest := ih fun m' h => allowed m' (List.mem_cons_of_mem _ h)
    rcases System.play_cons s m ms with passed | ⟨ℓ, s', made, step, -⟩
    · rw [passed]
      exact rest s
    · rw [made]
      exact .step (step w (allowed m List.mem_cons_self)) (rest s')

theorem System.play_jobs_of_unnamed {ms : List Move} {i : Nat}
    (unnamed : ∀ m ∈ ms, m.job? ≠ some i) (s : System) :
    ∀ t ∈ (s.play ms).1, t.before.jobs i = s.jobs i := by
  induction ms generalizing s with
  | nil => simp [System.play]
  | cons m ms ih =>
    have rest := ih fun m' h => unnamed m' (List.mem_cons_of_mem _ h)
    rcases System.play_cons s m ms with passed | ⟨ℓ, s', made, -, kept⟩
    · rw [passed]
      exact rest s
    · rw [made]
      intro t ht
      rcases List.mem_cons.1 ht with rfl | ht
      · rfl
      · rw [rest s' t ht, kept i (unnamed m List.mem_cons_self)]

end Fulfilment
