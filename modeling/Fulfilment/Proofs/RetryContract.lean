import Mathlib.Data.List.Basic
import Fulfilment.Messaging.Retry

/-!
What a run of a retry policy does, seen through a log of ticks (`scripted`, `noteSleep`); which
call is the last is said by `StopsAt`, without the loop.
-/

namespace Fulfilment.RetryPolicy

variable {ε α β γ δ : Type}

/-- What a run shows of itself: a call of the operation with its argument, or a sleep. -/
inductive Tick (β : Type) where
  | call (arg : β)
  | sleep (ms : Nat)
  deriving DecidableEq, Repr

def Tick.isCall : Tick β → Bool
  | .call _ => true
  | .sleep _ => false

/-- Runs a computation on a log: its answer and the log after it. -/
def onLog (x : StateM (List (Tick β)) γ) (log : List (Tick β)) : γ × List (Tick β) := x.run log

/-- An operation whose `i`-th call answers `answers i`, noting each call with its argument. -/
def scripted (answers : Nat → Except ε α) (arg : β) : StateM (List (Tick β)) (Except ε α) :=
  modifyGet fun log => (answers (log.countP Tick.isCall + 1), log ++ [.call arg])

def noteSleep (ms : Nat) : StateM (List (Tick β)) Unit :=
  modify (· ++ [.sleep ms])

/-- Calls with the given arguments, with a sleep of `ms` between each two unless `ms` is zero. -/
def spaced (ms : Nat) (args : List β) : List (Tick β) :=
  if ms = 0 then args.map .call else (args.map .call).intersperse (.sleep ms)

/-- A run allowed `limit` tries, whose `i`-th try answers `answers i`, makes `k` of them: up to the
first success, or `limit` when none of those succeeds. -/
structure StopsAt (answers : Nat → Except ε α) (limit k : Nat) : Prop where
  pos : 0 < k
  le_limit : k ≤ limit
  failed : ∀ i, 0 < i → i < k → (answers i).isOk = false
  last : (answers k).isOk = true ∨ k = limit

/-! ### Runs on a log -/

section Log

theorem onLog_bind (x : StateM (List (Tick β)) γ) (f : γ → StateM (List (Tick β)) δ)
    (log : List (Tick β)) : onLog (x >>= f) log = onLog (f (onLog x log).1) (onLog x log).2 := rfl

@[simp] theorem onLog_pure (c : γ) (log : List (Tick β)) :
    onLog (pure c : StateM (List (Tick β)) γ) log = (c, log) := rfl

@[simp] theorem onLog_scripted (answers : Nat → Except ε α) (arg : β) (log : List (Tick β)) :
    onLog (scripted answers arg) log = (answers (log.countP Tick.isCall + 1), log ++ [.call arg]) :=
  rfl

@[simp] theorem onLog_noteSleep (ms : Nat) (log : List (Tick β)) :
    onLog (noteSleep ms) log = ((), log ++ [.sleep ms]) := rfl

end Log

/-! ### Pacing -/

/-- The ticks of try `attempt` of an operation paced by a delay of `ms`. -/
def tryTicks (ms attempt : Nat) (arg : β) : List (Tick β) :=
  if attempt ≤ 1 ∨ ms = 0 then [.call arg] else [.sleep ms, .call arg]

theorem onLog_paced (p : RetryPolicy) (answers : Nat → Except ε α) (g : Nat → β) (attempt : Nat)
    (log : List (Tick β)) :
    onLog (p.paced noteSleep (fun a => scripted answers (g a)) attempt) log =
      (answers (log.countP Tick.isCall + 1), log ++ tryTicks p.delayMs attempt (g attempt)) := by
  unfold paced tryTicks
  split
  · rfl
  · simp [onLog_bind, Tick.isCall]

theorem paced_pure {m : Type → Type} [Monad m] [LawfulMonad m] (p : RetryPolicy)
    (op : Nat → m (Except ε α)) : p.paced (fun _ => pure ()) op = op := by
  funext attempt
  unfold paced
  split <;> simp

theorem runSleeping_pure {m : Type → Type} [Monad m] [LawfulMonad m] (p : RetryPolicy)
    (op : Nat → m (Except ε α)) : p.runSleeping (fun _ => pure ()) op = p.run op := by
  rw [runSleeping, paced_pure]

theorem paced_of_delay_zero {m : Type → Type} [Monad m] {p : RetryPolicy} (h : p.delayMs = 0)
    (sleep : Nat → m Unit) (op : Nat → m (Except ε α)) : p.paced sleep op = op := by
  funext attempt
  rw [paced, if_pos (Or.inr h)]

theorem intersperse_cons_eq_flatMap (s x : β) (l : List β) :
    (x :: l).intersperse s = x :: l.flatMap fun y => [s, y] := by
  induction l generalizing x with
  | nil => rfl
  | cons y l ih => simp [ih]

theorem flatMap_tryTicks (ms : Nat) (g : Nat → β) (k : Nat) :
    (List.range' 1 k).flatMap (fun a => tryTicks ms a (g a)) =
      spaced ms ((List.range' 1 k).map g) := by
  cases k with
  | zero => simp [spaced]
  | succ k =>
    have later : ∀ a ∈ List.range' 2 k, tryTicks ms a (g a) =
        if ms = 0 then [Tick.call (g a)] else [.sleep ms, .call (g a)] := by
      intro a ha
      have : ¬a ≤ 1 := by simp at ha; omega
      simp [tryTicks, this]
    rw [List.range'_succ, List.flatMap_cons, List.flatMap_congr later]
    by_cases hms : ms = 0
    · simp [spaced, tryTicks, hms]
      exact List.map_eq_flatMap.symm
    · simp [spaced, tryTicks, hms, intersperse_cons_eq_flatMap, List.flatMap_map]

/-! ### Where a run stops -/

section Stops

variable {answers : Nat → Except ε α} {limit j : Nat}

theorem StopsAt.first (hlim : 0 < limit) (h : (answers 1).isOk = true ∨ limit = 1) :
    StopsAt answers limit 1 where
  pos := Nat.one_pos
  le_limit := hlim
  failed i hi lt := absurd lt (by omega)
  last := h.imp id Eq.symm

theorem StopsAt.next (h1 : (answers 1).isOk = false)
    (h : StopsAt (fun i => answers (i + 1)) limit j) : StopsAt answers (limit + 1) (j + 1) where
  pos := Nat.succ_pos j
  le_limit := Nat.succ_le_succ h.le_limit
  failed i hi lt := by
    rcases Nat.lt_or_ge 1 i with gt | le
    · obtain ⟨i, rfl⟩ : ∃ i', i = i' + 1 := ⟨i - 1, by omega⟩
      exact h.failed i (by omega) (by omega)
    · rwa [show i = 1 by omega]
  last := h.last.imp id (congrArg (· + 1))

theorem StopsAt.not_lt {k : Nat} (h : StopsAt answers limit j) (h' : StopsAt answers limit k) :
    ¬j < k := by
  intro lt
  have fails := h'.failed j h.pos lt
  rcases h.last with ok | rfl
  · rw [ok] at fails
    exact Bool.noConfusion fails
  · exact absurd h'.le_limit (by omega)

theorem StopsAt.unique {k : Nat} (h : StopsAt answers limit j) (h' : StopsAt answers limit k) :
    j = k :=
  Nat.le_antisymm (Nat.not_lt.1 (h'.not_lt h)) (Nat.not_lt.1 (h.not_lt h'))

end Stops

/-! ### The loop -/

theorem onLog_tryFrom (p : RetryPolicy) (answers : Nat → Except ε α) (g : Nat → β) (more : Nat) :
    ∀ attempt (log : List (Tick β)),
      ∃ j, StopsAt (fun i => answers (log.countP Tick.isCall + i)) (more + 1) j ∧
        onLog (tryFrom (p.paced noteSleep fun a => scripted answers (g a)) attempt more) log =
          (answers (log.countP Tick.isCall + j),
            log ++ (List.range' attempt j).flatMap fun a => tryTicks p.delayMs a (g a)) := by
  induction more with
  | zero =>
    intro attempt log
    refine ⟨1, StopsAt.first Nat.one_pos (.inr rfl), ?_⟩
    simp [tryFrom, onLog_paced]
  | succ more ih =>
    intro attempt log
    have first := onLog_paced p answers g attempt log
    generalize hc : log.countP Tick.isCall = c at first ⊢
    have next_count :
        (log ++ tryTicks p.delayMs attempt (g attempt)).countP Tick.isCall = c + 1 := by
      unfold tryTicks
      split <;> simp [hc, Tick.isCall]
    rcases hans : answers (c + 1) with e | v
    · obtain ⟨j, stops, hrun⟩ := ih (attempt + 1) (log ++ tryTicks p.delayMs attempt (g attempt))
      rw [next_count] at stops hrun
      have shift : (fun i => answers (c + 1 + i)) = fun i => answers (c + (i + 1)) :=
        funext fun i => by rw [Nat.add_assoc, Nat.add_comm 1 i]
      refine ⟨j + 1, StopsAt.next (by rw [hans]; rfl) (shift ▸ stops), ?_⟩
      have last : c + 1 + j = c + (j + 1) := by omega
      simp only [tryFrom, onLog_bind, first, hans, hrun, List.range'_succ, List.flatMap_cons,
        List.append_assoc, last]
    · refine ⟨1, StopsAt.first (Nat.succ_pos _) (.inl (by rw [hans]; rfl)), ?_⟩
      simp [tryFrom, onLog_bind, first, hans, tryTicks]

theorem onLog_run_paced (p q : RetryPolicy) (answers : Nat → Except ε α) (g : Nat → β) :
    ∃ k, StopsAt answers p.maxAttempts k ∧
      onLog (p.run (q.paced noteSleep fun a => scripted answers (g a))) [] =
        (answers k, spaced q.delayMs ((List.range' 1 k).map g)) := by
  obtain ⟨k, stops, hrun⟩ := onLog_tryFrom q answers g (p.maxAttempts - 1) 1 []
  have limit : p.maxAttempts - 1 + 1 = p.maxAttempts := by
    unfold maxAttempts
    omega
  simp only [List.countP_nil, Nat.zero_add, limit, List.nil_append] at stops hrun
  exact ⟨k, stops, by rw [run, hrun, flatMap_tryTicks]⟩

/-- The contract of a retry policy. For any answers of the operation, a run calls it `k` times,
where `k` is the first success within `maxAttempts` tries or `maxAttempts` itself, with the
attempt numbers `1` to `k`, and answers the `k`-th answer. It sleeps for the delay between each
two calls when the delay is not zero, so `k - 1` times and never after the last call, and the
attempt number stays a 32-bit count when the policy's is. A guarded handler is likewise called
`k` times, with the same input every time, and answers its last answer. -/
theorem calls_until_first_success (p : RetryPolicy) :
    (∀ answers : Nat → Except ε α, ∃ k, StopsAt answers p.maxAttempts k ∧
      (p.attempts < UInt32.size → k < UInt32.size) ∧
      onLog (p.runSleeping noteSleep (scripted answers)) [] =
        (answers k, spaced p.delayMs (List.range' 1 k))) ∧
    ∀ (answers : Nat → Except ε Unit) (x : β), ∃ k, StopsAt answers p.maxAttempts k ∧
      onLog (p.guard (scripted answers) x) [] = (answers k, (List.replicate k x).map .call) := by
  refine ⟨fun answers => ?_, fun answers x => ?_⟩
  · obtain ⟨k, stops, hrun⟩ := onLog_run_paced p p answers id
    have hrun : onLog (p.run (p.paced noteSleep (scripted answers))) [] =
        (answers k, spaced p.delayMs ((List.range' 1 k).map id)) := hrun
    refine ⟨k, stops, fun fits => ?_, ?_⟩
    · have := stops.le_limit
      have size : UInt32.size = 4294967296 := rfl
      unfold maxAttempts at this
      omega
    · rw [runSleeping, hrun, List.map_id]
  · -- a guarded handler is the run of a constant operation, with no sleep
    obtain ⟨k, stops, hrun⟩ := onLog_run_paced p { p with delayMs := 0 } answers fun _ => x
    rw [paced_of_delay_zero rfl] at hrun
    refine ⟨k, stops, ?_⟩
    rw [guard, hrun, spaced, if_pos rfl, List.map_const', List.length_range']

example : onLog ((⟨3, 5⟩ : RetryPolicy).runSleeping noteSleep
    (scripted fun i => if i < 2 then .error "busy" else .ok i)) [] =
      (.ok 2, [.call 1, .sleep 5, .call 2]) := rfl

end Fulfilment.RetryPolicy
