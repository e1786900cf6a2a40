import Fulfilment.Pipeline.Workers
import Fulfilment.Proofs.Stages
import Fulfilment.Proofs.Redelivery

/-!
Retries inside redeliveries. The worker is followed through `finalizeLogged`, the same loop that
also returns each message with the outcome of each call on it; `Serves` says how those outcomes
decide the subscription, and `Fate` what they come to for one message.
-/

namespace Fulfilment

namespace Pipeline

variable {α β : Type} {ctx : Context} {p : Pipeline}

def effectIn (act : Effect α) (ctx : Context) (p : Pipeline) : α × Pipeline := (act.run ctx).run p

@[simp] theorem effectIn_pure (a : α) : effectIn (pure a : Effect α) ctx p = (a, p) := rfl

theorem effectIn_bind (x : Effect α) (f : α → Effect β) :
    effectIn (x >>= f) ctx p = effectIn (f (effectIn x ctx p).1) ctx (effectIn x ctx p).2 := rfl

@[simp] theorem effectIn_get : effectIn (get : Effect Pipeline) ctx p = (p, p) := rfl

@[simp] theorem effectIn_set (q : Pipeline) : effectIn (set q : Effect PUnit) ctx p = (⟨⟩, q) := rfl

@[simp] theorem effectIn_modify (f : Pipeline → Pipeline) :
    effectIn (modify f : Effect PUnit) ctx p = (⟨⟩, f p) := rfl

theorem effectIn_run (act : PipelineM α) : effectIn act.run ctx p = runIn act ctx p := rfl

end Pipeline

/-! ### Finalization leaves the bus alone -/

namespace FinalizeStage

open Pipeline

variable {ctx : Context} {p : Pipeline}

theorem pipeline_advance (s : FinalizeStage) :
    (runIn s.advance ctx p).2 = (runIn (Job.finalize s).advance ctx p).2 := by
  rw [Job.runIn_finalize]
  rcases runIn s.advance ctx p with ⟨_ | (_ | _), q⟩ <;> rfl

theorem bus_advance (s : FinalizeStage) : (runIn s.advance ctx p).2.bus = p.bus := by
  rw [pipeline_advance]
  cases s with
  | load id => rw [Job.advance_load]
  | lookup o => rw [Job.advance_lookup]
  | consume o =>
    rw [Job.advance_consume]
    split <;> rfl
  | hold o a q =>
    rw [Job.advance_hold]
    split
    · rfl
    · rfl
    · split <;> rfl
  | settle o remaining =>
    rw [Job.advance_settle]
    split
    · rfl
    · split
      · rfl
      · rfl
      · split <;> rfl
  | tell o remaining =>
    rw [Job.advance_tell]
    split <;> rfl
  | announce o current remaining => rw [Job.advance_announce]
  | record o remaining =>
    rw [Job.advance_record]
    split <;> rfl

theorem bus_run (s : FinalizeStage) (p : Pipeline) : (runIn s.run ctx p).2.bus = p.bus := by
  rw [FinalizeStage.run, runIn_bind]
  have hstep : (runIn s.advance ctx p).2.bus = p.bus := bus_advance s
  rcases hadv : runIn s.advance ctx p with ⟨_ | (_ | ⟨t, lower⟩), q⟩ <;> rw [hadv] at hstep
  · exact hstep
  · exact hstep
  · exact (bus_run t q).trans hstep
-- the stages of a run, as the run itself, go down in rank
termination_by s.rank
decreasing_by exact lower

end FinalizeStage

namespace Pipeline

variable {ctx : Context} {p : Pipeline}

theorem bus_finalize (m : Message) : (runIn (finalize m) ctx p).2.bus = p.bus := by
  rw [finalize, runIn_bind, runIn_lift]
  cases decodeCreated m with
  | error e => rfl
  | ok event => exact FinalizeStage.bus_run _ p

theorem bus_handle (m : Message) : (effectIn (handle m) ctx p).2.bus = p.bus := by
  rw [handle, effectIn_bind, effectIn_run]
  have hbus : (runIn (finalize m) ctx p).2.bus = p.bus := bus_finalize m
  rcases hfin : runIn (finalize m) ctx p with ⟨_ | _, q⟩ <;> rw [hfin] at hbus <;> exact hbus

end Pipeline

/-! ### The tries of a retry policy -/

namespace RetryPolicy

open Pipeline

def tryFromLogged {m : Type → Type} [Monad m] {ε α : Type} (op : Nat → m (Except ε α)) (attempt : Nat) :
    Nat → m (Except ε α × List Bool)
  | 0 => do
    let r ← op attempt
    return (r, [r.toBool])
  | more + 1 => do
    match ← op attempt with
    | .ok v => return (.ok v, [true])
    | .error _ =>
      let (r, tries) ← tryFromLogged op (attempt + 1) more
      return (r, false :: tries)

def runLogged {m : Type → Type} [Monad m] {ε α : Type} (p : RetryPolicy) (op : Nat → m (Except ε α)) :
    m (Except ε α × List Bool) :=
  tryFromLogged op 1 (p.maxAttempts - 1)

/-- The outcomes of at most `n + 1` tries that stop at the first success: all failed, or some
failed and then one succeeded. -/
def Tried (n : Nat) (tries : List Bool) : Prop :=
  tries = List.replicate (n + 1) false ∨ ∃ i ≤ n, tries = List.replicate i false ++ [true]

theorem Tried.cons_false {n : Nat} {tries : List Bool} (h : Tried n tries) : Tried (n + 1) (false :: tries) := by
  rcases h with rfl | ⟨i, hi, rfl⟩
  · exact .inl rfl
  · exact .inr ⟨i + 1, by omega, rfl⟩

theorem Tried.eq_of_not_mem {n : Nat} {tries : List Bool} (h : Tried n tries) (hno : true ∉ tries) :
    tries = List.replicate (n + 1) false := by
  rcases h with h | ⟨i, -, rfl⟩
  · exact h
  · simp at hno

theorem Tried.eq_of_mem {n : Nat} {tries : List Bool} (h : Tried n tries) (hyes : true ∈ tries) :
    ∃ i ≤ n, tries = List.replicate i false ++ [true] := by
  rcases h with rfl | h
  · simp at hyes
  · exact h

variable {ε α : Type}

theorem tryFromLogged_spec (ctx : Context) (op : Nat → Effect (Except ε α)) (n : Nat) :
    ∀ attempt p, ∃ r tries q, effectIn (tryFromLogged op attempt n) ctx p = ((r, tries), q) ∧
      effectIn (tryFrom op attempt n) ctx p = (r, q) ∧ Tried n tries ∧ (r.toBool = true ↔ true ∈ tries) := by
  induction n with
  | zero =>
    intro attempt p
    refine ⟨(effectIn (op attempt) ctx p).1, [(effectIn (op attempt) ctx p).1.toBool],
      (effectIn (op attempt) ctx p).2, rfl, rfl, ?_, by simp⟩
    cases (effectIn (op attempt) ctx p).1.toBool
    · exact .inl rfl
    · exact .inr ⟨0, Nat.le_refl 0, rfl⟩
  | succ n ih =>
    intro attempt p
    rcases hop : effectIn (op attempt) ctx p with ⟨_ | v, q⟩
    · obtain ⟨r, tries, q', hlog, hrun, htried, hok⟩ := ih (attempt + 1) q
      refine ⟨r, false :: tries, q', ?_, ?_, htried.cons_false, by simpa using hok⟩
      · simp only [tryFromLogged, effectIn_bind, hop, hlog]
        rfl
      · simp only [tryFrom, effectIn_bind, hop]
        exact hrun
    · refine ⟨.ok v, [true], q, ?_, ?_, .inr ⟨0, Nat.zero_le _, rfl⟩, by simp [Except.toBool]⟩
      · simp only [tryFromLogged, effectIn_bind, hop]
        rfl
      · simp only [tryFrom, effectIn_bind, hop]
        rfl

theorem bus_tryFromLogged (ctx : Context) (op : Nat → Effect (Except ε α))
    (hop : ∀ k p, (effectIn (op k) ctx p).2.bus = p.bus) (n : Nat) :
    ∀ attempt p, (effectIn (tryFromLogged op attempt n) ctx p).2.bus = p.bus := by
  induction n with
  | zero => exact hop
  | succ n ih =>
    intro attempt p
    have hfirst := hop attempt p
    rcases hres : effectIn (op attempt) ctx p with ⟨_ | v, q⟩ <;> rw [hres] at hfirst
    · simp only [tryFromLogged, effectIn_bind, hres]
      exact (ih (attempt + 1) q).trans hfirst
    · simp only [tryFromLogged, effectIn_bind, hres]
      exact hfirst

end RetryPolicy

/-! ### Serving one subscription -/

/-- A subscription's inbox with limit `d`, served one message at a time from the waiting messages
`W` to `W'`, with the dead letters `N` added; each message taken comes with whether it was
handled. A handled message leaves; one that was not is delivered again at the back, or
dead-lettered once it has been delivered `d` times. -/
inductive Serves (d : Nat) : List Message → List (Message × Bool) → List Message → List Message → Prop
  | stop {W : List Message} : Serves d W [] W []
  | handled {m : Message} {W T W' N} : Serves d W T W' N → Serves d (m :: W) ((m, true) :: T) W' N
  | again {m : Message} {W T W' N} : m.attempt < d → Serves d (W ++ [m.redelivered]) T W' N →
      Serves d (m :: W) ((m, false) :: T) W' N
  | dead {m : Message} {W T W' N} : d ≤ m.attempt → Serves d W T W' N →
      Serves d (m :: W) ((m, false) :: T) W' (m :: N)

namespace Message

variable {x : Message} {d : Nat}

theorem attempt_redelivered (h : x.attempt + 1 ≤ attemptMax) : x.redelivered.attempt = x.attempt + 1 := by
  simp only [redelivered]
  omega

theorem redeliveredTimes_eq {n : Nat} (h : x.attempt + n ≤ attemptMax) :
    x.redeliveredTimes n = { x with attempt := x.attempt + n } := by
  simp [redeliveredTimes, h]

theorem redeliveredTimes_redelivered (n : Nat) : x.redelivered.redeliveredTimes n = x.redeliveredTimes (n + 1) := by
  simp only [redelivered, redeliveredTimes, Message.mk.injEq, and_true, true_and]
  omega

end Message

/-- The deliveries a subscription with limit `d` still owes the waiting messages `W`, at most. -/
def owed (d : Nat) : List Message → Nat
  | [] => 0
  | m :: W => d + 1 - m.attempt + owed d W

theorem owed_append (d : Nat) (W V : List Message) : owed d (W ++ V) = owed d W + owed d V := by
  induction W with
  | nil => simp [owed]
  | cons m W ih =>
    simp only [List.cons_append, owed, ih]
    omega

theorem owed_of_first {d : Nat} {W : List Message} (h : ∀ m ∈ W, m.attempt = 1) : owed d W = W.length * d := by
  induction W with
  | nil => simp [owed]
  | cons m W ih =>
    rw [owed, h m (.head _), ih fun m' hm' => h m' (.tail _ hm'), List.length_cons, Nat.succ_mul]
    omega

def failedDeliveries (x : Message) (k : Nat) : List (Message × Bool) :=
  (List.range k).map fun n => (x.redeliveredTimes n, false)

theorem failedDeliveries_succ {x : Message} (hx : x.attempt ≤ attemptMax) (k : Nat) :
    failedDeliveries x (k + 1) = (x, false) :: failedDeliveries x.redelivered k := by
  simp only [failedDeliveries, List.range_succ_eq_map, List.map_cons, List.map_map,
    Message.redeliveredTimes_zero hx, Function.comp_def, Message.redeliveredTimes_redelivered]

/-- What became of a message `x` in a subscription with limit `d`: its deliveries in order, each
with whether it was handled; its copies still waiting; its dead letters. It waits after `k`
failed deliveries, was handled on delivery `k + 1`, or failed every delivery it had and was
dead-lettered at the last. -/
inductive Fate (d : Nat) (x : Message) : List (Message × Bool) → List Message → List Message → Prop
  | waiting (k : Nat) : x.attempt + k ≤ d → Fate d x (failedDeliveries x k) [x.redeliveredTimes k] []
  | handled (k : Nat) : x.attempt + k ≤ d →
      Fate d x (failedDeliveries x k ++ [(x.redeliveredTimes k, true)]) [] []
  | deadLettered : x.attempt ≤ d →
      Fate d x (failedDeliveries x (d + 1 - x.attempt)) [] [x.redeliveredTimes (d - x.attempt)]

theorem Fate.redelivered {d : Nat} {x : Message} {mine : List (Message × Bool)} {W N : List Message}
    (hx : x.attempt < d) (hcap : d ≤ attemptMax) (h : Fate d x.redelivered mine W N) :
    Fate d x ((x, false) :: mine) W N := by
  have hatt := Message.attempt_redelivered (x := x) (by omega)
  have hfirst := failedDeliveries_succ (x := x) (by omega)
  cases h with
  | waiting k hk =>
    rw [← hfirst, Message.redeliveredTimes_redelivered]
    exact .waiting (k + 1) (by omega)
  | handled k hk =>
    rw [← List.cons_append, ← hfirst, Message.redeliveredTimes_redelivered]
    exact .handled (k + 1) (by omega)
  | deadLettered hle =>
    rw [← hfirst, Message.redeliveredTimes_redelivered, hatt,
      show d + 1 - (x.attempt + 1) + 1 = d + 1 - x.attempt by omega,
      show d - (x.attempt + 1) + 1 = d - x.attempt by omega]
    exact .deadLettered (by omega)

theorem filter_id_eq_singleton {W : List Message} {x : Message} (hnd : (W.map (·.id)).Nodup) (hx : x ∈ W) :
    W.filter (·.id = x.id) = [x] := by
  induction W with
  | nil => nomatch hx
  | cons m W ih =>
    rw [List.map_cons, List.nodup_cons] at hnd
    rcases List.mem_cons.1 hx with rfl | hx
    · have hnone : W.filter (·.id = x.id) = [] :=
        List.filter_eq_nil_iff.2 fun m hm hid => hnd.1 (by simpa [← of_decide_eq_true hid] using List.mem_map_of_mem (f := (·.id)) hm)
      simp [hnone]
    · have hne : m.id ≠ x.id := fun h => hnd.1 (h ▸ List.mem_map_of_mem hx)
      simp [hne, ih hnd.2 hx]

namespace Serves

variable {d : Nat} {W W' N : List Message} {T : List (Message × Bool)}

theorem length_le (h : Serves d W T W' N) (hcap : d ≤ attemptMax) :
    (∀ m ∈ W, m.attempt ≤ d) → T.length + owed d W' ≤ owed d W := by
  induction h with
  | stop => simp
  | @handled m W T W' N _ ih =>
    intro hle
    have hrest := ih fun m' hm' => hle m' (.tail _ hm')
    have hm := hle m (.head _)
    simp only [List.length_cons, owed]
    omega
  | @again m W T W' N hlt _ ih =>
    intro hle
    have hatt := Message.attempt_redelivered (x := m) (by omega)
    have hrest := ih fun m' hm' => by
      rcases List.mem_append.1 hm' with hm' | hm'
      · exact hle m' (.tail _ hm')
      · rw [List.mem_singleton.1 hm', hatt]
        omega
    rw [owed_append] at hrest
    simp only [List.length_cons, owed, hatt] at hrest ⊢
    omega
  | @dead m W T W' N _ _ ih =>
    intro hle
    have hrest := ih fun m' hm' => hle m' (.tail _ hm')
    have hm := hle m (.head _)
    simp only [List.length_cons, owed]
    omega

theorem absent (h : Serves d W T W' N) {i : Uuid} :
    i ∉ W.map (·.id) → T.filter (·.1.id = i) = [] ∧ W'.filter (·.id = i) = [] ∧ N.filter (·.id = i) = [] := by
  induction h with
  | @stop W =>
    intro hi
    refine ⟨rfl, List.filter_eq_nil_iff.2 fun m hm hid => hi ?_, rfl⟩
    rw [← of_decide_eq_true hid]
    exact List.mem_map_of_mem hm
  | @handled m W T W' N _ ih =>
    intro hi
    have hne : m.id ≠ i := fun h => hi (h ▸ List.mem_map_of_mem (.head _))
    obtain ⟨hT, hW, hN⟩ := ih fun h => hi (List.mem_cons_of_mem _ h)
    exact ⟨by simp [hne, hT], hW, hN⟩
  | @again m W T W' N _ _ ih =>
    intro hi
    have hne : m.id ≠ i := fun h => hi (h ▸ List.mem_map_of_mem (.head _))
    have hiW : i ∉ W.map (·.id) := fun h => hi (List.mem_cons_of_mem _ h)
    obtain ⟨hT, hW, hN⟩ := ih (by
      rw [List.map_append, List.mem_append, not_or]
      exact ⟨hiW, by simpa using Ne.symm hne⟩)
    exact ⟨by simp [hne, hT], hW, hN⟩
  | @dead m W T W' N _ _ ih =>
    intro hi
    have hne : m.id ≠ i := fun h => hi (h ▸ List.mem_map_of_mem (.head _))
    obtain ⟨hT, hW, hN⟩ := ih fun h => hi (List.mem_cons_of_mem _ h)
    exact ⟨by simp [hne, hT], hW, by simp [hne, hN]⟩

theorem fate (h : Serves d W T W' N) (hcap : d ≤ attemptMax) :
    ∀ x ∈ W, (∀ m ∈ W, m.attempt ≤ d) → (W.map (·.id)).Nodup →
      Fate d x (T.filter (·.1.id = x.id)) (W'.filter (·.id = x.id)) (N.filter (·.id = x.id)) := by
  induction h with
  | @stop W =>
    intro x hx hle hnd
    have hw := Fate.waiting (d := d) (x := x) 0 (by simpa using hle x hx)
    rw [Message.redeliveredTimes_zero (Nat.le_trans (hle x hx) hcap)] at hw
    rw [filter_id_eq_singleton hnd hx]
    exact hw
  | @handled m W T W' N hrest ih =>
    intro x hx hle hnd
    rw [List.map_cons, List.nodup_cons] at hnd
    by_cases hmx : m.id = x.id
    · -- the message at the front is `x`, handled on this delivery
      have hxm : x = m := by
        rcases List.mem_cons.1 hx with h | h
        · exact h
        · exact absurd (hmx ▸ List.mem_map_of_mem h) hnd.1
      subst hxm
      obtain ⟨hT, hW, hN⟩ := hrest.absent hnd.1
      have hh := Fate.handled (d := d) (x := x) 0 (by simpa using hle x (.head _))
      rw [Message.redeliveredTimes_zero (Nat.le_trans (hle x (.head _)) hcap)] at hh
      simpa [hT, hW, hN, failedDeliveries] using hh
    · have hxW : x ∈ W := (List.mem_cons.1 hx).resolve_left fun h => hmx (h ▸ rfl)
      simpa [hmx] using ih x hxW (fun m' hm' => hle m' (.tail _ hm')) hnd.2
  | @again m W T W' N hlt hrest ih =>
    intro x hx hle hnd
    rw [List.map_cons, List.nodup_cons] at hnd
    -- the waiting messages after the give back: distinct identities, attempts within the limit
    have hle' : ∀ m' ∈ W ++ [m.redelivered], m'.attempt ≤ d := by
      intro m' hm'
      rcases List.mem_append.1 hm' with hm' | hm'
      · exact hle m' (.tail _ hm')
      · rw [List.mem_singleton.1 hm', Message.attempt_redelivered (by omega)]
        omega
    have hnd' : ((W ++ [m.redelivered]).map (·.id)).Nodup := by
      rw [List.map_append, List.nodup_append]
      refine ⟨hnd.2, by simp, fun a ha b hb hab => hnd.1 ?_⟩
      rw [List.map_cons, List.map_nil, List.mem_singleton, Message.id_redelivered] at hb
      rw [← hb, ← hab]
      exact ha
    by_cases hmx : m.id = x.id
    · have hxm : x = m := by
        rcases List.mem_cons.1 hx with h | h
        · exact h
        · exact absurd (hmx ▸ List.mem_map_of_mem h) hnd.1
      subst hxm
      have hf := ih x.redelivered (by simp) hle' hnd'
      rw [Message.id_redelivered] at hf
      simpa using hf.redelivered hlt hcap
    · have hxW : x ∈ W := (List.mem_cons.1 hx).resolve_left fun h => hmx (h ▸ rfl)
      simpa [hmx] using ih x (List.mem_append_left _ hxW) hle' hnd'
  | @dead m W T W' N hd hrest ih =>
    intro x hx hle hnd
    rw [List.map_cons, List.nodup_cons] at hnd
    by_cases hmx : m.id = x.id
    · -- the message at the front is `x`, dead-lettered on this delivery
      have hxm : x = m := by
        rcases List.mem_cons.1 hx with h | h
        · exact h
        · exact absurd (hmx ▸ List.mem_map_of_mem h) hnd.1
      subst hxm
      obtain ⟨hT, hW, hN⟩ := hrest.absent hnd.1
      have hxd : x.attempt = d := Nat.le_antisymm (hle x (.head _)) hd
      have hdl := Fate.deadLettered (d := d) (x := x) (by omega)
      rw [hxd, Nat.sub_self, Nat.add_sub_cancel_left, failedDeliveries_succ (by omega),
        Message.redeliveredTimes_zero (by omega)] at hdl
      simpa [hT, hW, hN, failedDeliveries] using hdl
    · have hxW : x ∈ W := (List.mem_cons.1 hx).resolve_left fun h => hmx (h ▸ rfl)
      simpa [hmx] using ih x hxW (fun m' hm' => hle m' (.tail _ hm')) hnd.2

end Serves

namespace EventBus

variable {b : EventBus} {j : Nat} {ib : Inbox}

theorem take_of_nil (hj : b.inboxes[j]? = some ib) (hw : ib.waiting = []) : b.take j = (b, none) := by
  obtain ⟨topic, d, waiting⟩ := ib
  subst hw
  simp [take, hj]

theorem serve_one {m : Message} {rest : List Message} (hj : b.inboxes[j]? = some ib)
    (hw : ib.waiting = m :: rest) (ok : Bool) :
    ∃ W N, (if ok then (b.take j).1 else (b.take j).1.giveBack j m).inboxes[j]? = some { ib with waiting := W } ∧
      (if ok then (b.take j).1 else (b.take j).1.giveBack j m).dead = b.dead ++ N ∧
      ∀ T W' N', Serves ib.maxDeliveries W T W' N' → Serves ib.maxDeliveries ib.waiting ((m, ok) :: T) W' (N ++ N') := by
  have hlt : j < b.inboxes.length := (List.getElem?_eq_some_iff.1 hj).1
  have htaken : (b.inboxes.set j { ib with waiting := rest })[j]? = some { ib with waiting := rest } := by
    simp [hlt]
  rw [take_of_cons hj hw, hw]
  dsimp only
  cases ok with
  | true => exact ⟨rest, [], htaken, by simp, fun _ _ _ h => .handled h⟩
  | false =>
    by_cases hd : ib.maxDeliveries ≤ m.attempt
    · rw [if_neg Bool.false_ne_true,
        giveBack_of_le htaken (show ({ ib with waiting := rest } : Inbox).maxDeliveries ≤ m.attempt from hd)]
      exact ⟨rest, [m], htaken, rfl, fun _ _ _ h => .dead hd h⟩
    · rw [if_neg Bool.false_ne_true, giveBack_of_lt htaken
        (show m.attempt < ({ ib with waiting := rest } : Inbox).maxDeliveries from Nat.lt_of_not_le hd)]
      exact ⟨rest ++ [m.redelivered], [], by simp [hlt], by simp, fun _ _ _ h => .again (Nat.lt_of_not_le hd) h⟩

end EventBus

namespace Pipeline

open RetryPolicy

/-- `finalizeLoop`, also returning each message it took with the outcome of each call of `handle`
on it, in order. -/
def finalizeLogged (inbox : Nat) (policy : RetryPolicy) :
    Nat → WorkerStats → Effect (WorkerStats × List (Message × List Bool))
  | 0, stats => return (stats, [])
  | fuel + 1, stats => do
    let p ← get
    let (bus, next) := p.bus.take inbox
    set { p with bus }
    match next with
    | none => return (stats, [])
    | some m =>
      let (r, tries) ← policy.runLogged fun _ => handle m
      let ok := r matches .ok _
      if !ok then modify fun p => { p with bus := p.bus.giveBack inbox m }
      let (stats, handled) ← finalizeLogged inbox policy fuel (stats.record ok)
      return (stats, (m, tries) :: handled)

variable {ctx : Context} {inbox : Nat} {policy : RetryPolicy}

theorem finalizeLogged_succ (fuel : Nat) (stats : WorkerStats) (p : Pipeline) :
    effectIn (finalizeLogged inbox policy (fuel + 1) stats) ctx p =
      match p.bus.take inbox with
      | (bus, none) => ((stats, []), { p with bus })
      | (bus, some m) =>
        let t := effectIn (policy.runLogged fun _ => handle m) ctx { p with bus }
        let q := if t.1.1.toBool then t.2 else { t.2 with bus := t.2.bus.giveBack inbox m }
        let rest := effectIn (finalizeLogged inbox policy fuel (stats.record t.1.1.toBool)) ctx q
        ((rest.1.1, (m, t.1.2) :: rest.1.2), rest.2) := by
  simp only [finalizeLogged, effectIn_bind, effectIn_get, effectIn_set]
  rcases p.bus.take inbox with ⟨bus, _ | m⟩
  · rfl
  · dsimp only
    rw [effectIn_bind]
    rcases effectIn (policy.runLogged fun _ => handle m) ctx { p with bus } with ⟨⟨_ | _, tries⟩, q⟩ <;> rfl

theorem finalizeLoop_succ (fuel : Nat) (stats : WorkerStats) (p : Pipeline) :
    effectIn (finalizeLoop inbox policy (fuel + 1) stats) ctx p =
      match p.bus.take inbox with
      | (bus, none) => (stats, { p with bus })
      | (bus, some m) =>
        let t := effectIn (handleWithRetry policy m) ctx { p with bus }
        let q := if t.1.toBool then t.2 else { t.2 with bus := t.2.bus.giveBack inbox m }
        effectIn (finalizeLoop inbox policy fuel (stats.record t.1.toBool)) ctx q := by
  simp only [finalizeLoop, effectIn_bind, effectIn_get, effectIn_set]
  rcases p.bus.take inbox with ⟨bus, _ | m⟩
  · rfl
  · dsimp only
    rw [effectIn_bind]
    rcases effectIn (handleWithRetry policy m) ctx { p with bus } with ⟨_ | _, q⟩ <;> rfl

theorem runLogged_handle (ctx : Context) (policy : RetryPolicy) (m : Message) (p : Pipeline) :
    ∃ r tries q, effectIn (policy.runLogged fun _ => handle m) ctx p = ((r, tries), q) ∧
      effectIn (handleWithRetry policy m) ctx p = (r, q) ∧ Tried (policy.maxAttempts - 1) tries ∧
      (r.toBool = true ↔ true ∈ tries) ∧ q.bus = p.bus := by
  obtain ⟨r, tries, q, hlog, hrun, htried, hok⟩ :=
    tryFromLogged_spec ctx (fun _ => handle m) (policy.maxAttempts - 1) 1 p
  have hbus := bus_tryFromLogged ctx (fun _ => handle m) (fun _ p => bus_handle m) (policy.maxAttempts - 1) 1 p
  rw [hlog] at hbus
  exact ⟨r, tries, q, hlog, hrun, htried, hok, hbus⟩

/-- The worker run with a log runs as the worker does; it counts as failed the messages whose
tries all failed, makes at most `policy.maxAttempts` tries of each, and serves its subscription
as `Serves` says, until the subscription is empty or the fuel is used up. -/
theorem finalizeLogged_spec (ctx : Context) (inbox : Nat) (policy : RetryPolicy) (fuel : Nat) :
    ∀ (stats : WorkerStats) (p : Pipeline) (ib : Inbox), p.bus.inboxes[inbox]? = some ib →
      ∃ stats' log q, effectIn (finalizeLogged inbox policy fuel stats) ctx p = ((stats', log), q) ∧
        effectIn (finalizeLoop inbox policy fuel stats) ctx p = (stats', q) ∧
        stats'.failed = stats.failed + (log.filter fun e => true ∉ e.2).length ∧
        (∀ e ∈ log, Tried (policy.maxAttempts - 1) e.2) ∧
        ∃ W N, q.bus.inboxes[inbox]? = some { ib with waiting := W } ∧ q.bus.dead = p.bus.dead ++ N ∧
          Serves ib.maxDeliveries ib.waiting (log.map fun e => (e.1, decide (true ∈ e.2))) W N ∧
          (W = [] ∨ log.length = fuel) := by
  induction fuel with
  | zero =>
    intro stats p ib hib
    exact ⟨stats, [], p, rfl, rfl, by simp, by simp, ib.waiting, [], by simp [hib], by simp, .stop, .inr rfl⟩
  | succ fuel ih =>
    intro stats p ib hib
    rw [finalizeLogged_succ, finalizeLoop_succ]
    cases hw : ib.waiting with
    | nil =>
      rw [EventBus.take_of_nil hib hw]
      refine ⟨stats, [], p, rfl, rfl, by simp, by simp, [], [], ?_, by simp, .stop, .inl rfl⟩
      rw [← hw]
      exact hib
    | cons m rest =>
      rcases htake : p.bus.take inbox with ⟨b₁, _ | m'⟩
      · rw [EventBus.take_of_cons hib hw] at htake
        cases htake
      have hm : m' = m := by
        rw [EventBus.take_of_cons hib hw] at htake
        cases htake
        rfl
      subst hm
      dsimp only
      obtain ⟨r, tries, q₁, hlog, hrun, htried, hok, hbus₁⟩ := runLogged_handle ctx policy m' { p with bus := b₁ }
      rw [hlog, hrun]
      dsimp only
      have hok' : decide (true ∈ tries) = r.toBool := by
        cases hr : r.toBool <;> simp_all
      generalize hq₂ : (if r.toBool = true then q₁ else { q₁ with bus := q₁.bus.giveBack inbox m' }) = q₂
      have hbus₂ : q₂.bus = if r.toBool then (p.bus.take inbox).1 else (p.bus.take inbox).1.giveBack inbox m' := by
        rw [htake, ← hq₂]
        split <;> simp [hbus₁]
      obtain ⟨W₂, N₂, hinbox, hdead, hserve⟩ := EventBus.serve_one hib hw r.toBool
      rw [← hbus₂] at hinbox hdead
      obtain ⟨stats', log, q, hlog', hrun', hfailed, htries, W, N, hinbox', hdead', hserves, hlen⟩ :=
        ih (stats.record r.toBool) q₂ { ib with waiting := W₂ } hinbox
      refine ⟨stats', (m', tries) :: log, q, by rw [hlog'], hrun', ?_, ?_, W, N₂ ++ N, hinbox', ?_, ?_, ?_⟩
      · -- the delivery counts as failed exactly when none of its tries succeeded
        rw [hfailed, List.filter_cons]
        cases hr : r.toBool
        · have hno : true ∉ tries := fun h => by simp [hok.2 h] at hr
          simp only [WorkerStats.record, hno, Bool.false_eq_true, if_false, not_false_eq_true, decide_true,
            if_true, List.length_cons]
          omega
        · simp [WorkerStats.record, hok.1 hr]
      · intro e he
        rcases List.mem_cons.1 he with rfl | he
        · exact htried
        · exact htries e he
      · rw [hdead', hdead, List.append_assoc]
      · rw [List.map_cons, hok', ← hw]
        exact hserve _ _ _ hserves
      · rcases hlen with hW | hlen
        · exact .inl hW
        · exact .inr (by simp [hlen])

end Pipeline

/-! ### Each message, by its calls of `handle` -/

/-- What the finalization worker did with a message `x` handled under `r` tries through a
subscription with limit `d`: its deliveries, each with the outcome of each call of `handle` on it,
and its dead letters. Either every call failed: `r * d` calls, `d` failed deliveries and one dead
letter, at attempt `d`; or the `j`-th call was the first to succeed, on delivery
`(j + r - 1) / r`, and the message was not dead-lettered. -/
def RetriedWithin (r d : Nat) (x : Message) (mine : List (Message × List Bool)) (dead : List Message) : Prop :=
  (mine.flatMap (·.2) = List.replicate (r * d) false ∧ (mine.filter fun e => true ∉ e.2).length = d ∧
      dead = [{ x with attempt := d }]) ∨
    ∃ j, 1 ≤ j ∧ j ≤ r * d ∧ mine.flatMap (·.2) = List.replicate (j - 1) false ++ [true] ∧
      mine.getLast?.map (·.1.attempt) = some ((j + r - 1) / r) ∧ dead = []

section Handlings

open RetryPolicy

variable {n k : Nat} {x : Message} {L : List (Message × List Bool)}

theorem failed_of_map (h : L.map (fun e => (e.1, decide (true ∈ e.2))) = failedDeliveries x k) :
    (∀ e ∈ L, true ∉ e.2) ∧ L.length = k := by
  refine ⟨fun e he hyes => ?_, by simpa [failedDeliveries] using congrArg List.length h⟩
  have hmem : (e.1, decide (true ∈ e.2)) ∈ failedDeliveries x k := h ▸ List.mem_map_of_mem he
  obtain ⟨i, -, hi⟩ := List.mem_map.1 hmem
  simp [hyes] at hi

theorem flatMap_of_failed (hT : ∀ e ∈ L, Tried n e.2) (hf : ∀ e ∈ L, true ∉ e.2) :
    L.flatMap (·.2) = List.replicate (L.length * (n + 1)) false := by
  induction L with
  | nil => simp
  | cons e L ih =>
    rw [List.flatMap_cons, (hT e (.head _)).eq_of_not_mem (hf e (.head _)),
      ih (fun e' he' => hT e' (.tail _ he')) (fun e' he' => hf e' (.tail _ he')),
      List.replicate_append_replicate, List.length_cons, Nat.succ_mul, Nat.add_comm (L.length * (n + 1))]

theorem flatMap_of_failed_then_handled {e : Message × List Bool} (hT : ∀ e' ∈ L ++ [e], Tried n e'.2)
    (hf : ∀ e ∈ L, true ∉ e.2) (he : true ∈ e.2) :
    ∃ i ≤ n, (L ++ [e]).flatMap (·.2) = List.replicate (L.length * (n + 1) + i) false ++ [true] := by
  obtain ⟨i, hi, heq⟩ := (hT e (by simp)).eq_of_mem he
  refine ⟨i, hi, ?_⟩
  rw [List.flatMap_append, flatMap_of_failed (fun e' he' => hT e' (List.mem_append_left _ he')) hf,
    List.flatMap_singleton, heq, ← List.append_assoc, List.replicate_append_replicate]

theorem retriedWithin_of_fate {r d : Nat} {mine : List (Message × List Bool)} {dead : List Message}
    (hr : 1 ≤ r) (hd : 1 ≤ d) (hcap : d ≤ attemptMax) (hx : x.attempt = 1)
    (hT : ∀ e ∈ mine, Tried (r - 1) e.2)
    (hf : Fate d x (mine.map fun e => (e.1, decide (true ∈ e.2))) [] dead) :
    RetriedWithin r d x mine dead := by
  have hr' : r - 1 + 1 = r := by omega
  generalize hmine : mine.map (fun e => (e.1, decide (true ∈ e.2))) = outcomes at hf
  generalize hw : ([] : List Message) = waiting at hf
  cases hf with
  | waiting k hk => simp at hw
  | handled k hk =>
    -- the deliveries before the last all failed, and the last succeeded
    obtain ⟨L, last, rfl, hL, hlast⟩ := List.map_eq_append_iff.1 hmine
    obtain ⟨e, rfl, he⟩ := List.map_eq_singleton_iff.1 hlast
    obtain ⟨hfail, hlen⟩ := failed_of_map hL
    have hyes : true ∈ e.2 := by simpa using congrArg Prod.snd he
    have hcopy : e.1 = x.redeliveredTimes k := congrArg Prod.fst he
    obtain ⟨i, hi, hcalls⟩ := flatMap_of_failed_then_handled hT hfail hyes
    rw [hr', hlen] at hcalls
    have hbound : (k + 1) * r ≤ d * r := Nat.mul_le_mul_right r (by omega)
    rw [Nat.succ_mul] at hbound
    refine .inr ⟨k * r + i + 1, by omega, by rw [Nat.mul_comm r d]; omega, by simpa using hcalls, ?_, rfl⟩
    rw [List.getLast?_concat, Option.map_some, hcopy, Message.attempt_redeliveredTimes (by omega), hx]
    -- the success came on delivery `k + 1`
    rw [show k * r + i + 1 + r - 1 = i + (k + 1) * r by rw [Nat.succ_mul]; omega,
      Nat.add_mul_div_right _ _ (by omega), Nat.div_eq_of_lt (by omega), Nat.zero_add, Nat.add_comm]
  | deadLettered hle =>
    obtain ⟨hfail, hlen⟩ := failed_of_map hmine
    refine .inl ⟨?_, ?_, ?_⟩
    · rw [flatMap_of_failed hT hfail, hlen, hx, hr', Nat.add_sub_cancel, Nat.mul_comm]
    · rw [List.filter_eq_self.2 fun e he => by simpa using hfail e he, hlen, hx, Nat.add_sub_cancel]
    · rw [Message.redeliveredTimes_eq (by omega), hx, Nat.add_sub_cancel' hd]

end Handlings

open Pipeline RetryPolicy in
/-- The finalization worker, started on a subscription with limit `max m 1` whose waiting messages
have distinct identities and are on their first attempt, and run long enough to deliver each of
them as often as the limit allows, handles each message under the policy's tries as
`RetriedWithin` says: every call of `handle` on it fails `maxAttempts * max m 1` times and the
message is counted as failed `max m 1` times and dead-lettered once at attempt `max m 1`, or the
`j`-th call is the first to succeed and the message is left on delivery
`(j + maxAttempts - 1) / maxAttempts`, never dead-lettered. The worker counts the failed
deliveries of all messages. -/
theorem retries_within_redeliveries (m : UInt32) (policy : RetryPolicy) (inbox fuel : Nat) (stats : WorkerStats)
    (ctx : Context) (p : Pipeline) (ib : Inbox) (hib : p.bus.inboxes[inbox]? = some ib)
    (hlimit : ib.maxDeliveries = max m.toNat 1) (hids : (ib.waiting.map (·.id)).Nodup)
    (hfirst : ∀ x ∈ ib.waiting, x.attempt = 1) (hfuel : ib.waiting.length * max m.toNat 1 < fuel) :
    ∃ stats' log q, effectIn (finalizeLogged inbox policy fuel stats) ctx p = ((stats', log), q) ∧
      effectIn (finalizeLoop inbox policy fuel stats) ctx p = (stats', q) ∧
      stats'.failed = stats.failed + (log.filter fun e => true ∉ e.2).length ∧
      ∃ N, q.bus.dead = p.bus.dead ++ N ∧ ∀ x ∈ ib.waiting,
        RetriedWithin policy.maxAttempts (max m.toNat 1) x (log.filter (·.1.id = x.id)) (N.filter (·.id = x.id)) := by
  obtain ⟨stats', log, q, hlog, hrun, hfailed, htried, W, N, -, hdead, hserves, hlen⟩ :=
    finalizeLogged_spec ctx inbox policy fuel stats p ib hib
  rw [hlimit] at hserves
  have hcap : max m.toNat 1 ≤ attemptMax := by
    have hm := m.toNat_lt_size
    have hsize : UInt32.size = 4294967296 := rfl
    have hmax : attemptMax = 4294967295 := rfl
    omega
  have hle : ∀ x ∈ ib.waiting, x.attempt ≤ max m.toNat 1 := fun x hx => by
    rw [hfirst x hx]
    omega
  -- the fuel outlasts the deliveries owed, so the subscription ends empty
  have hW : W = [] := by
    rcases hlen with hW | hlen
    · exact hW
    · have hbound := hserves.length_le hcap hle
      rw [owed_of_first hfirst, List.length_map, hlen] at hbound
      omega
  refine ⟨stats', log, q, hlog, hrun, hfailed, N, hdead, fun x hx => ?_⟩
  have hfate := hserves.fate hcap x hx hle hids
  rw [hW, List.filter_nil, List.filter_map] at hfate
  exact retriedWithin_of_fate (Nat.le_max_right _ _) (Nat.le_max_right _ _) hcap (hfirst x hx)
    (fun e he => htried e (List.mem_filter.1 he).1) (by simpa [Function.comp_def] using hfate)

open Pipeline in
theorem retries_within_redeliveries_one_message :
    ({ bucket := "orders", deadline := ⟨5000⟩, webhookRetry := ⟨1, 0⟩, objects := .memory {},
        queue := WorkQueue.empty 5,
        bus := { inboxes := [⟨some orderCreatedTopic, 2,
          [Message.fresh default orderCreatedTopic "o-1" [] Instant.epoch]⟩] } } : Pipeline).bus.inboxes[0]? =
        some ⟨some orderCreatedTopic, 2, [Message.fresh default orderCreatedTopic "o-1" [] Instant.epoch]⟩ ∧
      2 = max (2 : UInt32).toNat 1 ∧
      ([Message.fresh default orderCreatedTopic "o-1" [] Instant.epoch].map (·.id)).Nodup ∧
      (∀ x ∈ [Message.fresh default orderCreatedTopic "o-1" [] Instant.epoch], x.attempt = 1) ∧
      [Message.fresh default orderCreatedTopic "o-1" [] Instant.epoch].length * max (2 : UInt32).toNat 1 < 3 ∧
      ∃ stats' log q,
        effectIn (finalizeLogged 0 ⟨3, 0⟩ 3 {}) ⟨Instant.epoch, 0, fun _ => default⟩
            { bucket := "orders", deadline := ⟨5000⟩, webhookRetry := ⟨1, 0⟩, objects := .memory {},
              queue := WorkQueue.empty 5,
              bus := { inboxes := [⟨some orderCreatedTopic, 2,
                [Message.fresh default orderCreatedTopic "o-1" [] Instant.epoch]⟩] } } =
          ((stats', log), q) ∧
        effectIn (finalizeLoop 0 ⟨3, 0⟩ 3 {}) ⟨Instant.epoch, 0, fun _ => default⟩
            { bucket := "orders", deadline := ⟨5000⟩, webhookRetry := ⟨1, 0⟩, objects := .memory {},
              queue := WorkQueue.empty 5,
              bus := { inboxes := [⟨some orderCreatedTopic, 2,
                [Message.fresh default orderCreatedTopic "o-1" [] Instant.epoch]⟩] } } =
          (stats', q) ∧
        stats'.failed = ({} : WorkerStats).failed + (log.filter fun e => true ∉ e.2).length ∧
        ∃ N, q.bus.dead = [] ++ N ∧ ∀ x ∈ [Message.fresh default orderCreatedTopic "o-1" [] Instant.epoch],
          RetriedWithin (⟨3, 0⟩ : RetryPolicy).maxAttempts (max (2 : UInt32).toNat 1) x
            (log.filter (·.1.id = x.id)) (N.filter (·.id = x.id)) := by
  have hfirst : ∀ x ∈ [Message.fresh default orderCreatedTopic "o-1" [] Instant.epoch], x.attempt = 1 := by
    simp [Message.fresh]
  exact ⟨rfl, by decide, by simp, hfirst, by decide,
    retries_within_redeliveries 2 ⟨3, 0⟩ 0 3 {} ⟨Instant.epoch, 0, fun _ => default⟩ _
      ⟨some orderCreatedTopic, 2, [Message.fresh default orderCreatedTopic "o-1" [] Instant.epoch]⟩ rfl (by decide)
      (by simp) hfirst (by decide)⟩

end Fulfilment
