import Fulfilment.Stock.Concurrent
import Fulfilment.Proofs.Ledger

/-!
The accounts of the ledger shared by threads. A returned call changes its key's stock only by its
effect (`LedgerLabel.effect?`), and only while it holds the key's mutex; the upsert that stocks a
new key adds its slot before it takes the mutex, and a call in between finds quantity 0.
-/

namespace Fulfilment

/-- What a returned call did to its key: an upsert set its quantity, a consume that did not
replay took its quantity, with its reference. -/
inductive StockEffect where
  | set (q : Int)
  | take (q : Int) (reference : Option String)
  deriving DecidableEq, Repr

namespace StockEffect

def apply : StockEffect → Int → Int
  | set q, _ => q
  | take q _, a => a - q

def reference? : StockEffect → Option String
  | set _ => none
  | take _ r => r

def taken : StockEffect → Int
  | set _ => 0
  | take q _ => q

end StockEffect

def LedgerLabel.effect? : LedgerLabel → Option (InventoryKey × StockEffect)
  | .reply _ (.upsert k q _) (.ok _) => some (k, .set q)
  | .reply _ (.consume r _) (.ok (.consumed o)) =>
    if o.replayed then none else some (r.key, .take r.quantity r.reference)
  | _ => none

def effectsOf (ls : List LedgerLabel) : List (InventoryKey × StockEffect) :=
  ls.filterMap LedgerLabel.effect?

theorem effectsOf_cons (ℓ : LedgerLabel) (ls : List LedgerLabel) :
    effectsOf (ℓ :: ls) = ℓ.effect?.toList ++ effectsOf ls := by
  cases h : ℓ.effect? <;> simp [effectsOf, h]

/-- The stock the effects leave a key: the quantity of its last set, less what was taken after
it; 0 before any set. -/
def stockAfter (k : InventoryKey) (es : List (InventoryKey × StockEffect)) : Int :=
  es.foldl (fun a e => if e.1 = k then e.2.apply a else a) 0

def refsAfter (k : InventoryKey) (es : List (InventoryKey × StockEffect)) : List String :=
  es.flatMap fun e => if e.1 = k then e.2.reference?.toList else []

theorem stockAfter_append (k : InventoryKey) (es : List (InventoryKey × StockEffect))
    (e : InventoryKey × StockEffect) :
    stockAfter k (es ++ [e]) = if e.1 = k then e.2.apply (stockAfter k es) else stockAfter k es := by
  simp [stockAfter, List.foldl_append]

theorem refsAfter_append (k : InventoryKey) (es : List (InventoryKey × StockEffect))
    (e : InventoryKey × StockEffect) :
    refsAfter k (es ++ [e]) = refsAfter k es ++ if e.1 = k then e.2.reference?.toList else [] := by
  simp [refsAfter]

theorem stockAfter_of_untouched {k : InventoryKey} {es : List (InventoryKey × StockEffect)}
    (untouched : ∀ e ∈ es, e.1 ≠ k) : stockAfter k es = 0 := by
  suffices keeps : ∀ a, es.foldl (fun a e => if e.1 = k then e.2.apply a else a) a = a from keeps 0
  induction es with
  | nil => intro a; rfl
  | cons e es ih =>
    intro a
    rw [List.foldl_cons, if_neg (untouched e List.mem_cons_self)]
    exact ih (fun e' he' => untouched e' (List.mem_cons_of_mem _ he')) a

theorem refsAfter_of_untouched {k : InventoryKey} {es : List (InventoryKey × StockEffect)}
    (untouched : ∀ e ∈ es, e.1 ≠ k) : refsAfter k es = [] := by
  simp only [refsAfter, List.flatMap_eq_nil_iff]
  intro e he
  rw [if_neg (untouched e he)]

def takenAfter (k : InventoryKey) (es : List (InventoryKey × StockEffect)) : Int :=
  es.foldl (fun n e => if e.1 = k then n + e.2.taken else n) 0

theorem foldl_apply_of_takes {k : InventoryKey} {es : List (InventoryKey × StockEffect)}
    (takes : ∀ e ∈ es, e.1 = k → ∀ n, e.2 ≠ .set n) (a : Int) :
    es.foldl (fun a e => if e.1 = k then e.2.apply a else a) a = a - takenAfter k es := by
  -- what the stock loses the tally gains, from any start of both
  suffices balance : ∀ a n, es.foldl (fun a e => if e.1 = k then e.2.apply a else a) a +
      es.foldl (fun n e => if e.1 = k then n + e.2.taken else n) n = a + n by
    have := balance a 0
    rw [takenAfter]
    omega
  induction es with
  | nil => intro a n; rfl
  | cons e es ih =>
    intro a n
    have rest := ih fun e' he' => takes e' (List.mem_cons_of_mem _ he')
    simp only [List.foldl_cons]
    by_cases on : e.1 = k
    · obtain ⟨m, r, take⟩ : ∃ m r, e.2 = .take m r := by
        cases h : e.2 with
        | set n => exact absurd h (takes e List.mem_cons_self on n)
        | take m r => exact ⟨m, r, rfl⟩
      rw [if_pos on, if_pos on, take, rest]
      simp only [StockEffect.apply, StockEffect.taken]
      omega
    · rw [if_neg on, if_neg on, rest]

theorem stockAfter_of_last_set {k : InventoryKey} {q : Int}
    {pre post : List (InventoryKey × StockEffect)}
    (last : ∀ e ∈ post, e.1 = k → ∀ n, e.2 ≠ .set n) :
    stockAfter k (pre ++ (k, .set q) :: post) = q - takenAfter k post := by
  have start : stockAfter k (pre ++ (k, .set q) :: post) =
      post.foldl (fun a e => if e.1 = k then e.2.apply a else a) q := by
    simp only [stockAfter, List.foldl_append, List.foldl_cons, ite_true]
    rfl
  rw [start, foldl_apply_of_takes last]

theorem stockAfter_of_unset {k : InventoryKey} {es : List (InventoryKey × StockEffect)}
    (unset : ∀ e ∈ es, e.1 = k → ∀ n, e.2 ≠ .set n) : stockAfter k es = -takenAfter k es := by
  rw [stockAfter, foldl_apply_of_takes unset]
  omega

theorem takenAfter_nonneg {k : InventoryKey} {es : List (InventoryKey × StockEffect)}
    (takes : ∀ e ∈ es, 0 ≤ e.2.taken) : 0 ≤ takenAfter k es := by
  suffices grows : ∀ n, 0 ≤ n → 0 ≤ es.foldl (fun n e => if e.1 = k then n + e.2.taken else n) n from
    grows 0 le_rfl
  induction es with
  | nil => intro n h; exact h
  | cons e es ih =>
    intro n h
    have rest := ih fun e' he' => takes e' (List.mem_cons_of_mem _ he')
    have first := takes e List.mem_cons_self
    rw [List.foldl_cons]
    split
    · exact rest _ (by omega)
    · exact rest _ h

namespace Ledger

theorem stock?_newSlot {l : Ledger} {k : InventoryKey} (fresh : l.slot? k = none) (id : Uuid)
    (now : Instant) (k' : InventoryKey) :
    (⟨l.slots ++ [LedgerCall.newSlot k id now]⟩ : Ledger).stock? k' =
      if k = k' then some 0 else l.stock? k' := by
  rw [stock?, slot?_append_fresh l (LedgerCall.newSlot k id now) k' fresh]
  by_cases same : k = k'
  · simp [LedgerCall.newSlot, same]
  · simp [LedgerCall.newSlot, same, stock?]

theorem refs_newSlot {l : Ledger} {k : InventoryKey} (fresh : l.slot? k = none) (id : Uuid)
    (now : Instant) (k' : InventoryKey) :
    (⟨l.slots ++ [LedgerCall.newSlot k id now]⟩ : Ledger).refs k' =
      if k = k' then [] else l.refs k' := by
  rw [refs, slot?_append_fresh l (LedgerCall.newSlot k id now) k' fresh]
  by_cases same : k = k'
  · simp [LedgerCall.newSlot, same]
  · simp [LedgerCall.newSlot, same, refs]

/-- The accounts of a ledger against effects: a key never stocked has no effect, a stocked one
holds what its effects leave, never less than 0, and the references they consumed. -/
structure Accounts (l : Ledger) (es : List (InventoryKey × StockEffect)) : Prop where
  untouched : ∀ k, l.stock? k = none → ∀ e ∈ es, e.1 ≠ k
  stock : ∀ k a, l.stock? k = some a → a = stockAfter k es ∧ 0 ≤ a
  refs : ∀ k, l.refs k = refsAfter k es
  takes : ∀ e ∈ es, 0 ≤ e.2.taken

theorem Accounts.empty : Accounts {} [] where
  untouched _ _ _ h := by cases h
  stock _ _ h := by simp [stock?, slot?] at h
  refs _ := rfl
  takes _ h := by cases h

variable {l l' : Ledger} {es : List (InventoryKey × StockEffect)}

theorem Accounts.newSlot (acc : l.Accounts es) {k : InventoryKey} (fresh : l.slot? k = none)
    (id : Uuid) (now : Instant) : (⟨l.slots ++ [LedgerCall.newSlot k id now]⟩ : Ledger).Accounts es := by
  have unstocked : l.stock? k = none := by simp [stock?, fresh]
  have untouched := acc.untouched k unstocked
  refine ⟨fun k' h => ?_, fun k' a h => ?_, fun k' => ?_, acc.takes⟩
  · rw [stock?_newSlot fresh] at h
    split at h
    · cases h
    · exact acc.untouched k' h
  · rw [stock?_newSlot fresh] at h
    split at h
    · rename_i same
      subst same
      cases h
      exact ⟨(stockAfter_of_untouched untouched).symm, le_rfl⟩
    · exact acc.stock k' a h
  · rw [refs_newSlot fresh]
    split
    · rename_i same
      subst same
      exact (refsAfter_of_untouched untouched).symm
    · exact acc.refs k'

theorem Accounts.record (acc : l.Accounts es) {k₀ : InventoryKey} {e : StockEffect}
    (others : ∀ k, k ≠ k₀ → l'.stock? k = l.stock? k ∧ l'.refs k = l.refs k)
    (stocked : ∃ a, l'.stock? k₀ = some a ∧ a = e.apply (stockAfter k₀ es) ∧ 0 ≤ a)
    (refs : l'.refs k₀ = l.refs k₀ ++ e.reference?.toList) (taken : 0 ≤ e.taken) :
    l'.Accounts (es ++ [(k₀, e)]) := by
  obtain ⟨a₀, h₀, balance, nonneg⟩ := stocked
  refine ⟨fun k h e' he' => ?_, fun k a h => ?_, fun k => ?_, fun e' he' => ?_⟩
  · have other : k ≠ k₀ := by rintro rfl; rw [h₀] at h; cases h
    rcases List.mem_append.1 he' with old | new
    · exact acc.untouched k ((others k other).1 ▸ h) e' old
    · rw [List.mem_singleton] at new
      subst new
      exact Ne.symm other
  · rw [stockAfter_append]
    by_cases same : k = k₀
    · subst same
      rw [h₀] at h
      cases h
      exact ⟨by rw [if_pos rfl]; exact balance, nonneg⟩
    · rw [if_neg (Ne.symm same)]
      exact acc.stock k a ((others k same).1 ▸ h)
  · rw [refsAfter_append]
    by_cases same : k = k₀
    · subst same
      rw [if_pos rfl, refs, acc.refs]
    · rw [if_neg (Ne.symm same), List.append_nil, (others k same).2, acc.refs]
  · rcases List.mem_append.1 he' with old | new
    · exact acc.takes e' old
    · rw [List.mem_singleton] at new
      subst new
      exact taken

theorem get_ne_timedOut (l : Ledger) (k : InventoryKey) (m : String) :
    l.get k ≠ .error (.timedOut m) := by
  unfold get
  split <;> simp

theorem consume_ne_timedOut (l : Ledger) (r : ConsumeRequest) (now : Instant) (m : String) :
    l.consume r now ≠ .error (.timedOut m) := by
  unfold consume
  split
  · simp
  · split
    · simp
    · rename_i s _
      split
      · simp
      · by_cases short : s.record.quantity < r.quantity <;> simp [short]

theorem upsert_ne_timedOut (l : Ledger) (k : InventoryKey) (q : Int) (id : Uuid) (now : Instant)
    (m : String) : l.upsert k q id now ≠ .error (.timedOut m) := by
  unfold upsert
  split
  · simp
  · split <;> simp

end Ledger

namespace LedgerCall

variable {c : LedgerCall} {l l' : Ledger} {now : Instant}

theorem enter_eq_ok (h : c.enter l now = .ok l') :
    l' = l ∨ ∃ k q id, c = .upsert k q id ∧ l.slot? k = none ∧
      l' = ⟨l.slots ++ [newSlot k id now]⟩ := by
  cases c with
  | get k =>
    simp only [enter] at h
    split at h
    · cases h; exact .inl rfl
    · cases h
  | consume r d =>
    simp only [enter] at h
    split at h
    · cases h
    · split at h
      · cases h; exact .inl rfl
      · cases h
  | upsert k q id =>
    simp only [enter] at h
    split at h
    · cases h
    · split at h
      · cases h; exact .inl rfl
      · rename_i fresh
        cases h
        exact .inr ⟨k, q, id, rfl, Option.not_isSome_iff_eq_none.1 fresh, rfl⟩

theorem enter_ne_timedOut (c : LedgerCall) (l : Ledger) (now : Instant) (m : String) :
    c.enter l now ≠ .error (.timedOut m) := by
  cases c <;> simp only [enter] <;> split <;> (try split) <;> simp

theorem finish_of_error {e : LedgerError} (h : (c.finish l now).2 = .error e) :
    (c.finish l now).1 = l ∧ ∀ m, e ≠ .timedOut m := by
  cases c with
  | get k =>
    refine ⟨rfl, fun m same => ?_⟩
    subst same
    cases hg : l.get k with
    | ok r => simp [finish, hg, Except.map] at h
    | error e' =>
      simp only [finish, hg, Except.map] at h
      cases h
      exact Ledger.get_ne_timedOut l k m hg
  | consume r d =>
    simp only [finish] at h ⊢
    split at h
    · cases h
    · rename_i e' hc
      cases h
      exact ⟨rfl, fun m same => Ledger.consume_ne_timedOut l r now m (same ▸ hc)⟩
  | upsert k q id =>
    simp only [finish] at h ⊢
    split at h
    · cases h
    · rename_i e' hu
      cases h
      exact ⟨rfl, fun m same => Ledger.upsert_ne_timedOut l k q id now m (same ▸ hu)⟩

theorem consume_of_finish {r : ConsumeRequest} {d : Option Nat} {o : ConsumeOutcome}
    (answered : ((consume r d).finish l now).2 = .ok (.consumed o)) :
    l.consume r now = .ok (((consume r d).finish l now).1, o) := by
  cases hc : l.consume r now with
  | error e => simp [finish, hc] at answered
  | ok p =>
    obtain ⟨l', o'⟩ := p
    simp only [finish, hc, Except.ok.injEq, LedgerReply.consumed.injEq] at answered ⊢
    rw [answered]

theorem accounts_finish {es : List (InventoryKey × StockEffect)} (acc : l.Accounts es) (t : Nat)
    (c : LedgerCall) (now : Instant) :
    (c.finish l now).1.Accounts (es ++ (LedgerLabel.reply t c (c.finish l now).2).effect?.toList) := by
  cases c with
  | get k => simpa [finish, LedgerLabel.effect?] using acc
  | consume r d =>
    cases hc : l.consume r now with
    | error e => simpa [finish, hc, LedgerLabel.effect?] using acc
    | ok p =>
      obtain ⟨l', o⟩ := p
      cases hr : o.replayed with
      | true =>
        have same := Ledger.consume_replayed_eq hc hr
        subst same
        simpa [finish, hc, LedgerLabel.effect?, hr] using acc
      | false =>
        -- a consume that does not replay takes its quantity from a key that holds enough
        obtain ⟨pos, a, stock, enough, -⟩ := Ledger.consume_within hc hr
        simp only [finish, hc, LedgerLabel.effect?, hr, Bool.false_eq_true, if_false,
          Option.toList_some]
        refine acc.record (fun k other => ⟨?_, ?_⟩) ⟨a - r.quantity, ?_, ?_, by omega⟩ ?_
          (by simp only [StockEffect.taken]; omega)
        · rw [Ledger.stock?_consume hc k, if_neg fun h => other h.1]
        · rw [Ledger.refs_consume hc k, if_neg fun h => other h.1]
        · rw [Ledger.stock?_consume hc, if_pos ⟨rfl, hr⟩, stock]
          rfl
        · rw [← (acc.stock _ a stock).1]
          rfl
        · rw [Ledger.refs_consume hc, if_pos ⟨rfl, hr⟩]
          rfl
  | upsert k q id =>
    cases hu : l.upsert k q id now with
    | error e => simpa [finish, hu, LedgerLabel.effect?] using acc
    | ok p =>
      obtain ⟨l', rec⟩ := p
      simp only [finish, hu, LedgerLabel.effect?, Option.toList_some]
      refine acc.record (fun k' other => ⟨?_, ?_⟩)
        ⟨q, by rw [(Ledger.stock?_upsert hu k).2, if_pos rfl], rfl, (Ledger.stock?_upsert hu k).1⟩
        ?_ le_rfl
      · rw [(Ledger.stock?_upsert hu k').2, if_neg (Ne.symm other)]
      · rw [Ledger.refs_upsert hu]
      · rw [Ledger.refs_upsert hu]
        simp [StockEffect.reference?]

end LedgerCall

theorem LedgerLabel.effect?_error (t : Nat) (c : LedgerCall) (e : LedgerError) :
    (LedgerLabel.reply t c (.error e)).effect? = none := by
  cases c <;> rfl

namespace SharedLedger

@[simp] theorem threads_setThread (s : SharedLedger) (t : Nat) (call : Option (LedgerCall × LedgerPhase))
    (u : Nat) : (s.setThread t call).threads u = if u = t then call else s.threads u := rfl

@[simp] theorem ledger_setThread (s : SharedLedger) (t : Nat) (call : Option (LedgerCall × LedgerPhase)) :
    (s.setThread t call).ledger = s.ledger := rfl

@[simp] theorem clock_setThread (s : SharedLedger) (t : Nat) (call : Option (LedgerCall × LedgerPhase)) :
    (s.setThread t call).clock = s.clock := rfl

def Exclusive (s : SharedLedger) : Prop :=
  ∀ t u c d, s.threads t = some (c, .holding) → s.threads u = some (d, .holding) → c.key = d.key →
    t = u

variable {s : SharedLedger}

theorem Exclusive.setThread (ex : s.Exclusive) (l : Ledger) (t : Nat)
    {call : Option (LedgerCall × LedgerPhase)} (free : ∀ c, call ≠ some (c, .holding)) :
    ({ s with ledger := l }.setThread t call).Exclusive := by
  intro u v c d hu hv same
  simp only [threads_setThread] at hu hv
  split at hu
  · exact absurd hu (free c)
  · split at hv
    · exact absurd hv (free d)
    · exact ex u v c d hu hv same

theorem Exclusive.acquire (ex : s.Exclusive) {t : Nat} {c : LedgerCall} (free : ¬s.HeldByOther t c.key) :
    (s.setThread t (some (c, .holding))).Exclusive := by
  intro u v c₁ c₂ hu hv same
  simp only [threads_setThread] at hu hv
  by_cases ut : u = t <;> by_cases vt : v = t
  · rw [ut, vt]
  · rw [if_pos ut] at hu
    rw [if_neg vt] at hv
    cases hu
    exact absurd ⟨v, c₂, vt, hv, same.symm⟩ free
  · rw [if_neg ut] at hu
    rw [if_pos vt] at hv
    cases hv
    exact absurd ⟨u, c₁, ut, hu, same⟩ free
  · rw [if_neg ut] at hu
    rw [if_neg vt] at hv
    exact ex u v c₁ c₂ hu hv same

end SharedLedger

namespace LedgerStep

variable {s s' : SharedLedger} {ℓ : LedgerLabel}

theorem exclusive (step : LedgerStep s ℓ s') (ex : s.Exclusive) : s'.Exclusive := by
  cases step with
  | call => exact ex.setThread s.ledger _ (by simp)
  | refuse => exact ex.setThread s.ledger _ (by simp)
  | enter => exact ex.setThread _ _ (by simp)
  | acquire _ free => exact ex.acquire free
  | giveUp => exact ex.setThread s.ledger _ (by simp)
  | finish => exact ex.setThread _ _ (by simp)
  | tick => exact ex

theorem accounts {es : List (InventoryKey × StockEffect)} (step : LedgerStep s ℓ s')
    (acc : s.ledger.Accounts es) : s'.ledger.Accounts (es ++ ℓ.effect?.toList) := by
  cases step with
  | call => simpa [LedgerLabel.effect?] using acc
  | refuse => simpa [LedgerLabel.effect?_error] using acc
  | @enter _ _ now _ _ entered =>
    rcases LedgerCall.enter_eq_ok entered with rfl | ⟨k, q, id, rfl, fresh, rfl⟩
    · simpa [LedgerLabel.effect?] using acc
    · simpa [LedgerLabel.effect?] using acc.newSlot fresh id now
  | acquire => simpa [LedgerLabel.effect?] using acc
  | giveUp => simpa [LedgerLabel.effect?_error] using acc
  | finish now => exact LedgerCall.accounts_finish acc _ _ now
  | tick => simpa [LedgerLabel.effect?] using acc

theorem of_refusal {t : Nat} {c : LedgerCall} {e : LedgerError} (step : LedgerStep s ℓ s')
    (refusal : ℓ = .reply t c (.error e)) :
    s'.ledger = s.ledger ∧ ∀ m, e = .timedOut m →
      s.HeldByOther t c.key ∧ ∃ d, c.deadline? = some d ∧ d ≤ s.clock := by
  cases step with
  | @refuse t c now _ _ refused =>
    simp only [LedgerLabel.reply.injEq, Except.error.injEq] at refusal
    obtain ⟨rfl, rfl, rfl⟩ := refusal
    exact ⟨rfl, fun m timed => absurd (timed ▸ refused) (LedgerCall.enter_ne_timedOut c _ now m)⟩
  | giveUp _ held deadline late =>
    simp only [LedgerLabel.reply.injEq] at refusal
    obtain ⟨rfl, rfl, -⟩ := refusal
    exact ⟨rfl, fun _ _ => ⟨held, _, deadline, late⟩⟩
  | finish now =>
    simp only [LedgerLabel.reply.injEq] at refusal
    obtain ⟨rfl, rfl, answer⟩ := refusal
    obtain ⟨same, never⟩ := LedgerCall.finish_of_error answer
    exact ⟨same, fun m timed => absurd timed (never m)⟩
  | call | enter | acquire | tick => cases refusal

/-- A consume takes from its key exactly when it returns holding the key's mutex, with a
positive quantity, a reference the key has not recorded and at least that quantity there; it
answers what is left, which is what the key then holds. -/
theorem of_consume {t : Nat} {r : ConsumeRequest} {d : Option Nat}
    {answer : Except LedgerError LedgerReply} (step : LedgerStep s ℓ s')
    (reply : ℓ = .reply t (.consume r d) answer) :
    ((∃ o, answer = .ok (.consumed o) ∧ o.replayed = false) ↔
      s.threads t = some (.consume r d, .holding) ∧ 0 < r.quantity ∧
        (∀ ref, r.reference = some ref → ref ∉ s.ledger.refs r.key) ∧
        ∃ a, s.ledger.stock? r.key = some a ∧ r.quantity ≤ a) ∧
    ∀ o, answer = .ok (.consumed o) → o.replayed = false →
      ∃ a, s.ledger.stock? r.key = some a ∧ o.remaining = a - r.quantity ∧
        s'.ledger.stock? r.key = some (a - r.quantity) := by
  cases step with
  | refuse waiting | giveUp waiting =>
    -- a call that has not taken its key's mutex answers a refusal
    simp only [LedgerLabel.reply.injEq] at reply
    obtain ⟨rfl, rfl, rfl⟩ := reply
    refine ⟨⟨?_, ?_⟩, ?_⟩
    · rintro ⟨o, answered, -⟩
      cases answered
    · rintro ⟨holding, -⟩
      rw [waiting] at holding
      cases holding
    · rintro o answered
      cases answered
  | finish now running =>
    simp only [LedgerLabel.reply.injEq] at reply
    obtain ⟨rfl, rfl, rfl⟩ := reply
    refine ⟨⟨fun ⟨o, answered, fresh⟩ => ?_, fun ⟨_, pos, unrecorded, a, stock, enough⟩ => ?_⟩,
      fun o answered fresh => ?_⟩
    · have hc := LedgerCall.consume_of_finish answered
      obtain ⟨pos, a, stock, enough, -⟩ := Ledger.consume_within hc fresh
      refine ⟨running, pos, fun ref named recorded => ?_, a, stock, enough⟩
      have replays := (Ledger.consume_replayed hc).2 ⟨ref, named, recorded⟩
      rw [fresh] at replays
      cases replays
    · have taken := Ledger.consume_of_unrecorded pos stock unrecorded now
      rw [if_pos enough] at taken
      obtain ⟨l', hc⟩ := taken
      exact ⟨{ remaining := a - r.quantity }, by simp [LedgerCall.finish, hc], rfl⟩
    · have hc := LedgerCall.consume_of_finish answered
      obtain ⟨-, a, stock, -, remaining⟩ := Ledger.consume_within hc fresh
      refine ⟨a, stock, remaining, ?_⟩
      simp only [SharedLedger.ledger_setThread]
      rw [Ledger.stock?_consume hc, if_pos ⟨rfl, fresh⟩, stock]
      rfl
  | call | enter | acquire | tick => cases reply

end LedgerStep

theorem LedgerRun.keeps {s s' : SharedLedger} {ls : List LedgerLabel}
    {es : List (InventoryKey × StockEffect)} (run : LedgerRun s ls s') (ex : s.Exclusive)
    (acc : s.ledger.Accounts es) : s'.Exclusive ∧ s'.ledger.Accounts (es ++ effectsOf ls) := by
  induction run generalizing es with
  | done => simpa [effectsOf] using ⟨ex, acc⟩
  | step first _ ih =>
    have rest := ih (first.exclusive ex) (first.accounts acc)
    rwa [effectsOf_cons, ← List.append_assoc]

/-- The accounts of the ledger shared by threads. Along every run from a new ledger no two
threads hold one key's mutex, and every stocked key holds at least 0: after its last set, that
set's quantity less what consumes took since; before any set, 0. Its references are those of the
consumes that took from it, in order. A call that returns a refusal changes nothing, and it timed
out only while another thread held its key with its deadline reached. A consume takes from its
key exactly when it returns holding the key's mutex, with a positive quantity, a reference the key
has not recorded and at least that quantity there, and it answers what the key then holds. -/
theorem shared_ledger_keeps_accounts {ls : List LedgerLabel} {s : SharedLedger}
    (run : LedgerRun SharedLedger.init ls s) :
    s.Exclusive ∧
    (∀ k a, s.ledger.stock? k = some a → 0 ≤ a ∧
      (∀ pre q post, effectsOf ls = pre ++ (k, .set q) :: post →
        (∀ e ∈ post, e.1 = k → ∀ n, e.2 ≠ .set n) → a = q - takenAfter k post) ∧
      ((∀ e ∈ effectsOf ls, e.1 = k → ∀ n, e.2 ≠ .set n) → a = 0)) ∧
    (∀ k, s.ledger.refs k = refsAfter k (effectsOf ls)) ∧
    (∀ s₁ t c e s₂, LedgerStep s₁ (.reply t c (.error e)) s₂ →
      s₂.ledger = s₁.ledger ∧ ∀ m, e = .timedOut m →
        s₁.HeldByOther t c.key ∧ ∃ d, c.deadline? = some d ∧ d ≤ s₁.clock) ∧
    ∀ s₁ t r d answer s₂, LedgerStep s₁ (.reply t (.consume r d) answer) s₂ →
      ((∃ o, answer = .ok (.consumed o) ∧ o.replayed = false) ↔
        s₁.threads t = some (.consume r d, .holding) ∧ 0 < r.quantity ∧
          (∀ ref, r.reference = some ref → ref ∉ s₁.ledger.refs r.key) ∧
          ∃ a, s₁.ledger.stock? r.key = some a ∧ r.quantity ≤ a) ∧
      ∀ o, answer = .ok (.consumed o) → o.replayed = false →
        ∃ a, s₁.ledger.stock? r.key = some a ∧ o.remaining = a - r.quantity ∧
          s₂.ledger.stock? r.key = some (a - r.quantity) := by
  have idle : SharedLedger.init.Exclusive := fun _ _ _ _ held => by cases held
  obtain ⟨ex, acc⟩ := run.keeps idle Ledger.Accounts.empty
  rw [List.nil_append] at acc
  refine ⟨ex, fun k a stock => ?_, acc.refs, fun s₁ t c e s₂ step => step.of_refusal rfl,
    fun s₁ t r d answer s₂ step => step.of_consume rfl⟩
  obtain ⟨balance, nonneg⟩ := acc.stock k a stock
  refine ⟨nonneg, fun pre q post split last => ?_, fun unset => ?_⟩
  · rw [balance, split, stockAfter_of_last_set last]
  · -- before any set nothing can be taken, as the stock never falls below 0
    have taken := takenAfter_nonneg (k := k) acc.takes
    rw [balance, stockAfter_of_unset unset] at nonneg ⊢
    omega

/-- An upsert of 5, then a consume of 3 holding the key while another consume, its deadline
reached, gives up: the key holds 2 and records the first consume's reference. -/
theorem shared_ledger_accounts_under_contention :
    let k : InventoryKey :=
      { tenant := ⟨"t1", Eq.refl "t1", Eq.refl false⟩
        seller := ⟨"s1", Eq.refl "s1", Eq.refl false⟩
        hub := ⟨"H1", Eq.refl "H1", Eq.refl false⟩
        sku := ⟨"K1", Eq.refl "K1", Eq.refl false⟩ }
    let up : LedgerCall := .upsert k 5 default
    let first : LedgerCall := .consume { key := k, quantity := 3, reference := some "o1" } none
    let second : LedgerCall := .consume { key := k, quantity := 2 } (some 0)
    let ls : List LedgerLabel :=
      [.call 1 up, .enter 1 up, .acquire 1 up, .reply 1 up (.ok (.record ⟨default, k, 5, Instant.epoch⟩)),
        .call 2 first, .enter 2 first, .acquire 2 first,
        .call 3 second, .enter 3 second, .reply 3 second (.error second.timedOut),
        .reply 2 first (.ok (.consumed { remaining := 2 }))]
    ∃ s, LedgerRun SharedLedger.init ls s ∧ s.Exclusive ∧
      effectsOf ls = [] ++ (k, .set 5) :: [(k, .take 3 (some "o1"))] ∧
      s.ledger.stock? k = some (5 - takenAfter k [(k, .take 3 (some "o1"))]) ∧
      s.ledger.refs k = ["o1"] := by
  intro k up first second ls
  obtain ⟨s, run, stock, refs⟩ : ∃ s, LedgerRun SharedLedger.init ls s ∧
      s.ledger.stock? k = some 2 ∧ s.ledger.refs k = ["o1"] := by
    refine ⟨_, .step (.call rfl) (.step (@LedgerStep.enter _ _ _ Instant.epoch _ rfl rfl)
      (.step (.acquire rfl ?_) (.step (.finish Instant.epoch rfl) (.step (.call rfl)
        (.step (@LedgerStep.enter _ _ _ Instant.epoch _ rfl rfl) (.step (.acquire rfl ?_)
          (.step (.call rfl) (.step (@LedgerStep.enter _ _ _ Instant.epoch _ rfl rfl)
            (.step (.giveUp rfl ⟨2, first, by decide, rfl, rfl⟩ rfl (Nat.le_refl 0))
              (.step (.finish Instant.epoch rfl) (.done _))))))))))), ?_, ?_⟩
    rotate_left 2
    all_goals first
      | decide +kernel
      | rintro ⟨u, c, -, held, -⟩
        simp only [SharedLedger.setThread, SharedLedger.init] at held
        repeat' split at held
        all_goals simp at held
  have effects : effectsOf ls = [] ++ (k, .set 5) :: [(k, .take 3 (some "o1"))] := rfl
  have accounts := shared_ledger_keeps_accounts run
  have last := (accounts.2.1 k 2 stock).2.1 [] 5 _ effects (by simp)
  exact ⟨s, run, accounts.1, effects, last ▸ stock, refs⟩

/-- The upsert that stocks a new key adds its slot before it takes the key's mutex: in between,
the key is stocked at 0 though no call has returned, and a get answers a record of quantity 0,
though the only upsert sets 5 and, run alone before or after it, the get answers not found or 5. -/
theorem get_between_first_upsert_and_its_set :
    let k : InventoryKey :=
      { tenant := ⟨"t1", Eq.refl "t1", Eq.refl false⟩
        seller := ⟨"s1", Eq.refl "s1", Eq.refl false⟩
        hub := ⟨"H1", Eq.refl "H1", Eq.refl false⟩
        sku := ⟨"K1", Eq.refl "K1", Eq.refl false⟩ }
    let up : LedgerCall := .upsert k 5 default
    let look : LedgerCall := .get k
    (∃ s, LedgerRun SharedLedger.init [.call 1 up, .enter 1 up] s ∧
      s.ledger.stock? k = some 0 ∧ effectsOf [.call 1 up, .enter 1 up] = []) ∧
    (∃ s, LedgerRun SharedLedger.init
      [.call 1 up, .enter 1 up, .call 2 look, .enter 2 look, .acquire 2 look,
        .reply 2 look (.ok (.record ⟨default, k, 0, Instant.epoch⟩)),
        .acquire 1 up, .reply 1 up (.ok (.record ⟨default, k, 5, Instant.epoch⟩))] s) ∧
    ({} : Ledger).get k = .error (.notFound k) ∧
    ∃ l r, ({} : Ledger).upsert k 5 default Instant.epoch = .ok (l, r) ∧ l.get k = .ok r ∧
      r.quantity = 5 := by
  intro k up look
  refine ⟨⟨_, .step (.call rfl) (.step (@LedgerStep.enter _ _ _ Instant.epoch _ rfl rfl) (.done _)),
      by decide +kernel, rfl⟩,
    ⟨_, .step (.call rfl) (.step (@LedgerStep.enter _ _ _ Instant.epoch _ rfl rfl) (.step (.call rfl)
      (.step (@LedgerStep.enter _ _ _ Instant.epoch _ rfl rfl) (.step (.acquire rfl ?_)
        (.step (.finish Instant.epoch rfl) (.step (.acquire rfl ?_)
          (.step (.finish Instant.epoch rfl) (.done _))))))))⟩, rfl, _, _, rfl, rfl, rfl⟩
  all_goals
    rintro ⟨u, c, -, held, -⟩
    simp only [SharedLedger.setThread, SharedLedger.init] at held
    repeat' split at held
    all_goals simp at held

end Fulfilment
