import Fulfilment.Messaging.EventBus

/-!
Fan-out and redelivery on the event bus, carried by `Chain`: at any time the copies of a message
on one subscription are one waiting copy, one the client holds, or none that will come again.
-/

namespace Fulfilment

namespace Message

variable {m : Message} {n : Nat}

@[simp] theorem id_redelivered : m.redelivered.id = m.id := rfl

@[simp] theorem id_redeliveredTimes : (m.redeliveredTimes n).id = m.id := rfl

theorem redeliveredTimes_zero (h : m.attempt ≤ attemptMax) : m.redeliveredTimes 0 = m := by
  simp [redeliveredTimes, h]

theorem redelivered_redeliveredTimes (n : Nat) :
    (m.redeliveredTimes n).redelivered = m.redeliveredTimes (n + 1) := by
  simp only [redelivered, redeliveredTimes, Message.mk.injEq, and_true, true_and]
  omega

theorem attempt_redeliveredTimes (h : m.attempt + n ≤ attemptMax) :
    (m.redeliveredTimes n).attempt = m.attempt + n := by
  simp [redeliveredTimes, h]

end Message

namespace EventBus

variable {b b' : EventBus} {i j n n' : Nat} {x : Uuid} {ib : Inbox} {m : Message}

def waitingOf (b : EventBus) (i : Nat) (x : Uuid) : List Message :=
  ((b.inboxes[i]?).map fun ib => ib.waiting.filter (·.id = x)).getD []

def limits (b : EventBus) : List Nat := b.inboxes.map (·.maxDeliveries)

theorem waitingOf_of_getElem? (h : b.inboxes[i]? = some ib) :
    b.waitingOf i x = ib.waiting.filter (·.id = x) := by
  simp [waitingOf, h]

theorem waitingOf_of_none (h : b.inboxes[i]? = none) : b.waitingOf i x = [] := by
  simp [waitingOf, h]

@[simp] theorem waitingOf_withDead (d : List Message) :
    ({ b with dead := d } : EventBus).waitingOf i x = b.waitingOf i x := rfl

theorem waitingOf_set (hj : b.inboxes[j]? = some ib) (ib' : Inbox) :
    ({ b with inboxes := b.inboxes.set j ib' } : EventBus).waitingOf i x =
      if i = j then ib'.waiting.filter (·.id = x) else b.waitingOf i x := by
  have hlt : j < b.inboxes.length := (List.getElem?_eq_some_iff.1 hj).1
  by_cases hij : i = j
  · subst hij
    simp [waitingOf, hlt]
  · simp [waitingOf, Ne.symm hij, hij]

@[simp] theorem limits_withMaxDeliveries (n : Nat) : (b.withMaxDeliveries n).limits = b.limits := rfl

@[simp] theorem limits_subscribe (t : String) :
    (b.subscribe t).1.limits = b.limits ++ [b.maxDeliveries] := by
  simp [subscribe, limits]

@[simp] theorem limits_drop : (b.drop i).limits = b.limits := by
  apply List.ext_getElem?
  intro n
  simp only [drop, limits, List.getElem?_map, List.getElem?_modify]
  cases b.inboxes[n]? with
  | none => rfl
  | some ib => by_cases h : i = n <;> simp [h]

@[simp] theorem limits_publish : (b.publish m).limits = b.limits := by
  simp only [publish, limits, List.map_map]
  congr 1
  funext ib
  simp only [Function.comp_apply]
  split <;> rfl

theorem limits_set (hj : b.inboxes[j]? = some ib) (ib' : Inbox) (h : ib'.maxDeliveries = ib.maxDeliveries) :
    ({ b with inboxes := b.inboxes.set j ib' } : EventBus).limits = b.limits := by
  apply List.ext_getElem?
  intro n
  simp only [limits, List.getElem?_map, List.getElem?_set]
  by_cases hn : j = n
  · subst hn
    obtain ⟨hlt, he⟩ := List.getElem?_eq_some_iff.1 hj
    simp [h, hlt, he]
  · simp [hn]

@[simp] theorem limits_take : (b.take j).1.limits = b.limits := by
  unfold take
  split
  · next hj => exact limits_set hj _ rfl
  · rfl

@[simp] theorem limits_giveBack : (b.giveBack j m).limits = b.limits := by
  unfold giveBack
  split
  · rfl
  · next hj =>
    split
    · rfl
    · exact limits_set hj _ rfl

@[simp] theorem maxDeliveries_take : (b.take j).1.maxDeliveries = b.maxDeliveries := by
  unfold take
  split <;> rfl

@[simp] theorem dead_take : (b.take j).1.dead = b.dead := by
  unfold take
  split <;> rfl

@[simp] theorem maxDeliveries_giveBack : (b.giveBack j m).maxDeliveries = b.maxDeliveries := by
  unfold giveBack
  split
  · rfl
  · split <;> rfl

theorem publish_getElem? (i : Nat) :
    (b.publish m).inboxes[i]? = b.inboxes[i]?.map fun ib =>
      if ib.topic = some m.topic then { ib with waiting := ib.waiting ++ [m] } else ib := by
  simp [publish, List.getElem?_map]

theorem waitingOf_publish_of_ne (h : m.id ≠ x) : (b.publish m).waitingOf i x = b.waitingOf i x := by
  simp only [waitingOf, publish_getElem?, Option.map_map]
  cases b.inboxes[i]? with
  | none => rfl
  | some ib => by_cases ht : ib.topic = some m.topic <;> simp [ht, h]

theorem waitingOf_publish_self (h : b.inboxes[i]? = some ib) :
    (b.publish m).waitingOf i m.id =
      b.waitingOf i m.id ++ if ib.topic = some m.topic then [m] else [] := by
  by_cases ht : ib.topic = some m.topic <;> simp [waitingOf, publish_getElem?, h, ht]

@[simp] theorem waitingOf_subscribe (t : String) : (b.subscribe t).1.waitingOf i x = b.waitingOf i x := by
  simp only [subscribe, waitingOf, List.getElem?_append]
  by_cases hi : i < b.inboxes.length
  · simp [hi]
  · by_cases he : i = b.inboxes.length
    · simp [he]
    · simp [hi, show i - b.inboxes.length ≠ 0 by omega]

theorem waitingOf_drop : (b.drop j).waitingOf i x = if i = j then [] else b.waitingOf i x := by
  simp only [drop, waitingOf, List.getElem?_modify]
  cases b.inboxes[i]? with
  | none => simp
  | some ib => by_cases h : i = j <;> simp [h, Ne.symm]

theorem take_of_cons (hj : b.inboxes[j]? = some ib) (hw : ib.waiting = m :: rest) :
    b.take j = ({ b with inboxes := b.inboxes.set j { ib with waiting := rest } }, some m) := by
  obtain ⟨topic, d, waiting⟩ := ib
  subst hw
  simp [take, hj]

theorem take_of_none (h : (b.take j).2 = none) : (b.take j).1 = b := by
  unfold take at h ⊢
  split
  · simp_all
  · rfl

theorem waitingOf_take (j : Nat) :
    b.waitingOf i x =
      (if i = j then (b.take j).2.toList.filter (·.id = x) else []) ++ (b.take j).1.waitingOf i x := by
  cases hj : b.inboxes[j]? with
  | none => simp [take, hj]
  | some ib =>
    cases hw : ib.waiting with
    | nil =>
      have hn : (b.take j).2 = none := by
        obtain ⟨topic, d, waiting⟩ := ib
        subst hw
        simp [take, hj]
      simp [hn, take_of_none hn]
    | cons h rest =>
      rw [take_of_cons hj hw, waitingOf_set hj]
      by_cases hij : i = j
      · subst hij
        by_cases hx : h.id = x <;> simp [waitingOf_of_getElem? hj, hw, hx]
      · simp [hij]

theorem giveBack_of_none (h : b.inboxes[j]? = none) : b.giveBack j m = b := by
  simp [giveBack, h]

theorem giveBack_of_le (hj : b.inboxes[j]? = some ib) (hd : ib.maxDeliveries ≤ m.attempt) :
    b.giveBack j m = { b with dead := b.dead ++ [m] } := by
  simp [giveBack, hj, hd]

theorem giveBack_of_lt (hj : b.inboxes[j]? = some ib) (hd : m.attempt < ib.maxDeliveries) :
    b.giveBack j m =
      { b with inboxes := b.inboxes.set j { ib with waiting := ib.waiting ++ [m.redelivered] } } := by
  simp [giveBack, hj, Nat.not_le.2 hd]

theorem dead_giveBack : (b.giveBack j m).dead = b.dead ∨ (b.giveBack j m).dead = b.dead ++ [m] := by
  cases hj : b.inboxes[j]? with
  | none => exact .inl (by rw [giveBack_of_none hj])
  | some ib =>
    by_cases hd : ib.maxDeliveries ≤ m.attempt
    · exact .inr (by rw [giveBack_of_le hj hd])
    · exact .inl (by rw [giveBack_of_lt hj (Nat.lt_of_not_le hd)])

theorem waitingOf_giveBack_of_not (h : ¬(j = i ∧ m.id = x)) :
    (b.giveBack j m).waitingOf i x = b.waitingOf i x := by
  cases hj : b.inboxes[j]? with
  | none => rw [giveBack_of_none hj]
  | some ib =>
    by_cases hd : ib.maxDeliveries ≤ m.attempt
    · rw [giveBack_of_le hj hd]
      rfl
    · rw [giveBack_of_lt hj (Nat.lt_of_not_le hd), waitingOf_set hj]
      by_cases hij : i = j
      · subst hij
        have hx : m.id ≠ x := fun e => h ⟨rfl, e⟩
        simp [waitingOf_of_getElem? hj, Message.redelivered, hx]
      · simp [hij]

theorem newDead_giveBack :
    (b.giveBack j m).dead.drop b.dead.length = [] ∨ (b.giveBack j m).dead.drop b.dead.length = [m] := by
  rcases dead_giveBack (b := b) (j := j) (m := m) with hd | hd
  · exact .inl (by simp [hd])
  · exact .inr (by simp [hd])

/-- Every limit of the bus is at least one and at most the largest attempt. -/
def Ranged (b : EventBus) : Prop :=
  (1 ≤ b.maxDeliveries ∧ b.maxDeliveries ≤ attemptMax) ∧ ∀ d ∈ b.limits, 1 ≤ d ∧ d ≤ attemptMax

def Bounded (b : EventBus) (i n : Nat) : Prop := n = 0 ∨ ∃ d, b.limits[i]? = some d ∧ n ≤ d

theorem Bounded.mono (h : b.Bounded i n) (hp : b.limits <+: b'.limits) : b'.Bounded i n := by
  rcases h with h | ⟨d, hd, hn⟩
  · exact .inl h
  · obtain ⟨t, ht⟩ := hp
    refine .inr ⟨d, ?_, hn⟩
    rw [← ht, List.getElem?_append_left (List.getElem?_eq_some_iff.1 hd).1, hd]

theorem Bounded.le (h : b.Bounded i n) (hn : n' ≤ n) : b.Bounded i n' := by
  rcases h with h | ⟨d, hd, hle⟩
  · exact .inl (by omega)
  · exact .inr ⟨d, hd, by omega⟩

end EventBus

/-- A copy a client took from the bus: the subscription that delivered it, and whether the client
gave it back. -/
structure Copy where
  sub : Nat
  msg : Message
  nacked : Bool := false
  deriving DecidableEq, Repr

/-- What a client does with the bus. The copies it took are named by their place among all it
took, and the limit is the one a bus is built with, for the subscriptions made after it. -/
inductive BusCall where
  | limit (n : UInt32)
  | subscribe (topic : String)
  | drop (sub : Nat)
  | publish (m : Message)
  | receive (sub : Nat)
  | ack (sub copy : Nat)
  | nack (sub copy : Nat)
  deriving DecidableEq, Repr

def BusCall.published? : BusCall → Option Message
  | .publish m => some m
  | _ => none

/-- A bus with a client: the copies the client took, and the dead letters its gives back made,
each with the subscription it went through. -/
structure BusClient where
  bus : EventBus
  taken : List Copy := []
  buried : List (Nat × Message) := []

namespace BusClient

def step (c : BusClient) : BusCall → BusClient
  | .limit n => { c with bus := c.bus.withMaxDeliveries n.toNat }
  | .subscribe t => { c with bus := (c.bus.subscribe t).1 }
  | .drop i => { c with bus := c.bus.drop i }
  | .publish m => { c with bus := c.bus.publish m }
  | .receive i =>
    match c.bus.take i with
    | (b, some m) => { c with bus := b, taken := c.taken ++ [{ sub := i, msg := m }] }
    | (b, none) => { c with bus := b }
  | .ack _ _ => c
  | .nack i k =>
    match c.taken[k]? with
    | none => c
    | some cp =>
      let b := c.bus.giveBack i cp.msg
      { bus := b
        taken := c.taken.set k { cp with nacked := true }
        buried := c.buried ++ (b.dead.drop c.bus.dead.length).map fun m => (i, m) }

def run (c : BusClient) : List BusCall → BusClient
  | [] => c
  | call :: calls => (c.step call).run calls

/-- A call gives back only a copy the client took and has not given back, and through the
subscription that delivered it. -/
def GivesBackOnce (c : BusClient) : BusCall → Prop
  | .nack i k => ∃ cp, c.taken[k]? = some cp ∧ cp.sub = i ∧ cp.nacked = false
  | _ => True

/-- Every call of a run gives back copies once each, through their own subscriptions. -/
def Careful (c : BusClient) : List BusCall → Prop
  | [] => True
  | call :: calls => c.GivesBackOnce call ∧ (c.step call).Careful calls

instance decGivesBackOnce (c : BusClient) : (call : BusCall) → Decidable (c.GivesBackOnce call)
  | .nack i k =>
    decidable_of_iff ((c.taken[k]?).any fun cp => cp.sub = i ∧ cp.nacked = false) (by
      cases h : c.taken[k]? <;> simp [GivesBackOnce, h])
  | .limit _ | .subscribe _ | .drop _ | .publish _ | .receive _ | .ack _ _ => isTrue trivial

instance decCareful : (c : BusClient) → (calls : List BusCall) → Decidable (c.Careful calls)
  | _, [] => isTrue trivial
  | c, call :: calls =>
    have := decCareful (c.step call) calls
    inferInstanceAs (Decidable (c.GivesBackOnce call ∧ (c.step call).Careful calls))

/-- The copies with identity `x` the client took from subscription `i`, in the order it took them. -/
def got (c : BusClient) (i : Nat) (x : Uuid) : List Message :=
  c.taken.filterMap fun cp => if cp.sub = i ∧ cp.msg.id = x then some cp.msg else none

/-- How many copies with identity `x` from subscription `i` the client holds and has not given
back. -/
def held (c : BusClient) (i : Nat) (x : Uuid) : Nat :=
  c.taken.countP fun cp => cp.sub = i ∧ cp.msg.id = x ∧ cp.nacked = false

/-- The dead letters with identity `x` that gives back through subscription `i` made. -/
def buriedOf (c : BusClient) (i : Nat) (x : Uuid) : List Message :=
  c.buried.filterMap fun d => if d.1 = i ∧ d.2.id = x then some d.2 else none

variable {c c' : BusClient} {i j k : Nat} {x : Uuid} {m : Message} {cp : Copy}

@[simp] theorem run_nil : c.run [] = c := rfl

@[simp] theorem run_cons (call : BusCall) (calls : List BusCall) :
    c.run (call :: calls) = (c.step call).run calls := rfl

theorem run_append (xs ys : List BusCall) : c.run (xs ++ ys) = (c.run xs).run ys := by
  induction xs generalizing c with
  | nil => rfl
  | cons call xs ih => exact ih

@[simp] theorem step_limit (n : UInt32) : c.step (.limit n) = { c with bus := c.bus.withMaxDeliveries n.toNat } :=
  rfl

@[simp] theorem step_subscribe (t : String) : c.step (.subscribe t) = { c with bus := (c.bus.subscribe t).1 } :=
  rfl

@[simp] theorem step_drop : c.step (.drop j) = { c with bus := c.bus.drop j } := rfl

@[simp] theorem step_publish : c.step (.publish m) = { c with bus := c.bus.publish m } := rfl

@[simp] theorem step_ack : c.step (.ack j k) = c := rfl

@[simp] theorem got_withBus (b : EventBus) : ({ c with bus := b } : BusClient).got i x = c.got i x := rfl

@[simp] theorem held_withBus (b : EventBus) : ({ c with bus := b } : BusClient).held i x = c.held i x := rfl

@[simp] theorem buriedOf_withBus (b : EventBus) :
    ({ c with bus := b } : BusClient).buriedOf i x = c.buriedOf i x := rfl

theorem careful_append {xs ys : List BusCall} (h : c.Careful (xs ++ ys)) : (c.run xs).Careful ys := by
  induction xs generalizing c with
  | nil => exact h
  | cons call xs ih => exact ih h.2

theorem step_receive_some {b : EventBus} (h : c.bus.take j = (b, some m)) :
    c.step (.receive j) = { c with bus := b, taken := c.taken ++ [{ sub := j, msg := m }] } := by
  simp [step, h]

theorem step_receive_none (h : (c.bus.take j).2 = none) : c.step (.receive j) = c := by
  have hb := EventBus.take_of_none h
  rcases hs : c.bus.take j with ⟨b, out⟩
  simp only [hs] at h hb
  subst h hb
  simp [step, hs]

theorem step_nack (h : c.taken[k]? = some cp) :
    c.step (.nack j k) =
      { bus := c.bus.giveBack j cp.msg
        taken := c.taken.set k { cp with nacked := true }
        buried := c.buried ++
          ((c.bus.giveBack j cp.msg).dead.drop c.bus.dead.length).map fun m => (j, m) } := by
  simp [step, h]

theorem bus_nack (hk : c.taken[k]? = some cp) : (c.step (.nack j k)).bus = c.bus.giveBack j cp.msg := by
  rw [step_nack hk]

theorem taken_nack (hk : c.taken[k]? = some cp) :
    (c.step (.nack j k)).taken = c.taken.set k { cp with nacked := true } := by
  rw [step_nack hk]

theorem buried_nack (hk : c.taken[k]? = some cp) :
    (c.step (.nack j k)).buried =
      c.buried ++ ((c.bus.giveBack j cp.msg).dead.drop c.bus.dead.length).map fun m => (j, m) := by
  rw [step_nack hk]

theorem dead_step {d₀ : List Message} (h : c.bus.dead = d₀ ++ c.buried.map Prod.snd)
    (call : BusCall) : (c.step call).bus.dead = d₀ ++ (c.step call).buried.map Prod.snd := by
  cases call with
  | receive j =>
    cases hout : (c.bus.take j).2 with
    | none => rwa [step_receive_none hout]
    | some h' =>
      rcases hs : c.bus.take j with ⟨b, out⟩
      have hd : b.dead = c.bus.dead := by rw [show b = (c.bus.take j).1 by rw [hs], EventBus.dead_take]
      simp only [hs] at hout
      subst hout
      simpa [step_receive_some hs, hd] using h
  | nack j k =>
    cases hk : c.taken[k]? with
    | none => simpa [step, hk] using h
    | some cp =>
      rw [step_nack hk]
      rcases EventBus.dead_giveBack (b := c.bus) (j := j) (m := cp.msg) with hd | hd
      · simp [hd, h]
      · simp [hd, h]
  | limit | subscribe | drop | publish | ack => exact h

theorem limits_step (call : BusCall) : c.bus.limits <+: (c.step call).bus.limits := by
  cases call with
  | subscribe t =>
    show c.bus.limits <+: (c.bus.subscribe t).1.limits
    rw [EventBus.limits_subscribe]
    exact List.prefix_append _ _
  | receive j =>
    cases hout : (c.bus.take j).2 with
    | none => exact (step_receive_none hout).symm ▸ List.prefix_refl _
    | some h' =>
      rcases hs : c.bus.take j with ⟨b, out⟩
      simp only [hs] at hout
      subst hout
      rw [step_receive_some hs]
      simp [show b = (c.bus.take j).1 by rw [hs]]
  | nack j k =>
    cases hk : c.taken[k]? with
    | none => simp [step, hk]
    | some cp => simp [step_nack hk]
  | limit | drop | publish | ack => simp [step]

theorem filterMap_set_of_eq {α β : Type} {f : α → Option β} {l : List α} {k : Nat} {a a' : α}
    (hk : l[k]? = some a) (hf : f a' = f a) : (l.set k a').filterMap f = l.filterMap f := by
  induction l generalizing k with
  | nil => simp at hk
  | cons b l ih =>
    cases k with
    | zero =>
      simp only [List.getElem?_cons_zero, Option.some.injEq] at hk
      subst hk
      simp [List.filterMap_cons, hf]
    | succ k => simp [List.filterMap_cons, ih (by simpa using hk)]

theorem got_append_copy (h : c'.taken = c.taken ++ [cp]) :
    c'.got i x = c.got i x ++ if cp.sub = i ∧ cp.msg.id = x then [cp.msg] else [] := by
  by_cases hc : cp.sub = i ∧ cp.msg.id = x
  · simp [got, h, hc]
  · simp [got, h, hc]

theorem held_append_copy (h : c'.taken = c.taken ++ [cp]) :
    c'.held i x = c.held i x + if cp.sub = i ∧ cp.msg.id = x ∧ cp.nacked = false then 1 else 0 := by
  simp only [held, h, List.countP_append, List.countP_cons, List.countP_nil]
  split <;> simp_all

theorem got_set_nacked (hk : c.taken[k]? = some cp)
    (h : c'.taken = c.taken.set k { cp with nacked := true }) : c'.got i x = c.got i x := by
  simp only [got, h]
  exact filterMap_set_of_eq hk rfl

theorem held_set_nacked (hk : c.taken[k]? = some cp)
    (h : c'.taken = c.taken.set k { cp with nacked := true }) :
    c'.held i x = c.held i x - if cp.sub = i ∧ cp.msg.id = x ∧ cp.nacked = false then 1 else 0 := by
  obtain ⟨hlt, he⟩ := List.getElem?_eq_some_iff.1 hk
  simp only [held, h, List.countP_set hlt, he]
  simp

theorem buriedOf_append {ds : List (Nat × Message)} (h : c'.buried = c.buried ++ ds) :
    c'.buriedOf i x = c.buriedOf i x ++ ds.filterMap fun d => if d.1 = i ∧ d.2.id = x then some d.2 else none := by
  simp [buriedOf, h]

theorem held_eq_zero (h : c.held i x = 0) :
    ∀ cp ∈ c.taken, cp.sub = i → cp.msg.id = x → cp.nacked = false → False := by
  intro cp hcp hs hx hn
  have := List.countP_eq_zero.1 h cp hcp
  simp_all

theorem held_pos (hcp : cp ∈ c.taken) (hs : cp.sub = i) (hx : cp.msg.id = x) (hn : cp.nacked = false) :
    0 < c.held i x :=
  List.countP_pos_iff.2 ⟨cp, hcp, by simp [hs, hx, hn]⟩

theorem ranged_step (h : c.bus.Ranged) (call : BusCall) : (c.step call).bus.Ranged := by
  obtain ⟨⟨lo, hi⟩, hl⟩ := h
  cases call with
  | limit n =>
    have hn := UInt32.toNat_lt n
    have hM : attemptMax = 2 ^ 32 - 1 := rfl
    refine ⟨⟨Nat.le_max_right _ _, ?_⟩, hl⟩
    show max n.toNat 1 ≤ attemptMax
    omega
  | subscribe t =>
    refine ⟨⟨lo, hi⟩, ?_⟩
    simp only [step, EventBus.limits_subscribe, List.mem_append, List.mem_singleton]
    rintro d (hd | rfl)
    · exact hl d hd
    · exact ⟨lo, hi⟩
  | receive j =>
    cases hout : (c.bus.take j).2 with
    | none => rw [step_receive_none hout]; exact ⟨⟨lo, hi⟩, hl⟩
    | some h' =>
      rcases hs : c.bus.take j with ⟨b, out⟩
      simp only [hs] at hout
      subst hout
      have hb : b = (c.bus.take j).1 := by rw [hs]
      rw [step_receive_some hs, hb]
      exact ⟨by simpa using And.intro lo hi, by simpa using hl⟩
  | nack j k =>
    cases hk : c.taken[k]? with
    | none =>
      rw [show c.step (.nack j k) = c by simp [step, hk]]
      exact ⟨⟨lo, hi⟩, hl⟩
    | some cp =>
      rw [step_nack hk]
      exact ⟨by simpa using And.intro lo hi, by simpa using hl⟩
  | drop | publish | ack => exact ⟨⟨lo, hi⟩, by simpa [step] using hl⟩

theorem ranged_run (h : c.bus.Ranged) (calls : List BusCall) : (c.run calls).bus.Ranged := by
  induction calls generalizing c with
  | nil => exact h
  | cons call calls ih => exact ih (ranged_step h call)

/-- No copy of a message with identity `x` is anywhere: waiting, taken or dead-lettered. -/
structure Absent (c : BusClient) (x : Uuid) : Prop where
  waiting : ∀ i, c.bus.waitingOf i x = []
  taken : ∀ cp ∈ c.taken, cp.msg.id ≠ x
  buried : ∀ d ∈ c.buried, d.2.id ≠ x

theorem Absent.step (h : Absent c x) (call : BusCall)
    (hx : ∀ m, call.published? = some m → m.id ≠ x) : Absent (c.step call) x := by
  cases call with
  | limit n => exact ⟨h.waiting, h.taken, h.buried⟩
  | subscribe t => exact ⟨fun i => by simp [BusClient.step, h.waiting i], h.taken, h.buried⟩
  | drop j =>
    exact ⟨fun i => by simp [BusClient.step, EventBus.waitingOf_drop, h.waiting i], h.taken, h.buried⟩
  | publish m' =>
    refine ⟨fun i => ?_, h.taken, h.buried⟩
    rw [BusClient.step, EventBus.waitingOf_publish_of_ne (hx m' rfl)]
    exact h.waiting i
  | receive j =>
    cases hout : (c.bus.take j).2 with
    | none => rwa [step_receive_none hout]
    | some h' =>
      rcases hs : c.bus.take j with ⟨b, out⟩
      simp only [hs] at hout
      subst hout
      rw [step_receive_some hs]
      -- nothing with identity `x` waited, so neither the copy handed out nor what is left has it
      have hw : ∀ i, [] = (if i = j then [h'].filter (·.id = x) else []) ++ b.waitingOf i x := by
        intro i
        simpa [hs, h.waiting i] using EventBus.waitingOf_take (b := c.bus) (i := i) (x := x) j
      have hh' : h'.id ≠ x := by
        have := hw j
        simp only [if_pos, List.filter_cons, List.filter_nil] at this
        intro e
        simp [e] at this
      refine ⟨fun i => ?_, ?_, h.buried⟩
      · by_cases hij : i = j
        · simpa [hij, hh'] using (hw i).symm
        · simpa [hij] using (hw i).symm
      · intro cp hcp
        rcases List.mem_append.1 hcp with hcp | hcp
        · exact h.taken cp hcp
        · simp only [List.mem_singleton] at hcp
          subst hcp
          exact hh'
  | nack j k =>
    cases hk : c.taken[k]? with
    | none => rwa [show c.step (.nack j k) = c by simp [BusClient.step, hk]]
    | some cp =>
      have hid := h.taken cp (List.mem_of_getElem? hk)
      rw [step_nack hk]
      refine ⟨fun i => ?_, ?_, ?_⟩
      · rw [EventBus.waitingOf_giveBack_of_not fun e => hid e.2]
        exact h.waiting i
      · intro cp' hcp'
        rcases List.mem_or_eq_of_mem_set hcp' with hcp' | rfl
        · exact h.taken cp' hcp'
        · exact hid
      · intro d hd
        rcases List.mem_append.1 hd with hd | hd
        · exact h.buried d hd
        · rcases EventBus.newDead_giveBack (b := c.bus) (j := j) (m := cp.msg) with hn | hn <;>
            simp_all
  | ack => exact h

theorem Absent.run (h : Absent c x) (calls : List BusCall)
    (hx : ∀ call ∈ calls, ∀ m, call.published? = some m → m.id ≠ x) : Absent (c.run calls) x := by
  induction calls generalizing c with
  | nil => exact h
  | cons call calls ih =>
    exact ih (h.step call (hx call (.head _))) fun call' hc => hx call' (.tail _ hc)

end BusClient

/-- Where the copies of a published message stand on one subscription: the next waits in its
inbox, or the client holds the last one and has not given it back, or no more will come. -/
inductive Stage where
  | waiting
  | held
  | finished
  deriving DecidableEq

namespace BusClient

variable {c c' : BusClient} {i j k : Nat} {m : Message} {st : Stage}

/-- The copies of `m` on subscription `i` once `m` is published: the client took `k` of them,
`m` at attempts one to `k`, and they stand at stage `st`; one was dead-lettered at most, and only
once they are finished. -/
structure Chain (c : BusClient) (i : Nat) (m : Message) (k : Nat) (st : Stage) : Prop where
  got : c.got i m.id = (List.range k).map m.redeliveredTimes
  waiting : c.bus.waitingOf i m.id = if st = .waiting then [m.redeliveredTimes k] else []
  held : c.held i m.id = if st = .held then 1 else 0
  last : ∀ cp ∈ c.taken, cp.sub = i → cp.msg.id = m.id → cp.nacked = false →
    cp.msg = m.redeliveredTimes (k - 1)
  positive : st = .held → 0 < k
  bound : c.bus.Bounded i (if st = .waiting then k + 1 else k)
  buried : (c.buriedOf i m.id).length ≤ if st = .finished then 1 else 0

theorem Chain.of_frame (h : Chain c i m k st) (hw : c'.bus.waitingOf i m.id = c.bus.waitingOf i m.id)
    (hl : c.bus.limits <+: c'.bus.limits) (ht : c'.taken = c.taken) (hb : c'.buried = c.buried) :
    Chain c' i m k st where
  got := by unfold BusClient.got; rw [ht]; exact h.got
  waiting := hw ▸ h.waiting
  held := by unfold BusClient.held; rw [ht]; exact h.held
  last := ht ▸ h.last
  positive := h.positive
  bound := h.bound.mono hl
  buried := by unfold BusClient.buriedOf; rw [hb]; exact h.buried

theorem Chain.publish (h : Absent c m.id) (hr : c.bus.Ranged) (hm : m.attempt = 1) (i : Nat) :
    ∃ st, Chain (c.step (.publish m)) i m 0 st := by
  have hm₀ : m.redeliveredTimes 0 = m := Message.redeliveredTimes_zero (by rw [hm]; decide)
  have hgot : c.got i m.id = [] := by
    simp only [BusClient.got, List.filterMap_eq_nil_iff]
    intro cp hcp
    simp [h.taken cp hcp]
  have hheld : c.held i m.id = 0 := by
    simp only [BusClient.held, List.countP_eq_zero]
    intro cp hcp
    simp [h.taken cp hcp]
  have hburied : c.buriedOf i m.id = [] := by
    simp only [BusClient.buriedOf, List.filterMap_eq_nil_iff]
    intro d hd
    simp [h.buried d hd]
  have hlast : ∀ cp ∈ (c.step (.publish m)).taken, cp.msg.id ≠ m.id := h.taken
  cases hi : c.bus.inboxes[i]? with
  | none =>
    refine ⟨.finished, by simp [hgot], ?_, by simp [hheld], fun cp hcp _ e => absurd e (hlast cp hcp), nofun,
      .inl rfl, by simp [hburied]⟩
    rw [EventBus.waitingOf_of_none (by simp [BusClient.step, EventBus.publish_getElem?, hi])]
    rfl
  | some ib =>
    have hw := EventBus.waitingOf_publish_self (b := c.bus) (m := m) hi
    rw [h.waiting i, List.nil_append] at hw
    by_cases ht : ib.topic = some m.topic
    · have hd : c.bus.limits[i]? = some ib.maxDeliveries := by simp [EventBus.limits, hi]
      refine ⟨.waiting, by simp [hgot], by simpa [ht, hm₀] using hw, by simp [hheld],
        fun cp hcp _ e => absurd e (hlast cp hcp), nofun,
        .inr ⟨ib.maxDeliveries, by simpa using hd, (hr.2 _ (List.mem_of_getElem? hd)).1⟩,
        by simp [hburied]⟩
    · refine ⟨.finished, by simp [hgot], by simpa [ht] using hw, by simp [hheld],
        fun cp hcp _ e => absurd e (hlast cp hcp), nofun, .inl rfl, by simp [hburied]⟩


theorem Chain.drop (h : Chain c i m k st) (j : Nat) :
    Chain (c.step (.drop j)) i m k (if i = j ∧ st = .waiting then .finished else st) := by
  have hl : c.bus.limits <+: (c.step (.drop j)).bus.limits := limits_step _
  by_cases hij : i = j
  · subst hij
    have hw : (c.bus.drop i).waitingOf i m.id = [] := by simp [EventBus.waitingOf_drop]
    cases st with
    | waiting =>
      -- no copy is left anywhere, and none will come
      rw [if_pos ⟨rfl, rfl⟩]
      have hh : c.held i m.id = 0 := by simpa using h.held
      have hb : (c.buriedOf i m.id).length ≤ 0 := by simpa using h.buried
      refine ⟨h.got, by simp [hw], by simp [step_drop, hh], h.last, nofun,
        (h.bound.le (Nat.le_succ k)).mono hl, by simp only [step_drop, buriedOf_withBus]; omega⟩
    | held | finished =>
      rw [if_neg (by simp)]
      exact h.of_frame (hw.trans (by simpa using h.waiting.symm)) hl rfl rfl
  · rw [if_neg (by simp [hij])]
    exact h.of_frame (by simp [BusClient.step, EventBus.waitingOf_drop, hij]) hl rfl rfl

theorem Chain.receive (h : Chain c i m k st) (j : Nat) :
    ∃ k' st', Chain (c.step (.receive j)) i m k' st' := by
  cases hout : (c.bus.take j).2 with
  | none => exact ⟨k, st, by rwa [step_receive_none hout]⟩
  | some h' =>
    rcases hs : c.bus.take j with ⟨b, out⟩
    simp only [hs] at hout
    subst hout
    have hstep := step_receive_some hs
    have hl : c.bus.limits <+: b.limits := by
      have := limits_step (c := c) (.receive j)
      rwa [hstep] at this
    have hw := EventBus.waitingOf_take (b := c.bus) (i := i) (x := m.id) j
    simp only [hs, Option.toList_some] at hw
    rw [hstep]
    by_cases hnew : j = i ∧ h'.id = m.id
    · -- the copy handed out is the copy of `m` that waited
      obtain ⟨rfl, hid⟩ := hnew
      rw [h.waiting] at hw
      cases st with
      | held | finished => simp [hid] at hw
      | waiting =>
        simp only [if_pos, List.filter_cons, hid, decide_true, List.filter_nil, List.singleton_append,
          List.cons.injEq] at hw
        obtain ⟨rfl, hrest⟩ := hw
        have hh : c.held j m.id = 0 := by simpa using h.held
        refine ⟨k + 1, .held, ?_, by simp [← hrest], ?_, ?_, fun _ => Nat.succ_pos k,
          by simpa using h.bound.mono hl, Nat.le_trans h.buried (by simp)⟩
        · rw [got_append_copy rfl, h.got, List.range_succ, List.map_append]
          simp
        · rw [held_append_copy rfl, hh]
          simp
        · intro cp hcp hs' hx hn
          rcases List.mem_append.1 hcp with hcp | hcp
          · exact (held_eq_zero hh cp hcp hs' hx hn).elim
          · simp only [List.mem_singleton] at hcp
            subst hcp
            simp
    · -- another copy: the chain of `m` on `i` does not move
      have hsame : b.waitingOf i m.id = c.bus.waitingOf i m.id := by
        by_cases hij : j = i
        · subst hij
          have : h'.id ≠ m.id := fun e => hnew ⟨rfl, e⟩
          simpa [this] using hw.symm
        · simpa [Ne.symm hij] using hw.symm
      refine ⟨k, st, ?_, hsame.trans h.waiting, ?_, ?_, h.positive, h.bound.mono hl, h.buried⟩
      · rw [got_append_copy rfl, h.got]
        simp [hnew]
      · rw [held_append_copy rfl, h.held]
        simp only [Nat.add_eq_left, ite_eq_right_iff, Nat.one_ne_zero, imp_false, not_and]
        exact fun hj hx => (hnew ⟨hj, hx⟩).elim
      · intro cp hcp hs' hx hn
        rcases List.mem_append.1 hcp with hcp | hcp
        · exact h.last cp hcp hs' hx hn
        · simp only [List.mem_singleton] at hcp
          subst hcp
          exact (hnew ⟨hs', hx⟩).elim

/-- Giving a copy back. The copy of `m` the client holds from `i` comes back to `i` one attempt later
while the attempt is under the limit, and is dead-lettered at the limit; giving back any other copy
leaves the chain of `m` on `i` where it was. -/
theorem Chain.nack (h : Chain c i m k st) (hm : m.attempt = 1) (hr : c.bus.Ranged) {n : Nat}
    (hg : c.GivesBackOnce (.nack j n)) : ∃ k' st', Chain (c.step (.nack j n)) i m k' st' := by
  obtain ⟨cp, hk, rfl, hfresh⟩ := hg
  have hcp := List.mem_of_getElem? hk
  have hbus := bus_nack (j := cp.sub) hk
  have hgot := got_set_nacked (i := i) (x := m.id) hk (taken_nack (j := cp.sub) hk)
  have hheld := held_set_nacked (i := i) (x := m.id) hk (taken_nack (j := cp.sub) hk)
  have hl : c.bus.limits <+: (c.step (.nack cp.sub n)).bus.limits := limits_step _
  have hafter : ∀ cp' ∈ (c.step (.nack cp.sub n)).taken, cp' ∈ c.taken ∨ cp' = { cp with nacked := true } := by
    rw [taken_nack hk]
    exact fun cp' h' => List.mem_or_eq_of_mem_set h'
  by_cases hmine : cp.sub = i ∧ cp.msg.id = m.id
  · obtain ⟨rfl, hid⟩ := hmine
    -- the client held a copy of `m` from `i`, so the chain is at `held`, and `cp` is the last copy
    have hst : st = .held := by
      have hpos := held_pos hcp rfl hid hfresh
      have := h.held
      cases st with
      | held => rfl
      | waiting | finished => simp at this; omega
    subst hst
    have hmsg := h.last cp hcp rfl hid hfresh
    have hk0 := h.positive rfl
    obtain ⟨d, hd, hkd⟩ : ∃ d, c.bus.limits[cp.sub]? = some d ∧ k ≤ d := by
      rcases h.bound with h0 | hb
      · simp at h0
        omega
      · simpa using hb
    obtain ⟨ib, hib, rfl⟩ : ∃ ib, c.bus.inboxes[cp.sub]? = some ib ∧ ib.maxDeliveries = d := by
      simpa [EventBus.limits] using hd
    have hdM := (hr.2 _ (List.mem_of_getElem? hd)).2
    have hatt : cp.msg.attempt = k := by
      rw [hmsg, Message.attempt_redeliveredTimes (m := m) (n := k - 1) (by omega), hm]
      omega
    have hheld0 : (c.step (.nack cp.sub n)).held cp.sub m.id = 0 := by
      rw [hheld, h.held]
      simp [hid, hfresh]
    have hnone := held_eq_zero hheld0
    have hwait : c.bus.waitingOf cp.sub m.id = [] := by simpa using h.waiting
    by_cases hdk : ib.maxDeliveries ≤ k
    · -- the last allowed delivery: the copy is dead-lettered and no more will come
      have hgb := EventBus.giveBack_of_le hib (m := cp.msg) (by omega)
      have hburied : (c.step (.nack cp.sub n)).buriedOf cp.sub m.id = c.buriedOf cp.sub m.id ++ [cp.msg] := by
        rw [buriedOf_append (buried_nack hk), hgb]
        simp [hid]
      have hb0 : (c.buriedOf cp.sub m.id).length ≤ 0 := by simpa using h.buried
      refine ⟨k, .finished, by rw [hgot, h.got], ?_, by rw [hheld0]; rfl, fun cp' h1 h2 h3 h4 => ?_, nofun,
        by simpa using h.bound.mono hl,
        by rw [hburied, List.length_append, List.length_singleton, if_pos rfl]; omega⟩
      · rw [hbus, hgb]
        simp [hwait]
      · exact (hnone cp' h1 h2 h3 h4).elim
    · -- under the limit: the copy comes back one attempt later
      have hgb := EventBus.giveBack_of_lt hib (m := cp.msg) (by omega)
      have hd' : (c.step (.nack cp.sub n)).bus.limits[cp.sub]? = some ib.maxDeliveries := by
        obtain ⟨t, ht⟩ := hl
        rw [← ht, List.getElem?_append_left (List.getElem?_eq_some_iff.1 hd).1, hd]
      refine ⟨k, .waiting, by rw [hgot, h.got], ?_, by rw [hheld0]; rfl, fun cp' h1 h2 h3 h4 => ?_, nofun,
        .inr ⟨ib.maxDeliveries, hd', by simp; omega⟩, ?_⟩
      · rw [hbus, hgb, EventBus.waitingOf_set hib, if_pos rfl, List.filter_append,
          ← EventBus.waitingOf_of_getElem? hib, hwait, hmsg, Message.redelivered_redeliveredTimes,
          Nat.sub_add_cancel hk0]
        simp
      · exact (hnone cp' h1 h2 h3 h4).elim
      · rw [buriedOf_append (buried_nack hk), hgb]
        simpa using h.buried
  · -- another copy: the chain of `m` on `i` does not move
    refine ⟨k, st, by rw [hgot, h.got], ?_, ?_, fun cp' h1 h2 h3 h4 => ?_, h.positive, h.bound.mono hl, ?_⟩
    · rw [hbus, EventBus.waitingOf_giveBack_of_not hmine]
      exact h.waiting
    · have hno : ¬(cp.sub = i ∧ cp.msg.id = m.id ∧ cp.nacked = false) := fun e => hmine ⟨e.1, e.2.1⟩
      rw [hheld, h.held, if_neg hno, Nat.sub_zero]
    · rcases hafter cp' h1 with h1 | rfl
      · exact h.last cp' h1 h2 h3 h4
      · simp at h4
    · rw [buriedOf_append (buried_nack hk)]
      rcases EventBus.newDead_giveBack (b := c.bus) (j := cp.sub) (m := cp.msg) with hn | hn
      · simpa [hn] using h.buried
      · simpa [hn, hmine] using h.buried

theorem Chain.step (h : Chain c i m k st) (hm : m.attempt = 1) (hr : c.bus.Ranged) {call : BusCall}
    (hg : c.GivesBackOnce call) (hx : ∀ m', call.published? = some m' → m'.id ≠ m.id) :
    ∃ k' st', Chain (c.step call) i m k' st' := by
  cases call with
  | limit n => exact ⟨k, st, h.of_frame rfl (limits_step _) rfl rfl⟩
  | subscribe t => exact ⟨k, st, h.of_frame (by simp) (limits_step _) rfl rfl⟩
  | drop j => exact ⟨k, _, h.drop j⟩
  | publish m' =>
    exact ⟨k, st, h.of_frame (EventBus.waitingOf_publish_of_ne (hx m' rfl)) (limits_step _) rfl rfl⟩
  | receive j => exact h.receive j
  | ack => exact ⟨k, st, h⟩
  | nack j n => exact h.nack hm hr hg

theorem Chain.run (h : Chain c i m k st) (hm : m.attempt = 1) (hr : c.bus.Ranged) {calls : List BusCall}
    (hg : c.Careful calls) (hx : ∀ call ∈ calls, ∀ m', call.published? = some m' → m'.id ≠ m.id) :
    ∃ k' st', Chain (c.run calls) i m k' st' := by
  induction calls generalizing c k st with
  | nil => exact ⟨k, st, h⟩
  | cons call calls ih =>
    obtain ⟨k', st', h'⟩ := h.step hm hr hg.1 (hx call (.head _))
    exact ih h' (ranged_step hr call) hg.2 fun call' hc => hx call' (.tail _ hc)

theorem dead_run {d₀ : List Message} (h : c.bus.dead = d₀ ++ c.buried.map Prod.snd) (calls : List BusCall) :
    (c.run calls).bus.dead = d₀ ++ (c.run calls).buried.map Prod.snd := by
  induction calls generalizing c with
  | nil => exact h
  | cons call calls ih => exact ih (dead_step h call)

theorem attempts_redeliveredTimes (hm : m.attempt = 1) (hk : k ≤ attemptMax) :
    ((List.range k).map m.redeliveredTimes).map (·.attempt) = List.range' 1 k := by
  induction k with
  | zero => rfl
  | succ k ih =>
    rw [List.range_succ, List.map_append, List.map_append, ih (by omega), List.range'_concat]
    simp [Message.attempt_redeliveredTimes (m := m) (n := k) (by omega), hm, Nat.add_comm]

end BusClient

open BusClient in
/-- Fan-out and redelivery on the event bus. Publishing puts a message once at the end of the inbox
of every subscription listening to its topic and changes no other inbox. Giving a copy back through
a subscription dead-letters it at that subscription's limit, and otherwise puts it back on that
same inbox one attempt later; acknowledging changes nothing. Over any run from a bus with no
subscriptions yet, by a client that publishes messages of distinct identities and gives back each
copy it took at most once, through the subscription that delivered it, every subscription delivers a
message published at attempt one as that message at attempts `1, …, k`, with `k` at most the
subscription's limit, and dead-letters it at most once; the dead letters are those the gives back
made. -/
theorem fans_out_and_redelivers_within_limit (b : EventBus) (calls : List BusCall)
    (fresh : b.inboxes = []) (ranged : 1 ≤ b.maxDeliveries ∧ b.maxDeliveries ≤ attemptMax)
    (careful : ({ bus := b } : BusClient).Careful calls)
    (distinct : ((calls.filterMap BusCall.published?).map (·.id)).Nodup) :
    (∀ (b : EventBus) (m : Message) (i : Nat), (b.publish m).inboxes[i]? = b.inboxes[i]?.map fun ib =>
        if ib.topic = some m.topic then { ib with waiting := ib.waiting ++ [m] } else ib) ∧
    (∀ (b : EventBus) (i : Nat) (ib : Inbox) (m : Message), b.inboxes[i]? = some ib →
        b.giveBack i m = if ib.maxDeliveries ≤ m.attempt then { b with dead := b.dead ++ [m] }
          else { b with inboxes := (b.inboxes.set i
            { ib with waiting := ib.waiting ++ [{ m with attempt := min (m.attempt + 1) attemptMax }] }) }) ∧
    (∀ (c : BusClient) (i n : Nat), c.step (.ack i n) = c) ∧
    (({ bus := b } : BusClient).run calls).bus.dead =
      b.dead ++ (({ bus := b } : BusClient).run calls).buried.map Prod.snd ∧
    ∀ m, .publish m ∈ calls → m.attempt = 1 → ∀ i ib,
      (({ bus := b } : BusClient).run calls).bus.inboxes[i]? = some ib →
      1 ≤ ib.maxDeliveries ∧ ∃ k ≤ ib.maxDeliveries,
        (({ bus := b } : BusClient).run calls).got i m.id = (List.range k).map m.redeliveredTimes ∧
        ((({ bus := b } : BusClient).run calls).got i m.id).map (·.attempt) = List.range' 1 k ∧
        ((({ bus := b } : BusClient).run calls).buriedOf i m.id).length ≤ 1 := by
  refine ⟨fun b m i => EventBus.publish_getElem? i, fun b i ib m hi => ?_, fun c i n => rfl,
    dead_run (by simp) calls, fun m hmem hm i ib hib => ?_⟩
  · by_cases hd : ib.maxDeliveries ≤ m.attempt
    · rw [if_pos hd, EventBus.giveBack_of_le hi hd]
    · rw [if_neg hd, EventBus.giveBack_of_lt hi (Nat.lt_of_not_le hd)]
      rfl
  have hr₀ : EventBus.Ranged b := ⟨ranged, by simp [EventBus.limits, fresh]⟩
  obtain ⟨pre, post, rfl⟩ := List.append_of_mem hmem
  -- `m` is the only published message with its identity
  have hids := distinct
  simp only [List.filterMap_append, List.filterMap_cons, BusCall.published?, List.map_append,
    List.map_cons, List.nodup_append, List.nodup_cons] at hids
  obtain ⟨-, ⟨hpost, -⟩, hdisj⟩ := hids
  have hpre : ∀ call ∈ pre, ∀ m', call.published? = some m' → m'.id ≠ m.id := by
    intro call hc m' hm' e
    exact hdisj _ (List.mem_map.2 ⟨m', List.mem_filterMap.2 ⟨call, hc, hm'⟩, rfl⟩) _ (.head _) e
  have hpost' : ∀ call ∈ post, ∀ m', call.published? = some m' → m'.id ≠ m.id := by
    intro call hc m' hm' e
    exact hpost (e ▸ List.mem_map.2 ⟨m', List.mem_filterMap.2 ⟨call, hc, hm'⟩, rfl⟩)
  -- no copy of `m` before it is published; its chain afterwards
  have habs : Absent (({ bus := b } : BusClient).run pre) m.id :=
    Absent.run ⟨fun i => EventBus.waitingOf_of_none (by simp [fresh]), by simp, by simp⟩ pre hpre
  have hrpre := ranged_run (c := { bus := b }) hr₀ pre
  obtain ⟨st, hstart⟩ := Chain.publish habs hrpre hm i
  have hcareful := careful_append careful
  obtain ⟨k, st', hend⟩ := hstart.run hm (ranged_step hrpre _) hcareful.2 hpost'
  have hrend := ranged_run (ranged_step hrpre (.publish m)) post
  rw [run_append, run_cons] at hib ⊢
  generalize ((({ bus := b } : BusClient).run pre).step (.publish m)).run post = c at hib hend hrend ⊢
  -- the subscription's limit bounds the copies taken
  have hd : c.bus.limits[i]? = some ib.maxDeliveries := by simp [EventBus.limits, hib]
  have hib1 := hrend.2 _ (List.mem_of_getElem? hd)
  have hk : k ≤ ib.maxDeliveries := by
    rcases hend.bound with h0 | ⟨d, hd', hle⟩
    · split at h0 <;> omega
    · rw [hd] at hd'
      cases hd'
      split at hle <;> omega
  refine ⟨hib1.1, k, hk, hend.got, by rw [hend.got]; exact attempts_redeliveredTimes hm (by omega), ?_⟩
  have := hend.buried
  split at this <;> omega

/-- One subscription under a limit of two: the message is given back once, then delivered again. -/
theorem fans_out_and_redelivers_under_limit_two :
    let m : Message := Message.fresh default "orders" "o-1" [] Instant.epoch
    let b : EventBus := ({} : EventBus).withMaxDeliveries 2
    let calls : List BusCall :=
      [.subscribe "orders", .publish m, .receive 0, .nack 0 0, .receive 0, .nack 0 1]
    (b.inboxes = [] ∧ (1 ≤ b.maxDeliveries ∧ b.maxDeliveries ≤ attemptMax) ∧
      ({ bus := b } : BusClient).Careful calls ∧
      ((calls.filterMap BusCall.published?).map (·.id)).Nodup) ∧
    ((∀ (b : EventBus) (m : Message) (i : Nat), (b.publish m).inboxes[i]? = b.inboxes[i]?.map fun ib =>
        if ib.topic = some m.topic then { ib with waiting := ib.waiting ++ [m] } else ib) ∧
    (∀ (b : EventBus) (i : Nat) (ib : Inbox) (m : Message), b.inboxes[i]? = some ib →
        b.giveBack i m = if ib.maxDeliveries ≤ m.attempt then { b with dead := b.dead ++ [m] }
          else { b with inboxes := (b.inboxes.set i
            { ib with waiting := ib.waiting ++ [{ m with attempt := min (m.attempt + 1) attemptMax }] }) }) ∧
    (∀ (c : BusClient) (i n : Nat), c.step (.ack i n) = c) ∧
    (({ bus := b } : BusClient).run calls).bus.dead =
      b.dead ++ (({ bus := b } : BusClient).run calls).buried.map Prod.snd ∧
    ∀ m, .publish m ∈ calls → m.attempt = 1 → ∀ i ib,
      (({ bus := b } : BusClient).run calls).bus.inboxes[i]? = some ib →
      1 ≤ ib.maxDeliveries ∧ ∃ k ≤ ib.maxDeliveries,
        (({ bus := b } : BusClient).run calls).got i m.id = (List.range k).map m.redeliveredTimes ∧
        ((({ bus := b } : BusClient).run calls).got i m.id).map (·.attempt) = List.range' 1 k ∧
        ((({ bus := b } : BusClient).run calls).buriedOf i m.id).length ≤ 1) :=
  ⟨⟨rfl, by decide, by decide, by decide⟩,
    fans_out_and_redelivers_within_limit _ _ rfl (by decide) (by decide) (by decide)⟩

/-- Giving one copy back twice breaks the bound: under a limit of two the subscription delivers the
message three times, at attempts one, two and two. -/
theorem giving_a_copy_back_twice_exceeds_the_limit :
    let m : Message := Message.fresh default "t" "k" [] Instant.epoch
    let c := ({ bus := ({} : EventBus).withMaxDeliveries 2 } : BusClient).run
      [.subscribe "t", .publish m, .receive 0, .nack 0 0, .nack 0 0, .receive 0, .receive 0]
    c.bus.limits = [2] ∧ (c.got 0 m.id).map (·.attempt) = [1, 2, 2] := by
  decide

end Fulfilment
