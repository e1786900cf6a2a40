import Fulfilment.Messaging.WorkQueue

/-!
Delivery on the work queue. Over any run, with identities from an injective source, every message
is in one place at a time and its deliveries count up from one, never past the limit, each with
a fresh receipt (`Inv`).
-/

namespace Fulfilment

namespace QueueEntry

def handed (e : QueueEntry) (r : String) (hide : Nat) : QueueEntry :=
  { e with receives := e.receives + 1, receipt := some r, hiddenUntil := some hide }

def delivery (e : QueueEntry) (r : String) : Delivery :=
  { messageId := e.id, receipt := r, body := e.body, receives := e.receives + 1 }

@[simp] theorem id_handed (e : QueueEntry) (r : String) (hide : Nat) : (e.handed r hide).id = e.id :=
  rfl

@[simp] theorem receives_handed (e : QueueEntry) (r : String) (hide : Nat) :
    (e.handed r hide).receives = e.receives + 1 :=
  rfl

end QueueEntry

namespace WorkQueue

/-- `es'` and `ds` are `es` after some of its entries visible at `now` were handed out, in order. -/
inductive Handed (hide now : Nat) : List QueueEntry → List QueueEntry → List Delivery → Prop
  | nil : Handed hide now [] [] []
  | keep {e es es' ds} : Handed hide now es es' ds → Handed hide now (e :: es) (e :: es') ds
  | hand {e es es' ds} (r : String) : e.visible now = true → Handed hide now es es' ds →
      Handed hide now (e :: es) (e.handed r hide :: es') (e.delivery r :: ds)

variable {hide now max n : Nat} {receiptOf : Nat → String}
  {es es' : List QueueEntry} {ds : List Delivery}

theorem Handed.refl (es : List QueueEntry) : Handed hide now es es [] := by
  induction es with
  | nil => exact .nil
  | cons e es ih => exact .keep ih

theorem handOut_full {e : QueueEntry} (h : max ≤ n) :
    handOut max hide now receiptOf (e :: es) n = (e :: es, []) := by
  simp [handOut, h]

theorem handOut_hidden {e : QueueEntry} (hmax : n < max) (hv : e.visible now = false) :
    handOut max hide now receiptOf (e :: es) n =
      (e :: (handOut max hide now receiptOf es n).1, (handOut max hide now receiptOf es n).2) := by
  simp [handOut, Nat.not_le.2 hmax, hv]

theorem handOut_visible {e : QueueEntry} (hmax : n < max) (hv : e.visible now = true) :
    handOut max hide now receiptOf (e :: es) n =
      (e.handed (receiptOf n) hide :: (handOut max hide now receiptOf es (n + 1)).1,
        e.delivery (receiptOf n) :: (handOut max hide now receiptOf es (n + 1)).2) := by
  simp [handOut, Nat.not_le.2 hmax, hv, QueueEntry.handed, QueueEntry.delivery]

theorem handed_handOut (es : List QueueEntry) (n : Nat) :
    Handed hide now es (handOut max hide now receiptOf es n).1 (handOut max hide now receiptOf es n).2 := by
  induction es generalizing n with
  | nil => exact .nil
  | cons e es ih =>
    by_cases hmax : max ≤ n
    · rw [handOut_full hmax]
      exact Handed.refl _
    · cases hv : e.visible now
      · rw [handOut_hidden (Nat.lt_of_not_le hmax) hv]
        exact .keep (ih n)
      · rw [handOut_visible (Nat.lt_of_not_le hmax) hv]
        exact .hand _ hv (ih (n + 1))

theorem receipts_handOut (es : List QueueEntry) (n : Nat) :
    (handOut max hide now receiptOf es n).2.map (·.receipt) =
      (List.range (handOut max hide now receiptOf es n).2.length).map fun j => receiptOf (n + j) := by
  induction es generalizing n with
  | nil => rfl
  | cons e es ih =>
    by_cases hmax : max ≤ n
    · simp [handOut_full hmax]
    · cases hv : e.visible now
      · rw [handOut_hidden (Nat.lt_of_not_le hmax) hv]
        exact ih n
      · rw [handOut_visible (Nat.lt_of_not_le hmax) hv, List.map_cons, ih (n + 1), List.length_cons,
          List.range_succ_eq_map, List.map_cons, List.map_map]
        simp [Function.comp_def, QueueEntry.delivery, Nat.add_assoc, Nat.add_comm 1]

theorem length_handOut (es : List QueueEntry) (n : Nat) :
    (handOut max hide now receiptOf es n).2.length + n ≤ max ∨ (handOut max hide now receiptOf es n).2 = [] := by
  induction es generalizing n with
  | nil => exact .inr rfl
  | cons e es ih =>
    by_cases hmax : max ≤ n
    · simp [handOut_full hmax]
    · cases hv : e.visible now
      · rw [handOut_hidden (Nat.lt_of_not_le hmax) hv]
        exact ih n
      · rw [handOut_visible (Nat.lt_of_not_le hmax) hv]
        left
        rcases ih (n + 1) with h | h
        · simp only [List.length_cons]
          omega
        · simp only [h, List.length_cons, List.length_nil]
          omega

theorem Handed.ids (h : Handed hide now es es' ds) : es'.map (·.id) = es.map (·.id) := by
  induction h with
  | nil => rfl
  | keep _ ih => simp [ih]
  | hand r _ _ ih => simp [QueueEntry.handed, ih]

theorem Handed.sublist (h : Handed hide now es es' ds) : (ds.map (·.messageId)).Sublist (es.map (·.id)) := by
  induction h with
  | nil => exact .slnil
  | keep _ ih => exact ih.cons _
  | hand r _ _ ih => exact ih.cons_cons _

theorem Handed.filter_eq_nil (h : Handed hide now es es' ds) {x : String} (hx : x ∉ es.map (·.id)) :
    ds.filter (·.messageId = x) = [] := by
  rw [List.filter_eq_nil_iff]
  intro d hd hdx
  have hmem := h.sublist.subset (List.mem_map_of_mem (f := (·.messageId)) hd)
  simp only [decide_eq_true_eq] at hdx
  rw [hdx] at hmem
  exact hx hmem

theorem Handed.delivered (h : Handed hide now es es' ds) :
    ∀ d ∈ ds, ∃ e ∈ es, e.visible now = true ∧ d = e.delivery d.receipt := by
  induction h with
  | nil => nofun
  | keep _ ih =>
    intro d hd
    obtain ⟨e, he, hv, hde⟩ := ih d hd
    exact ⟨e, .tail _ he, hv, hde⟩
  | @hand e es es' ds r hv _ ih =>
    intro d hd
    rcases List.mem_cons.1 hd with rfl | hd
    · exact ⟨e, .head _, hv, rfl⟩
    · obtain ⟨e', he', hv', hde⟩ := ih d hd
      exact ⟨e', .tail _ he', hv', hde⟩

theorem Handed.entry (h : Handed hide now es es' ds) (hnd : (es.map (·.id)).Nodup) :
    ∀ e' ∈ es', ∃ e ∈ es, (e' = e ∧ ds.filter (·.messageId = e.id) = []) ∨
      ∃ r, e.visible now = true ∧ e' = e.handed r hide ∧ ds.filter (·.messageId = e.id) = [e.delivery r] := by
  induction h with
  | nil => nofun
  | @keep e es es' ds hrest ih =>
    simp only [List.map_cons, List.nodup_cons] at hnd
    intro e' he'
    rcases List.mem_cons.1 he' with rfl | he'
    · exact ⟨e', .head _, .inl ⟨rfl, hrest.filter_eq_nil hnd.1⟩⟩
    · obtain ⟨e₀, he₀, hcase⟩ := ih hnd.2 e' he'
      exact ⟨e₀, .tail _ he₀, hcase⟩
  | @hand e es es' ds r hv hrest ih =>
    simp only [List.map_cons, List.nodup_cons] at hnd
    intro e' he'
    rcases List.mem_cons.1 he' with rfl | he'
    · exact ⟨e, .head _, .inr ⟨r, hv, rfl, by simp [QueueEntry.delivery, hrest.filter_eq_nil hnd.1]⟩⟩
    · obtain ⟨e₀, he₀, hcase⟩ := ih hnd.2 e' he'
      have hne : e.id ≠ e₀.id := fun hx => hnd.1 (by rw [hx]; exact List.mem_map_of_mem he₀)
      refine ⟨e₀, .tail _ he₀, ?_⟩
      simpa [List.filter_cons, QueueEntry.delivery, hne] using hcase

theorem Handed.source (h : Handed hide now es es' ds) (hnd : (es.map (·.id)).Nodup) :
    ∀ e ∈ es, (e ∈ es' ∧ ds.filter (·.messageId = e.id) = []) ∨
      ∃ r, e.visible now = true ∧ e.handed r hide ∈ es' ∧ ds.filter (·.messageId = e.id) = [e.delivery r] := by
  induction h with
  | nil => nofun
  | @keep e es es' ds hrest ih =>
    simp only [List.map_cons, List.nodup_cons] at hnd
    intro e₀ he₀
    rcases List.mem_cons.1 he₀ with rfl | he₀
    · exact .inl ⟨.head _, hrest.filter_eq_nil hnd.1⟩
    · rcases ih hnd.2 e₀ he₀ with ⟨hin, hf⟩ | ⟨r, hv, hin, hf⟩
      · exact .inl ⟨.tail _ hin, hf⟩
      · exact .inr ⟨r, hv, .tail _ hin, hf⟩
  | @hand e es es' ds r hv hrest ih =>
    simp only [List.map_cons, List.nodup_cons] at hnd
    intro e₀ he₀
    rcases List.mem_cons.1 he₀ with rfl | he₀
    · exact .inr ⟨r, hv, .head _, by simp [QueueEntry.delivery, hrest.filter_eq_nil hnd.1]⟩
    · have hne : e.id ≠ e₀.id := fun hx => hnd.1 (by rw [hx]; exact List.mem_map_of_mem he₀)
      rcases ih hnd.2 e₀ he₀ with ⟨hin, hf⟩ | ⟨r', hv', hin, hf⟩
      · exact .inl ⟨.tail _ hin, by simpa [QueueEntry.delivery, hne] using hf⟩
      · exact .inr ⟨r', hv', .tail _ hin, by simpa [QueueEntry.delivery, hne] using hf⟩

variable {q : WorkQueue} {visibility : Nat} {r : String}

theorem receive_entries :
    (q.receiveInRange max visibility now receiptOf).1.entries =
      (handOut max (now + visibility) now receiptOf (q.entries.filter fun e => !q.exhausted now e) 0).1 := by
  simp only [receiveInRange]

theorem receive_deliveries :
    (q.receiveInRange max visibility now receiptOf).2 =
      (handOut max (now + visibility) now receiptOf (q.entries.filter fun e => !q.exhausted now e) 0).2 := by
  simp only [receiveInRange]

theorem receive_dead :
    (q.receiveInRange max visibility now receiptOf).1.dead =
      q.dead ++ (q.entries.filter (q.exhausted now)).map fun e => ⟨e.id, e.body, e.receives⟩ := by
  simp only [receiveInRange]

@[simp] theorem receive_maxReceives : (q.receiveInRange max visibility now receiptOf).1.maxReceives = q.maxReceives := by
  simp only [receiveInRange]

@[simp] theorem ack_maxReceives : (q.ack r).maxReceives = q.maxReceives := rfl

@[simp] theorem ack_dead : (q.ack r).dead = q.dead := rfl

@[simp] theorem nack_maxReceives : (q.nack r).maxReceives = q.maxReceives := by
  unfold nack
  split <;> rfl

@[simp] theorem nack_dead : (q.nack r).dead = q.dead := by
  unfold nack
  split <;> rfl

theorem nack_entries_map {β : Type} (f : QueueEntry → β) (hf : ∀ e, f { e with hiddenUntil := none } = f e) :
    (q.nack r).entries.map f = q.entries.map f := by
  unfold nack
  split
  · rfl
  · next j _ =>
    apply List.ext_getElem?
    intro i
    simp only [List.getElem?_map, List.getElem?_modify]
    cases q.entries[i]? with
    | none => rfl
    | some e => by_cases hj : j = i <;> simp [hj, hf]

theorem ack_nack_of_stale (h : ∀ e ∈ q.entries, e.receipt ≠ some r) : q.ack r = q ∧ q.nack r = q := by
  constructor
  · have hkeep : q.entries.filter (fun e => e.receipt != some r) = q.entries :=
      List.filter_eq_self.2 fun e he => by simpa using h e he
    simp [ack, hkeep]
  · have hnone : q.entries.findIdx? (·.receipt == some r) = none := by
      rw [List.findIdx?_eq_none_iff]
      intro e he
      simpa using h e he
    simp [nack, hnone]

theorem mem_kept {e : QueueEntry} (he : e ∈ q.entries.filter fun e => !q.exhausted now e) :
    e ∈ q.entries ∧ (e.visible now = true → e.receives < q.maxReceives) := by
  obtain ⟨he, hk⟩ := List.mem_filter.1 he
  refine ⟨he, fun hv => ?_⟩
  simp only [exhausted, hv, Bool.true_and, Bool.not_eq_eq_eq_not, Bool.not_true, decide_eq_false_iff_not] at hk
  omega

theorem handed_receive (q : WorkQueue) (max visibility now : Nat) (receiptOf : Nat → String) :
    Handed (now + visibility) now (q.entries.filter fun e => !q.exhausted now e)
      (q.receiveInRange max visibility now receiptOf).1.entries (q.receiveInRange max visibility now receiptOf).2 := by
  rw [receive_entries, receive_deliveries]
  exact handed_handOut _ 0

theorem perm_placed_receive :
    ((q.receiveInRange max visibility now receiptOf).1.entries.map (·.id) ++
        (q.receiveInRange max visibility now receiptOf).1.dead.map (·.messageId)).Perm
      (q.entries.map (·.id) ++ q.dead.map (·.messageId)) := by
  rw [(handed_receive q max visibility now receiptOf).ids, receive_dead]
  have hsplit := ((List.filter_append_perm (q.exhausted now) q.entries).map (·.id))
  simp only [List.map_append, List.map_map] at hsplit ⊢
  refine List.Perm.trans ?_ (hsplit.append_right _)
  refine List.Perm.trans (List.Perm.append_left _ List.perm_append_comm) ?_
  rw [← List.append_assoc]
  exact List.Perm.append_right _ List.perm_append_comm

theorem ids_receive_sublist :
    ((q.receiveInRange max visibility now receiptOf).1.entries.map (·.id)).Sublist (q.entries.map (·.id)) := by
  rw [(handed_receive q max visibility now receiptOf).ids]
  exact List.filter_sublist.map _

theorem deliveries_receive_of (hnd : (q.entries.map (·.id)).Nodup) (x : String) :
    (q.receiveInRange max visibility now receiptOf).2.filter (·.messageId = x) = [] ∨
      ∃ e ∈ q.entries, e.id = x ∧ e.visible now = true ∧ e.receives < q.maxReceives ∧
        ∃ r, (q.receiveInRange max visibility now receiptOf).2.filter (·.messageId = x) = [e.delivery r] := by
  have hh := handed_receive q max visibility now receiptOf
  have hknd : ((q.entries.filter fun e => !q.exhausted now e).map (·.id)).Nodup :=
    hnd.sublist (List.filter_sublist.map _)
  by_cases hx : (q.receiveInRange max visibility now receiptOf).2.filter (·.messageId = x) = []
  · exact .inl hx
  · obtain ⟨d, hd⟩ := List.exists_mem_of_ne_nil _ hx
    obtain ⟨hd, hdx⟩ := List.mem_filter.1 hd
    obtain ⟨e, hek, hv, hde⟩ := hh.delivered d hd
    have hex : e.id = x := by
      rw [hde] at hdx
      exact of_decide_eq_true hdx
    obtain ⟨he, hlt⟩ := mem_kept hek
    rcases hh.source hknd e hek with ⟨-, hf⟩ | ⟨r, -, -, hf⟩
    · exact absurd (hex ▸ hf) hx
    · exact .inr ⟨e, he, hex, hv, hlt hv, r, hex ▸ hf⟩

theorem entries_receive_of (hnd : (q.entries.map (·.id)).Nodup) :
    ∀ e' ∈ (q.receiveInRange max visibility now receiptOf).1.entries, ∃ e ∈ q.entries,
      (e' = e ∧ (q.receiveInRange max visibility now receiptOf).2.filter (·.messageId = e.id) = []) ∨
      ∃ r, e.visible now = true ∧ e.receives < q.maxReceives ∧ e' = e.handed r (now + visibility) ∧
        (q.receiveInRange max visibility now receiptOf).2.filter (·.messageId = e.id) = [e.delivery r] := by
  have hh := handed_receive q max visibility now receiptOf
  intro e' he'
  obtain ⟨e, hek, hcase⟩ := hh.entry (hnd.sublist (List.filter_sublist.map _)) e' he'
  obtain ⟨he, hlt⟩ := mem_kept hek
  rcases hcase with hk | ⟨r, hv, hr, hf⟩
  · exact ⟨e, he, .inl hk⟩
  · exact ⟨e, he, .inr ⟨r, hv, hlt hv, hr, hf⟩⟩

theorem dead_receive_of :
    ∀ d ∈ (q.receiveInRange max visibility now receiptOf).1.dead, d ∈ q.dead ∨
      ∃ e ∈ q.entries, e.visible now = true ∧ q.maxReceives ≤ e.receives ∧ d = ⟨e.id, e.body, e.receives⟩ := by
  rw [receive_dead]
  intro d hd
  rcases List.mem_append.1 hd with hd | hd
  · exact .inl hd
  · obtain ⟨e, he, rfl⟩ := List.mem_map.1 hd
    obtain ⟨he, hx⟩ := List.mem_filter.1 he
    simp only [exhausted, Bool.and_eq_true, decide_eq_true_eq] at hx
    exact .inr ⟨e, he, hx.1, hx.2, rfl⟩

theorem receipts_receive :
    (q.receiveInRange max visibility now receiptOf).2.map (·.receipt) =
      (List.range (q.receiveInRange max visibility now receiptOf).2.length).map receiptOf := by
  rw [receive_deliveries, receipts_handOut]
  simp

theorem receive_hands_out :
    (q.receiveInRange max visibility now receiptOf).2.length ≤ max ∧
      ((q.receiveInRange max visibility now receiptOf).2.map (·.messageId)).Sublist (q.entries.map (·.id)) ∧
      ∀ d ∈ (q.receiveInRange max visibility now receiptOf).2, ∃ e ∈ q.entries,
        e.visible now = true ∧ e.receives < q.maxReceives ∧ d = e.delivery d.receipt := by
  have hh := handed_receive q max visibility now receiptOf
  refine ⟨?_, hh.sublist.trans (List.filter_sublist.map _), fun d hd => ?_⟩
  · rw [receive_deliveries]
    have hbound : (handOut max (now + visibility) now receiptOf (q.entries.filter fun e => !q.exhausted now e) 0).2.length
          + 0 ≤ max ∨
        (handOut max (now + visibility) now receiptOf (q.entries.filter fun e => !q.exhausted now e) 0).2 = [] :=
      length_handOut _ 0
    rcases hbound with hlen | hnil
    · omega
    · simp [hnil]
  · obtain ⟨e, hek, hv, hde⟩ := hh.delivered d hd
    obtain ⟨he, hlt⟩ := mem_kept hek
    exact ⟨e, he, hv, hlt hv, hde⟩

end WorkQueue

/-- What a client does with the work queue. A receive is made at a time in milliseconds;
acknowledgements name any receipt, stale ones and ones never issued included. -/
inductive QueueCall where
  | send (body : String)
  | receive (max visibility now : Nat)
  | ack (receipt : String)
  | nack (receipt : String)
  deriving DecidableEq, Repr

/-- A work queue and its client: the identities used so far, for messages and receipts alike,
the identities of the messages sent, and every delivery, each in the order it was made. -/
structure QueueClient where
  queue : WorkQueue
  used : Nat := 0
  sent : List String := []
  deliveries : List Delivery := []

namespace QueueClient

/-- One call; identities are taken from `fresh` in order. -/
def step (fresh : Nat → String) (c : QueueClient) : QueueCall → QueueClient
  | .send body =>
    { c with queue := c.queue.send (fresh c.used) body, used := c.used + 1, sent := c.sent ++ [fresh c.used] }
  | .receive max visibility now =>
    match c.queue.receive max visibility now fun k => fresh (c.used + k) with
    | some (q, ds) => { c with queue := q, used := c.used + ds.length, deliveries := c.deliveries ++ ds }
    | none => c
  | .ack r => { c with queue := c.queue.ack r }
  | .nack r => { c with queue := c.queue.nack r }

def run (fresh : Nat → String) (c : QueueClient) : List QueueCall → QueueClient
  | [] => c
  | call :: calls => (c.step fresh call).run fresh calls

def history (c : QueueClient) (x : String) : List Delivery := c.deliveries.filter (·.messageId = x)

def placed (c : QueueClient) : List String :=
  c.queue.entries.map (·.id) ++ c.queue.dead.map (·.messageId)

/-- What holds after every run: each message is in one place, and the queue holds sent messages
in the order they were sent; every identity in use was drawn from `fresh`; the deliveries of a
message count from one, never past the limit, with receipts never repeated; a queued entry has
been received as often as it was delivered, and its receipt is that of its latest delivery; a dead
letter used up all its receives. -/
structure Inv (fresh : Nat → String) (c : QueueClient) : Prop where
  positive : 1 ≤ c.queue.maxReceives
  once : c.placed.Nodup
  order : (c.queue.entries.map (·.id)).Sublist c.sent
  deadSent : ∀ d ∈ c.queue.dead, d.messageId ∈ c.sent
  sentIssued : ∀ x ∈ c.sent, ∃ j < c.used, x = fresh j
  deliveredIssued : ∀ d ∈ c.deliveries, (∃ j < c.used, d.receipt = fresh j) ∧ ∃ j < c.used, d.messageId = fresh j
  receipts : (c.deliveries.map (·.receipt)).Nodup
  counts : ∀ x, ∃ k ≤ c.queue.maxReceives, (c.history x).map (·.receives) = List.range' 1 k
  entries : ∀ e ∈ c.queue.entries, (c.history e.id).length = e.receives ∧ e.receives ≤ c.queue.maxReceives ∧
    e.receipt = (c.history e.id).getLast?.map (·.receipt)
  dead : ∀ d ∈ c.queue.dead, d.receives = c.queue.maxReceives

variable {fresh : Nat → String} {c : QueueClient}

theorem Inv.init (m : Nat) : Inv fresh { queue := WorkQueue.empty m } where
  positive := Nat.le_max_right _ _
  once := by simp [placed, WorkQueue.empty]
  order := by simp [WorkQueue.empty]
  deadSent := by simp [WorkQueue.empty]
  sentIssued := by simp
  deliveredIssued := by simp
  receipts := by simp
  counts x := ⟨0, Nat.zero_le _, by simp [history]⟩
  entries := by simp [WorkQueue.empty]
  dead := by simp [WorkQueue.empty]

@[simp] theorem step_send (body : String) :
    c.step fresh (.send body) =
      { c with queue := c.queue.send (fresh c.used) body, used := c.used + 1, sent := c.sent ++ [fresh c.used] } :=
  rfl

@[simp] theorem step_ack (r : String) : c.step fresh (.ack r) = { c with queue := c.queue.ack r } := rfl

@[simp] theorem step_nack (r : String) : c.step fresh (.nack r) = { c with queue := c.queue.nack r } := rfl

theorem step_receive_cases (fresh : Nat → String) (c : QueueClient) (max visibility now : Nat) :
    c.step fresh (.receive max visibility now) = c ∨
    c.step fresh (.receive max visibility now) =
      { c with
        queue := (c.queue.receiveInRange max visibility now fun k => fresh (c.used + k)).1
        used := c.used + (c.queue.receiveInRange max visibility now fun k => fresh (c.used + k)).2.length
        deliveries := c.deliveries ++ (c.queue.receiveInRange max visibility now fun k => fresh (c.used + k)).2 } := by
  by_cases stop : (!(c.queue.receiveInRange max visibility now fun k => fresh (c.used + k)).2.isEmpty &&
      decide (WorkQueue.clockLimitMs ≤ now + visibility)) = true
  · exact .inl (by simp [step, WorkQueue.receive, stop])
  · exact .inr (by simp [step, WorkQueue.receive, stop])

@[simp] theorem history_mk (q : WorkQueue) (u : Nat) (s : List String) (x : String) :
    ({ queue := q, used := u, sent := s, deliveries := c.deliveries } : QueueClient).history x = c.history x :=
  rfl

theorem Inv.placed_sent (h : Inv fresh c) : ∀ x ∈ c.placed, x ∈ c.sent := by
  intro x hx
  rcases List.mem_append.1 hx with hx | hx
  · exact h.order.subset hx
  · obtain ⟨d, hd, rfl⟩ := List.mem_map.1 hx
    exact h.deadSent d hd

theorem Inv.placedIssued (h : Inv fresh c) : ∀ x ∈ c.placed, ∃ j < c.used, x = fresh j :=
  fun x hx => h.sentIssued x (h.placed_sent x hx)

theorem placed_send (body : String) :
    (c.step fresh (.send body)).placed.Perm (fresh c.used :: c.placed) := by
  simp only [step_send, placed, WorkQueue.send, List.map_append, List.map_cons, List.map_nil,
    List.append_assoc, List.singleton_append]
  exact List.perm_middle

theorem placed_receive (max visibility now : Nat) :
    (c.step fresh (.receive max visibility now)).placed.Perm c.placed := by
  rcases step_receive_cases fresh c max visibility now with stops | within
  · exact List.Perm.of_eq (congrArg placed stops)
  · rw [within]
    exact WorkQueue.perm_placed_receive

theorem placed_ack (r : String) : (c.step fresh (.ack r)).placed.Sublist c.placed :=
  (List.filter_sublist.map _).append_right _

theorem placed_nack (r : String) : (c.step fresh (.nack r)).placed = c.placed := by
  simp [placed, WorkQueue.nack_entries_map (q := c.queue) (r := r) (·.id) fun _ => rfl]

theorem Inv.fresh_new (h : Inv fresh c) (hf : Function.Injective fresh) :
    fresh c.used ∉ c.placed ∧ ∀ d ∈ c.deliveries, d.messageId ≠ fresh c.used := by
  constructor
  · intro hx
    obtain ⟨j, hj, he⟩ := h.placedIssued _ hx
    exact Nat.ne_of_lt hj (hf he).symm
  · intro d hd hx
    obtain ⟨j, hj, he⟩ := (h.deliveredIssued d hd).2
    exact Nat.ne_of_lt hj (hf (hx ▸ he).symm)

theorem Inv.send (h : Inv fresh c) (hf : Function.Injective fresh) (body : String) :
    Inv fresh (c.step fresh (.send body)) := by
  obtain ⟨hnew, hnone⟩ := h.fresh_new hf
  have hplaced : (c.step fresh (.send body)).placed.Perm (fresh c.used :: c.placed) := placed_send body
  have hhist : c.history (fresh c.used) = [] := by
    simp only [history, List.filter_eq_nil_iff, decide_eq_true_eq]
    exact hnone
  refine ⟨h.positive, ?_, ?_, ?_, ?_, ?_, h.receipts, h.counts, ?_, h.dead⟩
  · rw [hplaced.nodup_iff, List.nodup_cons]
    exact ⟨hnew, h.once⟩
  · simp only [step_send, WorkQueue.send, List.map_append, List.map_cons, List.map_nil]
    exact h.order.append (.refl _)
  · intro d hd
    exact List.mem_append_left _ (h.deadSent d hd)
  · intro x hx
    rcases List.mem_append.1 hx with hx | hx
    · obtain ⟨j, hj, he⟩ := h.sentIssued x hx
      exact ⟨j, by simp; omega, he⟩
    · exact ⟨c.used, by simp, List.mem_singleton.1 hx⟩
  · intro d hd
    obtain ⟨⟨j, hj, he⟩, ⟨j', hj', he'⟩⟩ := h.deliveredIssued d hd
    exact ⟨⟨j, by simp; omega, he⟩, ⟨j', by simp; omega, he'⟩⟩
  · intro e he
    simp only [step_send, WorkQueue.send, List.mem_append, List.mem_singleton] at he
    rcases he with he | rfl
    · exact h.entries e he
    · simp [hhist]

theorem Inv.ack (h : Inv fresh c) (r : String) : Inv fresh (c.step fresh (.ack r)) := by
  exact ⟨h.positive, h.once.sublist (placed_ack r), (List.filter_sublist.map _).trans h.order, h.deadSent,
    h.sentIssued, h.deliveredIssued, h.receipts, h.counts,
    fun e he => h.entries e (List.mem_filter.1 he).1, h.dead⟩

theorem Inv.nack (h : Inv fresh c) (r : String) : Inv fresh (c.step fresh (.nack r)) := by
  have hids := WorkQueue.nack_entries_map (q := c.queue) (r := r) (·.id) fun _ => rfl
  have hview := WorkQueue.nack_entries_map (q := c.queue) (r := r)
    (fun e => (e.id, e.receives, e.receipt)) fun _ => rfl
  have hplaced : (c.step fresh (.nack r)).placed = c.placed := placed_nack r
  refine ⟨by simpa using h.positive, hplaced ▸ h.once, by simpa [hids] using h.order,
    by simpa using h.deadSent, h.sentIssued, h.deliveredIssued,
    h.receipts, by simpa using h.counts, fun e' he' => ?_, by simpa using h.dead⟩
  have hmem : (e'.id, e'.receives, e'.receipt) ∈ c.queue.entries.map fun e => (e.id, e.receives, e.receipt) := by
    rw [← hview]
    exact List.mem_map_of_mem he'
  obtain ⟨e, he, hee⟩ := List.mem_map.1 hmem
  simp only [Prod.mk.injEq] at hee
  obtain ⟨hid, hrec, hrcpt⟩ := hee
  simpa [← hid, ← hrec, ← hrcpt] using h.entries e he

/-- A receive keeps the invariant: the entries it dead-letters used up their receives, the
entries it hands out had receives to spare and get one delivery each, and its receipts are
identities not drawn before. -/
theorem Inv.receive (h : Inv fresh c) (hf : Function.Injective fresh) (max visibility now : Nat) :
    Inv fresh (c.step fresh (.receive max visibility now)) := by
  rcases step_receive_cases fresh c max visibility now with stops | within
  · rwa [stops]
  rw [within]
  have hnd : (c.queue.entries.map (·.id)).Nodup := h.once.sublist (List.sublist_append_left _ _)
  obtain ⟨R, hR⟩ : ∃ R, c.queue.receiveInRange max visibility now (fun k => fresh (c.used + k)) = R :=
    ⟨_, rfl⟩
  rw [hR]
  have hperm : (R.1.entries.map (·.id) ++ R.1.dead.map (·.messageId)).Perm c.placed := by
    rw [← hR]
    exact WorkQueue.perm_placed_receive
  have hds : ∀ x, R.2.filter (·.messageId = x) = [] ∨
      ∃ e ∈ c.queue.entries, e.id = x ∧ e.visible now = true ∧ e.receives < c.queue.maxReceives ∧
        ∃ r, R.2.filter (·.messageId = x) = [e.delivery r] := by
    rw [← hR]
    exact WorkQueue.deliveries_receive_of hnd
  have hentries : ∀ e' ∈ R.1.entries, ∃ e ∈ c.queue.entries,
      (e' = e ∧ R.2.filter (·.messageId = e.id) = []) ∨
      ∃ r, e.visible now = true ∧ e.receives < c.queue.maxReceives ∧ e' = e.handed r (now + visibility) ∧
        R.2.filter (·.messageId = e.id) = [e.delivery r] := by
    rw [← hR]
    exact WorkQueue.entries_receive_of hnd
  have hdead : ∀ d ∈ R.1.dead, d ∈ c.queue.dead ∨
      ∃ e ∈ c.queue.entries, e.visible now = true ∧ c.queue.maxReceives ≤ e.receives ∧
        d = ⟨e.id, e.body, e.receives⟩ := by
    rw [← hR]
    exact WorkQueue.dead_receive_of
  have hrcpt : R.2.map (·.receipt) = (List.range R.2.length).map fun k => fresh (c.used + k) := by
    rw [← hR]
    exact WorkQueue.receipts_receive
  have hmax : R.1.maxReceives = c.queue.maxReceives := by
    rw [← hR]
    exact WorkQueue.receive_maxReceives
  have hhist : ∀ x, ({ c with queue := R.1, used := c.used + R.2.length, deliveries := c.deliveries ++ R.2 } :
      QueueClient).history x = c.history x ++ R.2.filter (·.messageId = x) := by
    intro x
    simp [history, List.filter_append]
  -- a delivery of this receive names a queued message, under a receipt drawn now
  have hnewId : ∀ d ∈ R.2, ∃ j < c.used, d.messageId = fresh j := by
    intro d hd
    rcases hds d.messageId with hnil | ⟨e, he, hid, -⟩
    · exact absurd (List.mem_filter.2 ⟨hd, by simp⟩) (hnil ▸ List.not_mem_nil)
    · exact hid ▸ h.placedIssued e.id (List.mem_append_left _ (List.mem_map_of_mem he))
  have hnewReceipt : ∀ d ∈ R.2, ∃ k < R.2.length, d.receipt = fresh (c.used + k) := by
    intro d hd
    have hmem : d.receipt ∈ R.2.map (·.receipt) := List.mem_map_of_mem hd
    rw [hrcpt] at hmem
    obtain ⟨k, hk, he⟩ := List.mem_map.1 hmem
    exact ⟨k, List.mem_range.1 hk, he.symm⟩
  have hsub : (R.1.entries.map (·.id)).Sublist (c.queue.entries.map (·.id)) := by
    rw [← hR]
    exact WorkQueue.ids_receive_sublist
  refine ⟨hmax ▸ h.positive, (hperm.nodup_iff).2 h.once, hsub.trans h.order, ?_, ?_, ?_, ?_, ?_, ?_, ?_⟩
  · intro d hd
    rcases hdead d hd with hd | ⟨e, he, -, -, rfl⟩
    · exact h.deadSent d hd
    · exact h.order.subset (List.mem_map_of_mem he)
  · intro x hx
    obtain ⟨j, hj, he⟩ := h.sentIssued x hx
    exact ⟨j, by dsimp only; omega, he⟩
  · intro d hd
    rcases List.mem_append.1 hd with hd | hd
    · obtain ⟨⟨j, hj, he⟩, ⟨j', hj', he'⟩⟩ := h.deliveredIssued d hd
      exact ⟨⟨j, by dsimp only; omega, he⟩, ⟨j', by dsimp only; omega, he'⟩⟩
    · obtain ⟨k, hk, he⟩ := hnewReceipt d hd
      obtain ⟨j, hj, he'⟩ := hnewId d hd
      exact ⟨⟨c.used + k, by dsimp only; omega, he⟩, ⟨j, by dsimp only; omega, he'⟩⟩
  · rw [List.map_append, List.nodup_append]
    refine ⟨h.receipts, ?_, ?_⟩
    · rw [hrcpt]
      rw [List.Nodup, List.pairwise_map]
      exact List.nodup_range.imp fun hab heq => hab (by have := hf heq; omega)
    · intro a ha b hb hab
      obtain ⟨d, hd, rfl⟩ := List.mem_map.1 ha
      obtain ⟨d', hd', rfl⟩ := List.mem_map.1 hb
      obtain ⟨⟨j, hj, he⟩, -⟩ := h.deliveredIssued d hd
      obtain ⟨k, -, he'⟩ := hnewReceipt d' hd'
      have := hf (he.symm.trans (hab.trans he'))
      omega
  · intro x
    rw [hmax, hhist]
    rcases hds x with hnil | ⟨e, he, rfl, hv, hlt, r, hf'⟩
    · simpa [hnil] using h.counts x
    · obtain ⟨k, hk, hks⟩ := h.counts e.id
      have hlen : k = e.receives := by
        have := congrArg List.length hks
        simp only [List.length_map, List.length_range', (h.entries e he).1] at this
        omega
      subst hlen
      refine ⟨e.receives + 1, by omega, ?_⟩
      rw [hf', List.map_append, hks, List.range'_concat]
      simp [QueueEntry.delivery, Nat.add_comm]
  · intro e' he'
    rw [hmax, hhist]
    obtain ⟨e, he, hcase⟩ := hentries e' he'
    obtain ⟨hlen, hle, hrc⟩ := h.entries e he
    rcases hcase with ⟨rfl, hnil⟩ | ⟨r, -, hlt, rfl, hf'⟩
    · simpa [hnil] using h.entries e' he
    · refine ⟨?_, by simp only [QueueEntry.receives_handed]; omega, ?_⟩
      · rw [QueueEntry.id_handed, hf', List.length_append, hlen]
        simp
      · rw [QueueEntry.id_handed, hf', List.getLast?_concat]
        simp [QueueEntry.handed, QueueEntry.delivery]
  · intro d hd
    rw [hmax]
    rcases hdead d hd with hd | ⟨e, he, -, hge, rfl⟩
    · exact h.dead d hd
    · have := (h.entries e he).2.1
      simp only
      omega

theorem Inv.step (h : Inv fresh c) (hf : Function.Injective fresh) : ∀ call, Inv fresh (c.step fresh call)
  | .send body => h.send hf body
  | .receive max visibility now => h.receive hf max visibility now
  | .ack r => h.ack r
  | .nack r => h.nack r

theorem Inv.run (h : Inv fresh c) (hf : Function.Injective fresh) (calls : List QueueCall) :
    Inv fresh (c.run fresh calls) := by
  induction calls generalizing c with
  | nil => exact h
  | cons call calls ih => exact ih (h.step hf call)

@[simp] theorem maxReceives_step (call : QueueCall) :
    (c.step fresh call).queue.maxReceives = c.queue.maxReceives := by
  cases call with
  | receive max visibility now =>
    rcases step_receive_cases fresh c max visibility now with h | h <;> simp [h]
  | _ => simp [WorkQueue.send]

theorem maxReceives_run (calls : List QueueCall) : (c.run fresh calls).queue.maxReceives = c.queue.maxReceives := by
  induction calls generalizing c with
  | nil => rfl
  | cons call calls ih => rw [run, ih, maxReceives_step]

theorem Inv.deleted_by_ack (h : Inv fresh c) (call : QueueCall) {x : String} (hx : x ∈ c.placed)
    (hgone : x ∉ (c.step fresh call).placed) :
    ∃ r, call = .ack r ∧ (c.history x).getLast?.map (·.receipt) = some r := by
  cases call with
  | send body => exact absurd ((placed_send body).symm.subset (List.mem_cons_of_mem _ hx)) hgone
  | receive max visibility now => exact absurd ((placed_receive max visibility now).symm.subset hx) hgone
  | nack r => exact absurd ((placed_nack r).symm ▸ hx) hgone
  | ack r =>
    refine ⟨r, rfl, ?_⟩
    rcases List.mem_append.1 hx with hx | hx
    · obtain ⟨e, he, rfl⟩ := List.mem_map.1 hx
      have hr : e.receipt = some r := by
        by_cases hr : e.receipt = some r
        · exact hr
        · have hkept : e ∈ (c.queue.ack r).entries := List.mem_filter.2 ⟨he, by simpa using hr⟩
          exact absurd (List.mem_append_left _ (List.mem_map_of_mem hkept)) hgone
      rw [← (h.entries e he).2.2, hr]
    · exact absurd (List.mem_append_right _ hx) hgone

theorem Inv.deleted_stays (h : Inv fresh c) (hf : Function.Injective fresh) (call : QueueCall) {x : String}
    (hs : x ∈ c.sent) (hx : x ∉ c.placed) : x ∉ (c.step fresh call).placed := by
  cases call with
  | send body =>
    intro hx'
    rcases List.mem_cons.1 ((placed_send body).subset hx') with rfl | hx'
    · obtain ⟨j, hj, he⟩ := h.sentIssued _ hs
      exact Nat.ne_of_lt hj (hf he).symm
    · exact hx hx'
  | receive max visibility now => exact fun hx' => hx ((placed_receive max visibility now).subset hx')
  | ack r => exact fun hx' => hx ((placed_ack r).subset hx')
  | nack r => rwa [placed_nack]

theorem queued_of_sent (call : QueueCall) {x : String} (hx : x ∈ (c.step fresh call).sent) (hnew : x ∉ c.sent) :
    x ∈ (c.step fresh call).queue.entries.map (·.id) := by
  cases call with
  | send body =>
    simp only [step_send, List.mem_append, List.mem_singleton] at hx
    rcases hx with hx | rfl
    · exact absurd hx hnew
    · simp [WorkQueue.send]
  | receive max visibility now =>
    rcases step_receive_cases fresh c max visibility now with h | h <;> rw [h] at hx <;> exact absurd hx hnew
  | ack r => exact absurd hx hnew
  | nack r => exact absurd hx hnew

theorem Inv.hands_out (h : Inv fresh c) (call : QueueCall) :
    ∃ ds, (c.step fresh call).deliveries = c.deliveries ++ ds ∧ (ds = [] ∨
      ∃ max visibility now, call = .receive max visibility now ∧ ds.length ≤ max ∧
        (ds.map (·.messageId)).Nodup ∧ (ds.map (·.messageId)).Sublist c.sent ∧
        ∀ d ∈ ds, ∃ e ∈ c.queue.entries, e.visible now = true ∧ e.receives < c.queue.maxReceives ∧
          d = e.delivery d.receipt) := by
  cases call with
  | receive max visibility now =>
    rcases step_receive_cases fresh c max visibility now with stops | within
    · exact ⟨[], by rw [stops, List.append_nil], .inl rfl⟩
    obtain ⟨hlen, hsub, hfrom⟩ :
        (c.queue.receiveInRange max visibility now fun k => fresh (c.used + k)).2.length ≤ max ∧ _ ∧ _ :=
      WorkQueue.receive_hands_out
    have hnd : (c.queue.entries.map (·.id)).Nodup := h.once.sublist (List.sublist_append_left _ _)
    exact ⟨_, by rw [within], .inr ⟨max, visibility, now, rfl, hlen, hnd.sublist hsub, hsub.trans h.order, hfrom⟩⟩
  | send body => exact ⟨[], (List.append_nil _).symm, .inl rfl⟩
  | ack r => exact ⟨[], (List.append_nil _).symm, .inl rfl⟩
  | nack r => exact ⟨[], (List.append_nil _).symm, .inl rfl⟩

theorem Inv.dead_letters (h : Inv fresh c) (call : QueueCall) :
    ∃ new, (c.step fresh call).queue.dead = c.queue.dead ++ new ∧ ∀ d ∈ new,
      ∃ max visibility now, call = .receive max visibility now ∧ ∃ e ∈ c.queue.entries,
        e.visible now = true ∧ e.receives = c.queue.maxReceives ∧ d = ⟨e.id, e.body, e.receives⟩ := by
  cases call with
  | receive max visibility now =>
    rcases step_receive_cases fresh c max visibility now with stops | within
    · exact ⟨[], by rw [stops, List.append_nil], nofun⟩
    refine ⟨_, by rw [within]; exact WorkQueue.receive_dead, fun d hd => ?_⟩
    obtain ⟨e, he, rfl⟩ := List.mem_map.1 hd
    obtain ⟨he, hx⟩ := List.mem_filter.1 he
    simp only [WorkQueue.exhausted, Bool.and_eq_true, decide_eq_true_eq] at hx
    have hle := (h.entries e he).2.1
    exact ⟨max, visibility, now, rfl, e, he, hx.1, by omega, rfl⟩
  | send body => exact ⟨[], (List.append_nil _).symm, nofun⟩
  | ack r => exact ⟨[], (List.append_nil _).symm, nofun⟩
  | nack r => exact ⟨[], by simp, nofun⟩

theorem Inv.stale (h : Inv fresh c) {r : String}
    (hr : ∀ e ∈ c.queue.entries, (c.history e.id).getLast?.map (·.receipt) ≠ some r) :
    c.step fresh (.ack r) = c ∧ c.step fresh (.nack r) = c := by
  have hstale : ∀ e ∈ c.queue.entries, e.receipt ≠ some r := fun e he => (h.entries e he).2.2 ▸ hr e he
  obtain ⟨hack, hnack⟩ := WorkQueue.ack_nack_of_stale hstale
  simp [hack, hnack]

/-- What one call of a client does with a work queue whose messages may be received `m` times. -/
structure Contract (m : Nat) (c : QueueClient) (call : QueueCall) (c' : QueueClient) : Prop where
  /-- Each message is queued or dead-lettered, once, or neither. -/
  once : c'.placed.Nodup
  onlySent : ∀ x ∈ c'.placed, x ∈ c'.sent
  queuedWhenSent : ∀ x ∈ c'.sent, x ∉ c.sent → x ∈ c'.queue.entries.map (·.id)
  /-- A sent message that is neither queued nor dead-lettered is deleted, for good. -/
  deletedStays : ∀ x ∈ c.sent, x ∉ c.placed → x ∉ c'.placed
  deletedByAck : ∀ x ∈ c.placed, x ∉ c'.placed →
    ∃ r, call = .ack r ∧ (c.history x).getLast?.map (·.receipt) = some r
  counts : ∀ x, ∃ k ≤ m, (c'.history x).map (·.receives) = List.range' 1 k
  freshReceipts : (c'.deliveries.map (·.receipt)).Nodup
  handsOut : ∃ ds, c'.deliveries = c.deliveries ++ ds ∧ (ds = [] ∨
    ∃ max visibility now, call = .receive max visibility now ∧ ds.length ≤ max ∧
      (ds.map (·.messageId)).Nodup ∧ (ds.map (·.messageId)).Sublist c.sent ∧
      ∀ d ∈ ds, ∃ e ∈ c.queue.entries, e.visible now = true ∧ e.receives < m ∧ d = e.delivery d.receipt)
  sendOrder : (c'.queue.entries.map (·.id)).Sublist c'.sent
  deadLetters : ∃ new, c'.queue.dead = c.queue.dead ++ new ∧ ∀ d ∈ new,
    ∃ max visibility now, call = .receive max visibility now ∧ ∃ e ∈ c.queue.entries,
      e.visible now = true ∧ e.receives = m ∧ d = ⟨e.id, e.body, e.receives⟩
  stale : ∀ r, (∀ e ∈ c.queue.entries, (c.history e.id).getLast?.map (·.receipt) ≠ some r) →
    (call = .ack r ∨ call = .nack r) → c' = c

theorem Inv.contract (h : Inv fresh c) (hf : Function.Injective fresh) (call : QueueCall) :
    Contract c.queue.maxReceives c call (c.step fresh call) where
  once := (h.step hf call).once
  onlySent := (h.step hf call).placed_sent
  queuedWhenSent _ hx hnew := queued_of_sent call hx hnew
  deletedStays _ hs hx := h.deleted_stays hf call hs hx
  deletedByAck _ hx hgone := h.deleted_by_ack call hx hgone
  counts := by simpa using (h.step hf call).counts
  freshReceipts := (h.step hf call).receipts
  handsOut := h.hands_out call
  sendOrder := (h.step hf call).order
  deadLetters := h.dead_letters call
  stale r hr hcall := by
    rcases hcall with rfl | rfl
    · exact (h.stale hr).1
    · exact (h.stale hr).2

/-- Every call of every run on a work queue made with limit `m`, from identities drawn from an
injective source, meets the contract with limit `max m 1`. -/
theorem every_call_meets_contract (m : Nat) (hf : Function.Injective fresh) (calls : List QueueCall)
    (call : QueueCall) :
    Contract (max m 1) (run fresh { queue := WorkQueue.empty m } calls) call
      ((run fresh { queue := WorkQueue.empty m } calls).step fresh call) := by
  have h : Inv fresh (run fresh { queue := WorkQueue.empty m } calls) := (Inv.init m).run hf calls
  have hm : (run fresh { queue := WorkQueue.empty m } calls).queue.maxReceives = max m 1 := by
    rw [maxReceives_run]
    rfl
  exact hm ▸ h.contract hf call

def tally (n : Nat) : String := String.ofList (List.replicate n 'r')

theorem tally_injective : Function.Injective tally := by
  intro a b hab
  have := congrArg List.length (String.ofList_injective hab)
  simpa using this

theorem every_call_meets_contract_on_tally :
    Function.Injective tally ∧
      Contract (max 2 1) (run tally { queue := WorkQueue.empty 2 } [.send "a", .receive 1 30 0]) (.ack (tally 1))
        ((run tally { queue := WorkQueue.empty 2 } [.send "a", .receive 1 30 0]).step tally (.ack (tally 1))) :=
  ⟨tally_injective, every_call_meets_contract 2 tally_injective _ _⟩

end QueueClient

end Fulfilment
