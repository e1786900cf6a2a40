import Fulfilment.Messaging.EventBus
import Mathlib.Data.List.DropRight

/-!
The published history of the event bus. Publishing forgets the oldest message only when the
history is exactly full, so the bound holds only while no builder call sets it below what the
bus already remembers.
-/

namespace Fulfilment

/-- What the owner of a bus does that touches its history: a publish, and the two builders, which
set the history bound and the delivery limit of later subscriptions. -/
inductive HistoryCall where
  | publish (m : Message)
  | history (n : Nat)
  | limit (n : UInt32)
  deriving DecidableEq, Repr

namespace HistoryCall

def published? : HistoryCall → Option Message
  | .publish m => some m
  | _ => none

def bound? : HistoryCall → Option Nat
  | .history n => some n
  | _ => none

def publishedBy (calls : List HistoryCall) : List Message := calls.filterMap published?

@[simp] theorem publishedBy_nil : publishedBy [] = [] := rfl

@[simp] theorem publishedBy_cons (call : HistoryCall) (calls : List HistoryCall) :
    publishedBy (call :: calls) = call.published?.toList ++ publishedBy calls := by
  cases call <;> rfl

end HistoryCall

namespace EventBus

def handle (b : EventBus) : HistoryCall → EventBus
  | .publish m => b.publish m
  | .history n => b.withHistory n
  | .limit n => b.withMaxDeliveries n.toNat

def handleAll (b : EventBus) (calls : List HistoryCall) : EventBus := calls.foldl handle b

def WithinHistory (b : EventBus) : Prop := b.published.length ≤ b.history

/-- A call that sets no bound below the number of messages the bus remembers. -/
def Covers (b : EventBus) : HistoryCall → Prop
  | .history n => b.published.length ≤ n
  | _ => True

/-- Every call of a run sets no bound below what the bus remembers when it is made. -/
def CoversAll (b : EventBus) : List HistoryCall → Prop
  | [] => True
  | call :: calls => b.Covers call ∧ (b.handle call).CoversAll calls

instance decWithinHistory (b : EventBus) : Decidable b.WithinHistory := inferInstanceAs (Decidable (_ ≤ _))

instance decCovers (b : EventBus) : (call : HistoryCall) → Decidable (b.Covers call)
  | .history n => inferInstanceAs (Decidable (_ ≤ n))
  | .publish _ | .limit _ => isTrue trivial

instance decCoversAll : (b : EventBus) → (calls : List HistoryCall) → Decidable (b.CoversAll calls)
  | _, [] => isTrue trivial
  | b, call :: calls =>
    have := decCoversAll (b.handle call) calls
    inferInstanceAs (Decidable (b.Covers call ∧ (b.handle call).CoversAll calls))

variable {b : EventBus} {m : Message} {call : HistoryCall} {calls : List HistoryCall} {L : List Message}

@[simp] theorem published_withHistory (n : Nat) : (b.withHistory n).published = b.published := rfl

@[simp] theorem history_withHistory (n : Nat) : (b.withHistory n).history = n := rfl

@[simp] theorem published_withMaxDeliveries (n : Nat) :
    (b.withMaxDeliveries n).published = b.published := rfl

@[simp] theorem history_withMaxDeliveries (n : Nat) : (b.withMaxDeliveries n).history = b.history :=
  rfl

@[simp] theorem published_publish : (b.publish m).published = b.remember m := rfl

@[simp] theorem history_publish : (b.publish m).history = b.history := rfl

@[simp] theorem handle_publish : b.handle (.publish m) = b.publish m := rfl

@[simp] theorem handle_history (n : Nat) : b.handle (.history n) = b.withHistory n := rfl

@[simp] theorem handle_limit (n : UInt32) : b.handle (.limit n) = b.withMaxDeliveries n.toNat := rfl

@[simp] theorem handleAll_nil : b.handleAll [] = b := rfl

@[simp] theorem handleAll_cons : b.handleAll (call :: calls) = (b.handle call).handleAll calls := rfl

theorem length_rtake {α : Type} (l : List α) (n : Nat) : (l.rtake n).length = min l.length n := by
  simp only [List.rtake, List.length_drop]
  omega

theorem rtake_eq_self {α : Type} {l : List α} {n : Nat} (short : l.length ≤ n) : l.rtake n = l := by
  simp [List.rtake, Nat.sub_eq_zero_of_le short]

theorem rtake_concat_rtake {α : Type} (l : List α) (x : α) (n : Nat) :
    (l.rtake n ++ [x]).rtake n = (l ++ [x]).rtake n := by
  cases n with
  | zero => simp [List.rtake_zero]
  | succ n =>
    rw [List.rtake_concat_succ, List.rtake_concat_succ]
    simp only [List.rtake, List.length_drop, List.drop_drop]
    congr 2
    omega

theorem remember_of_within (within : b.WithinHistory) :
    b.remember m = (b.published ++ [m]).rtake b.history := by
  unfold WithinHistory at within
  unfold remember
  split
  · next empty =>
    have none : b.published = [] := List.eq_nil_of_length_eq_zero (by omega)
    simp [none, empty, List.rtake_zero]
  · split
    · next full =>
      -- a full history forgets exactly its oldest message
      have drop_one : (b.published ++ [m]).length - b.history = 1 := by simp [full]
      rw [List.rtake, drop_one, List.drop_append_of_le_length (by omega)]
    · next short => rw [rtake_eq_self (by simp; omega)]

theorem within_of_rtake (last : b.published = L.rtake b.history) : b.WithinHistory := by
  unfold WithinHistory
  rw [last, length_rtake]
  exact Nat.min_le_right _ _

theorem within_publish (within : b.WithinHistory) : (b.publish m).WithinHistory :=
  within_of_rtake (L := b.published ++ [m]) (remember_of_within within)

theorem within_handle_iff (within : b.WithinHistory) : (b.handle call).WithinHistory ↔ b.Covers call := by
  cases call with
  | publish m => simpa [Covers] using within_publish within
  | history n => simp [WithinHistory, Covers]
  | limit n => simpa [WithinHistory, Covers] using within

theorem within_prefixes_iff (within : b.WithinHistory) :
    (∀ pre, pre <+: calls → (b.handleAll pre).WithinHistory) ↔ b.CoversAll calls := by
  induction calls generalizing b with
  | nil => simpa [CoversAll] using within
  | cons call calls ih =>
    rw [CoversAll, ← within_handle_iff within]
    constructor
    · intro all
      have first : (b.handle call).WithinHistory := all [call] (by simp)
      exact ⟨first, (ih first).1 fun pre hpre => all (call :: pre) (List.cons_prefix_cons.2 ⟨rfl, hpre⟩)⟩
    · rintro ⟨first, rest⟩ pre hpre
      rcases List.prefix_cons_iff.1 hpre with rfl | ⟨tail, rfl, htail⟩
      · exact within
      · exact (ih first).2 rest tail htail

/-- A publish and then a bound of zero sets the bound below what the bus remembers. -/
example : ¬ ({} : EventBus).CoversAll [.publish (Message.fresh default "a" "1" [] Instant.epoch), .history 0] := by
  decide

theorem published_handle_suffix (within : b.WithinHistory) (suffix : b.published <:+ L) :
    (b.handle call).published <:+ L ++ call.published?.toList := by
  cases call with
  | publish m =>
    rw [handle_publish, published_publish, remember_of_within within]
    exact (List.drop_suffix _ _).trans (List.suffix_append_self_iff.2 suffix)
  | history n => simpa [HistoryCall.published?] using suffix
  | limit n => simpa [HistoryCall.published?] using suffix

theorem published_handleAll_suffix (within : b.WithinHistory) (covers : b.CoversAll calls)
    (suffix : b.published <:+ L) :
    (b.handleAll calls).published <:+ L ++ HistoryCall.publishedBy calls := by
  induction calls generalizing b L with
  | nil => simpa using suffix
  | cons call calls ih =>
    obtain ⟨first, rest⟩ := covers
    have step : (b.handle call).published <:+ L ++ call.published?.toList :=
      published_handle_suffix within suffix
    rw [handleAll_cons, HistoryCall.publishedBy_cons, ← List.append_assoc]
    exact ih ((within_handle_iff within).2 first) rest step

theorem published_handle_of_fixed {h : Nat} (bound : b.history = h) (last : b.published = L.rtake h)
    (fixed : ∀ n, call.bound? = some n → n = h) :
    (b.handle call).history = h ∧ (b.handle call).published = (L ++ call.published?.toList).rtake h := by
  subst bound
  have within := within_of_rtake last
  cases call with
  | publish m =>
    simp only [handle_publish, history_publish, published_publish, remember_of_within within, last,
      HistoryCall.published?, Option.toList_some, true_and]
    exact rtake_concat_rtake L m b.history
  | history n =>
    have same := fixed n rfl
    simp [HistoryCall.published?, same, last]
  | limit n => simp [HistoryCall.published?, last]

theorem published_handleAll_of_fixed {h : Nat} (bound : b.history = h) (last : b.published = L.rtake h)
    (fixed : ∀ call ∈ calls, ∀ n, call.bound? = some n → n = h) :
    (b.handleAll calls).published = (L ++ HistoryCall.publishedBy calls).rtake h := by
  induction calls generalizing b L with
  | nil => simpa using last
  | cons call calls ih =>
    obtain ⟨same, step⟩ := published_handle_of_fixed bound last (fixed call (List.mem_cons_self ..))
    rw [handleAll_cons, HistoryCall.publishedBy_cons, ← List.append_assoc]
    exact ih same step fun c hc => fixed c (List.mem_cons_of_mem _ hc)

end EventBus

open EventBus in
/-- The published history of the bus. Over any run of publishes and builder calls from a bus that
remembers no more than its bound: the bound holds after every prefix of the run exactly when no
call sets it below the number of messages the bus remembers at that point; then the bus remembers
the latest of the messages published, oldest first; and while every builder call keeps the bound
at `h`, the bus remembers exactly the last `min n h` of what it remembered and the `n` published
since (none when `h` is zero). -/
theorem remembers_latest_publishes (b : EventBus) (calls : List HistoryCall) (within : b.WithinHistory) :
    ((∀ pre, pre <+: calls → (b.handleAll pre).WithinHistory) ↔ b.CoversAll calls) ∧
    (b.CoversAll calls →
      (b.handleAll calls).published <:+ b.published ++ HistoryCall.publishedBy calls) ∧
    ((∀ call ∈ calls, ∀ n, call.bound? = some n → n = b.history) →
      (b.handleAll calls).published = (b.published ++ HistoryCall.publishedBy calls).rtake b.history ∧
      (b.handleAll calls).published.length =
        min (b.published.length + (HistoryCall.publishedBy calls).length) b.history) := by
  refine ⟨within_prefixes_iff within, fun covers => published_handleAll_suffix within covers (List.suffix_refl _),
    fun fixed => ?_⟩
  have kept := published_handleAll_of_fixed rfl (rtake_eq_self within).symm fixed
  exact ⟨kept, by rw [kept, length_rtake, List.length_append]⟩

open EventBus in
/-- The history over three publishes on a bus built to keep two messages. -/
theorem remembers_latest_of_three_publishes :
    let m := fun key => Message.fresh default "a" key [] Instant.epoch
    let b := ({} : EventBus).withHistory 2
    let calls : List HistoryCall := [.publish (m "1"), .publish (m "2"), .publish (m "3")]
    b.WithinHistory ∧
    (((∀ pre, pre <+: calls → (b.handleAll pre).WithinHistory) ↔ b.CoversAll calls) ∧
    (b.CoversAll calls →
      (b.handleAll calls).published <:+ b.published ++ HistoryCall.publishedBy calls) ∧
    ((∀ call ∈ calls, ∀ n, call.bound? = some n → n = b.history) →
      (b.handleAll calls).published = (b.published ++ HistoryCall.publishedBy calls).rtake b.history ∧
      (b.handleAll calls).published.length =
        min (b.published.length + (HistoryCall.publishedBy calls).length) b.history)) :=
  ⟨by decide, remembers_latest_publishes _ _ (by decide)⟩

/-- A bound lowered on a bus in use is not kept: after three publishes, a bound of zero and a fourth
publish, the bus keeps no bound's worth but all of the first three messages, and not the fourth. -/
theorem lowered_history_keeps_older_publishes :
    let m := fun key => Message.fresh default "a" key [] Instant.epoch
    let b := ({} : EventBus).handleAll
      [.publish (m "1"), .publish (m "2"), .publish (m "3"), .history 0, .publish (m "4")]
    b.history = 0 ∧ b.published = [m "1", m "2", m "3"] :=
  ⟨rfl, rfl⟩

end Fulfilment
