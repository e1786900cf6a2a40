import Fulfilment.Config.Settings
import Fulfilment.Messaging.WorkQueue
import Fulfilment.Proofs.QuantityText

/-!
Reading the settings: a chain of thirteen reads, each of which ends it with its refusal or passes
its number on (`unsigned_bind`), so the chain ends with its first refusal or runs to its tail
(`read_cases`).
-/

namespace Fulfilment.Settings

open Net

/-! ### One setting -/

/-- The numeric settings in the order they are read, with their widths in bits. -/
def numericKeys : List (String × Nat) :=
  [("ORDERFLOW_WEBHOOK_RETRIES", 32), ("ORDERFLOW_RETRY_DELAY_MS", 64),
    ("ORDERFLOW_QUEUE_WORKERS", 64), ("ORDERFLOW_QUEUE_CONCURRENCY", 64),
    ("ORDERFLOW_QUEUE_VISIBILITY_SECS", 64), ("ORDERFLOW_QUEUE_MAX_RECEIVES", 32),
    ("ORDERFLOW_BUS_WORKERS", 64), ("ORDERFLOW_BUS_CONCURRENCY", 64),
    ("ORDERFLOW_RETRY_ATTEMPTS", 32), ("ORDERFLOW_FINALIZER_TIMEOUT_MS", 64),
    ("ORDERFLOW_WEBHOOK_WORKERS", 64), ("ORDERFLOW_WEBHOOK_QUEUE", 64),
    ("ORDERFLOW_WEBHOOK_TIMEOUT_MS", 64)]

/-- Why a numeric setting is refused, if it is: its value is set, not blank, and once trimmed
not a number of the setting's width. -/
def refusal (env : Lookup) (key : String) (bits : Nat) : Option ConfigError :=
  match value? env key with
  | none => none
  | some raw =>
    match Text.parseUnsigned bits (Text.trimBlank raw) with
    | .ok _ => none
    | .error e => some ⟨key, raw, e.message⟩

/-- The number a numeric setting holds, or `default` when it is unset or refused. -/
def number (env : Lookup) (key : String) (bits default : Nat) : Nat :=
  match value? env key with
  | none => default
  | some raw =>
    match Text.parseUnsigned bits (Text.trimBlank raw) with
    | .ok n => n
    | .error _ => default

def firstRefusal (env : Lookup) : List (String × Nat) → Option ConfigError
  | [] => none
  | (key, bits) :: rest => (refusal env key bits).or (firstRefusal env rest)

def addressRefusal (env : Lookup) : Option ConfigError :=
  match value? env "ORDERFLOW_LISTEN_ADDR" with
  | none => none
  | some raw =>
    match SocketAddr.parse (Text.trimBlank raw) with
    | some _ => none
    | none => some ⟨"ORDERFLOW_LISTEN_ADDR", raw, syntaxError⟩

theorem unsigned_bind {α : Type} (env : Lookup) (key : String) (bits d : Nat)
    (f : Nat → Except SettingsError α) :
    (unsigned env key bits d >>= f) =
      (refusal env key bits).elim (f (number env key bits d)) fun e => .error (.invalid e) := by
  unfold unsigned refusal number
  cases value? env key with
  | none => rfl
  | some raw =>
    dsimp only
    cases Text.parseUnsigned bits (Text.trimBlank raw) <;> rfl

theorem address_cases (env : Lookup) (d : SocketAddr) :
    (∃ e, addressRefusal env = some e ∧
      address env "ORDERFLOW_LISTEN_ADDR" d = .error (.invalid e)) ∨
      (addressRefusal env = none ∧ ∃ a, address env "ORDERFLOW_LISTEN_ADDR" d = .ok a) := by
  unfold addressRefusal address
  cases value? env "ORDERFLOW_LISTEN_ADDR" with
  | none => exact .inr ⟨rfl, d, rfl⟩
  | some raw =>
    dsimp only
    cases SocketAddr.parse (Text.trimBlank raw) with
    | some a => exact .inr ⟨rfl, a, rfl⟩
    | none => exact .inl ⟨_, rfl, rfl⟩

/-! ### Widths -/

theorem parseInt_le {hi : Int} {s : String} {v : Int} (nonneg : 0 ≤ hi)
    (h : Text.parseInt 0 hi s = .ok v) : v ≤ hi := by
  unfold Text.parseInt at h
  split at h
  · cases h
  · cases h
  · cases h
  · exact ((Text.readDigits_up_eq_ok_iff (Int.le_refl 0) nonneg).1 h).2.2
  · -- a minus sign is no digit when no number is negative
    simp at h
  · exact ((Text.readDigits_up_eq_ok_iff (Int.le_refl 0) nonneg).1 h).2.2

theorem parseUnsigned_lt {bits : Nat} {s : String} {n : Nat}
    (h : Text.parseUnsigned bits s = .ok n) : n < Nat.pow 2 bits := by
  unfold Text.parseUnsigned at h
  cases hp : Text.parseInt 0 (Int.pow 2 bits - 1) s with
  | error e =>
    rw [hp] at h
    cases h
  | ok v =>
    rw [hp] at h
    simp only [Except.map, Except.ok.injEq] at h
    have pow : Int.pow 2 bits = ((Nat.pow 2 bits : Nat) : Int) := (Int.natCast_pow 2 bits).symm
    have pos : 0 < Nat.pow 2 bits := Nat.two_pow_pos bits
    have le := parseInt_le (by omega) hp
    omega

theorem number_lt (env : Lookup) (key : String) {bits d : Nat} (hd : d < Nat.pow 2 bits) :
    number env key bits d < Nat.pow 2 bits := by
  unfold number
  cases value? env key with
  | none => exact hd
  | some raw =>
    dsimp only
    cases hn : Text.parseUnsigned bits (Text.trimBlank raw) with
    | ok n => exact parseUnsigned_lt hn
    | error e => exact hd

/-- Every number of the settings fits the width the pipeline keeps it in: 32 bits for the counts
of attempts and receives, 64 for the rest (sizes are 64 bits wide); pool sizes, the webhook
workers, the webhook queue and the webhook attempts are at least one. -/
structure Fits (s : Settings) : Prop where
  queueWorkers : 1 ≤ s.queuePool.workers ∧ s.queuePool.workers < UInt64.size
  queueConcurrency : 1 ≤ s.queuePool.concurrency ∧ s.queuePool.concurrency < UInt64.size
  queueVisibilitySecs : s.queueVisibilitySecs < UInt64.size
  queueMaxReceives : s.queueMaxReceives < UInt32.size
  busWorkers : 1 ≤ s.busPool.workers ∧ s.busPool.workers < UInt64.size
  busConcurrency : 1 ≤ s.busPool.concurrency ∧ s.busPool.concurrency < UInt64.size
  retryAttempts : s.retry.attempts < UInt32.size
  retryDelayMs : s.retry.delayMs < UInt64.size
  finalizerTimeoutMs : s.finalizerTimeoutMs < UInt64.size
  webhookWorkers : 1 ≤ s.webhookWorkers ∧ s.webhookWorkers < UInt64.size
  webhookQueue : 1 ≤ s.webhookQueue ∧ s.webhookQueue < UInt64.size
  webhookTimeoutMs : s.webhookTimeoutMs < UInt64.size
  webhookAttempts : 1 ≤ s.webhookRetry.attempts ∧ s.webhookRetry.attempts < UInt32.size
  webhookDelayMs : s.webhookRetry.delayMs < UInt64.size

/-- What settings read from named values are made of: the webhook policy allows one delivery
more than the retries read, each pool runs the workers read times the items per worker read,
each raised to one, when that product fits in 64 bits, the queue hides a task for the seconds
read, and every number fits its width. -/
structure ReadFrom (env : Lookup) (s : Settings) : Prop where
  webhookAttempts : s.webhookRetry.attempts = number env "ORDERFLOW_WEBHOOK_RETRIES" 32 0 + 1
  queueThreads : s.queuePool.threads =
    if max (number env "ORDERFLOW_QUEUE_WORKERS" 64 2) 1 *
        max (number env "ORDERFLOW_QUEUE_CONCURRENCY" 64 2) 1 < UInt64.size then
      some (max (number env "ORDERFLOW_QUEUE_WORKERS" 64 2) 1 *
        max (number env "ORDERFLOW_QUEUE_CONCURRENCY" 64 2) 1)
    else none
  busThreads : s.busPool.threads =
    if max (number env "ORDERFLOW_BUS_WORKERS" 64 2) 1 *
        max (number env "ORDERFLOW_BUS_CONCURRENCY" 64 2) 1 < UInt64.size then
      some (max (number env "ORDERFLOW_BUS_WORKERS" 64 2) 1 *
        max (number env "ORDERFLOW_BUS_CONCURRENCY" 64 2) 1)
    else none
  visibility : s.queueVisibilitySecs = number env "ORDERFLOW_QUEUE_VISIBILITY_SECS" 64 30
  fits : Fits s

/-! ### The whole reader -/

theorem elim_or {α β : Type} (r r' : Option α) (t : β) (f : α → β) :
    r.elim (r'.elim t f) f = (r.or r').elim t f := by
  cases r <;> rfl

theorem read_of_refused {env : Lookup} {e : ConfigError}
    (h : firstRefusal env numericKeys = some e) : read env = .error (.invalid e) := by
  simp only [firstRefusal, numericKeys, Option.or_none] at h
  -- the thirteen reads fold into one read of the first refusal of the chain
  simp only [read, unsigned_bind, elim_or, h]
  rfl

/-- What the reader can do: end with the first refused numeric setting; or, with none refused,
stop at 4294967295 webhook retries; or else end with the refused listen address; or else return
settings made of what it read. -/
theorem read_cases (env : Lookup) :
    (∃ e, firstRefusal env numericKeys = some e ∧ read env = .error (.invalid e)) ∨
    (firstRefusal env numericKeys = none ∧
      number env "ORDERFLOW_WEBHOOK_RETRIES" 32 0 = 4294967295 ∧
      read env = .error .retriesOverflow) ∨
    (firstRefusal env numericKeys = none ∧
      number env "ORDERFLOW_WEBHOOK_RETRIES" 32 0 < 4294967295 ∧
      ∃ e, addressRefusal env = some e ∧ read env = .error (.invalid e)) ∨
    (firstRefusal env numericKeys = none ∧
      number env "ORDERFLOW_WEBHOOK_RETRIES" 32 0 < 4294967295 ∧
      addressRefusal env = none ∧ ∃ s, read env = .ok s ∧ ReadFrom env s) := by
  cases hf : firstRefusal env numericKeys with
  | some e => exact .inl ⟨e, rfl, read_of_refused hf⟩
  | none =>
    right
    simp only [firstRefusal, numericKeys, Option.or_none] at hf
    -- no numeric setting is refused, so the reader runs to its tail
    simp only [read, unsigned_bind, elim_or, hf, Option.elim_none]
    have pow32 : Nat.pow 2 32 = 4294967296 := rfl
    have retries := number_lt env "ORDERFLOW_WEBHOOK_RETRIES" (show 0 < Nat.pow 2 32 by decide)
    by_cases top : number env "ORDERFLOW_WEBHOOK_RETRIES" 32 0 = 4294967295
    · have overflows : number env "ORDERFLOW_WEBHOOK_RETRIES" 32 0 + 1 ≥ Nat.pow 2 32 := by omega
      exact .inl ⟨trivial, top, by rw [if_pos overflows]; rfl⟩
    · have below : number env "ORDERFLOW_WEBHOOK_RETRIES" 32 0 < 4294967295 := by omega
      have fits : ¬number env "ORDERFLOW_WEBHOOK_RETRIES" 32 0 + 1 ≥ Nat.pow 2 32 := by omega
      simp only [if_neg fits]
      right
      rcases address_cases env defaults.listenAddr with ⟨e, refused, ha⟩ | ⟨read, a, ha⟩
      · exact .inl ⟨trivial, below, e, refused, by rw [ha]; rfl⟩
      · refine .inr ⟨trivial, below, read, _, by rw [ha]; rfl, rfl, rfl, rfl, rfl, ?_⟩
        -- each number is read within its width, or is its default, which is within it too
        have u32 : UInt32.size = Nat.pow 2 32 := rfl
        have u64 : UInt64.size = Nat.pow 2 64 := rfl
        have pow64 : Nat.pow 2 64 = 18446744073709551616 := rfl
        have delay := number_lt env "ORDERFLOW_RETRY_DELAY_MS"
          (show defaults.retry.delayMs < Nat.pow 2 64 by decide)
        have queueWorkers := number_lt env "ORDERFLOW_QUEUE_WORKERS"
          (show defaults.queuePool.workers < Nat.pow 2 64 by decide)
        have queueConcurrency := number_lt env "ORDERFLOW_QUEUE_CONCURRENCY"
          (show defaults.queuePool.concurrency < Nat.pow 2 64 by decide)
        have visibility := number_lt env "ORDERFLOW_QUEUE_VISIBILITY_SECS"
          (show defaults.queueVisibilitySecs < Nat.pow 2 64 by decide)
        have receives := number_lt env "ORDERFLOW_QUEUE_MAX_RECEIVES"
          (show defaults.queueMaxReceives < Nat.pow 2 32 by decide)
        have busWorkers := number_lt env "ORDERFLOW_BUS_WORKERS"
          (show defaults.busPool.workers < Nat.pow 2 64 by decide)
        have busConcurrency := number_lt env "ORDERFLOW_BUS_CONCURRENCY"
          (show defaults.busPool.concurrency < Nat.pow 2 64 by decide)
        have attempts := number_lt env "ORDERFLOW_RETRY_ATTEMPTS"
          (show defaults.retry.attempts < Nat.pow 2 32 by decide)
        have finalizer := number_lt env "ORDERFLOW_FINALIZER_TIMEOUT_MS"
          (show defaults.finalizerTimeoutMs < Nat.pow 2 64 by decide)
        have webhookWorkers := number_lt env "ORDERFLOW_WEBHOOK_WORKERS"
          (show defaults.webhookWorkers < Nat.pow 2 64 by decide)
        have webhookQueue := number_lt env "ORDERFLOW_WEBHOOK_QUEUE"
          (show defaults.webhookQueue < Nat.pow 2 64 by decide)
        have webhookTimeout := number_lt env "ORDERFLOW_WEBHOOK_TIMEOUT_MS"
          (show defaults.webhookTimeoutMs < Nat.pow 2 64 by decide)
        constructor <;> dsimp only [PoolSize.make] <;> omega

/-! ### What the reader returns -/

section

variable (env : Lookup)

theorem read_eq_invalid_iff (e : ConfigError) :
    read env = .error (.invalid e) ↔ firstRefusal env numericKeys = some e ∨
      (firstRefusal env numericKeys = none ∧
        number env "ORDERFLOW_WEBHOOK_RETRIES" 32 0 < 4294967295 ∧
        addressRefusal env = some e) := by
  rcases read_cases env with ⟨e', hf, hr⟩ | ⟨hf, top, hr⟩ | ⟨hf, below, e', ha, hr⟩ |
    ⟨hf, below, ha, s, hr, -⟩ <;> rw [hr]
  · simp [hf]
  · simp [hf, top]
  · simp [hf, ha, below]
  · simp [hf, ha]

theorem read_eq_retriesOverflow_iff :
    read env = .error .retriesOverflow ↔ firstRefusal env numericKeys = none ∧
      number env "ORDERFLOW_WEBHOOK_RETRIES" 32 0 = 4294967295 := by
  rcases read_cases env with ⟨e, hf, hr⟩ | ⟨hf, top, hr⟩ | ⟨hf, below, e, ha, hr⟩ |
    ⟨hf, below, ha, s, hr, -⟩ <;> rw [hr]
  · simp [hf]
  · simp [hf, top]
  · simp; omega
  · simp; omega

theorem read_ok_iff :
    (∃ s, read env = .ok s) ↔ firstRefusal env numericKeys = none ∧
      number env "ORDERFLOW_WEBHOOK_RETRIES" 32 0 < 4294967295 ∧ addressRefusal env = none := by
  rcases read_cases env with ⟨e, hf, hr⟩ | ⟨hf, top, hr⟩ | ⟨hf, below, e, ha, hr⟩ |
    ⟨hf, below, ha, s, hr, -⟩ <;> rw [hr]
  · simp [hf]
  · simp [top]
  · simp [ha]
  · simp [hf, ha, below]

theorem readFrom_of_read {s : Settings} (h : read env = .ok s) : ReadFrom env s := by
  rcases read_cases env with ⟨e, -, hr⟩ | ⟨-, -, hr⟩ | ⟨-, -, e, -, hr⟩ |
    ⟨-, -, -, s', hr, built⟩ <;> rw [hr] at h
  · cases h
  · cases h
  · cases h
  · cases h
    exact built

end

/-- The reader refuses the first numeric setting, in reading order, whose value is set, not
blank and not a number of its width; with none refused, it stops at 4294967295 webhook retries,
the most 32 bits hold, as adding the first delivery to them leaves 32 bits; it refuses a listen
address that is not one; and otherwise it returns settings whose webhook policy allows one
delivery more than the retries, whose pools run workers times items, each raised to one, when
that fits in 64 bits, whose queue hides tasks for the seconds read, and whose numbers all fit
their widths. -/
theorem read_refuses_first_unreadable (env : Lookup) :
    (∀ e, read env = .error (.invalid e) ↔ firstRefusal env numericKeys = some e ∨
      (firstRefusal env numericKeys = none ∧
        number env "ORDERFLOW_WEBHOOK_RETRIES" 32 0 < 4294967295 ∧ addressRefusal env = some e)) ∧
    (read env = .error .retriesOverflow ↔ firstRefusal env numericKeys = none ∧
      number env "ORDERFLOW_WEBHOOK_RETRIES" 32 0 = 4294967295) ∧
    ((∃ s, read env = .ok s) ↔ firstRefusal env numericKeys = none ∧
      number env "ORDERFLOW_WEBHOOK_RETRIES" 32 0 < 4294967295 ∧ addressRefusal env = none) ∧
    ∀ s, read env = .ok s → ReadFrom env s :=
  ⟨read_eq_invalid_iff env, read_eq_retriesOverflow_iff env, read_ok_iff env,
    fun _ => readFrom_of_read env⟩

/-- The most webhook retries the reader takes, 4294967294, give a policy of 4294967295 attempts,
the most 32 bits hold. -/
theorem most_webhook_retries_read :
    ∃ s, read (fun k => if k = "ORDERFLOW_WEBHOOK_RETRIES" then some "4294967294" else none) =
      .ok s ∧ s.webhookRetry.attempts = 4294967295 ∧ Fits s := by
  have reads := read_refuses_first_unreadable
    (fun k => if k = "ORDERFLOW_WEBHOOK_RETRIES" then some "4294967294" else none)
  obtain ⟨s, hs⟩ := reads.2.2.1.2 ⟨by decide +kernel, by decide +kernel, by decide +kernel⟩
  have built := reads.2.2.2 s hs
  exact ⟨s, hs, by rw [built.webhookAttempts]; decide +kernel, built.fits⟩

/-- Settings out of range: 4294967295 webhook retries stop the reader, as the first delivery on
top of them does not fit in 32 bits; pools of 4294967296 workers running 4294967296 items each are
read, though counting their 2^64 items in flight stops the program; and a visibility of 2^63
seconds is read, though hiding a queued task for it stops the program at its first receive. -/
theorem widest_settings_overflow :
    read (fun k => if k = "ORDERFLOW_WEBHOOK_RETRIES" then some "4294967295" else none) =
      .error .retriesOverflow ∧
    (∃ s, read (fun k => if k = "ORDERFLOW_QUEUE_WORKERS" ∨ k = "ORDERFLOW_QUEUE_CONCURRENCY" then
      some "4294967296" else none) = .ok s ∧ s.queuePool.threads = none) ∧
    ∃ s, read (fun k => if k = "ORDERFLOW_QUEUE_VISIBILITY_SECS" then some "9223372036854775808"
      else none) = .ok s ∧
      ((WorkQueue.empty 5).send "m" "task").receive 1 (s.queueVisibilitySecs * 1000) 0 (fun _ => "r") =
        none := by
  refine ⟨(read_eq_retriesOverflow_iff _).2 ⟨by decide +kernel, by decide +kernel⟩, ?_, ?_⟩
  · obtain ⟨s, hs⟩ := (read_ok_iff (fun k => if k = "ORDERFLOW_QUEUE_WORKERS" ∨
      k = "ORDERFLOW_QUEUE_CONCURRENCY" then some "4294967296" else none)).2
        ⟨by decide +kernel, by decide +kernel, by decide +kernel⟩
    refine ⟨s, hs, ?_⟩
    rw [(readFrom_of_read _ hs).queueThreads]
    decide +kernel
  · obtain ⟨s, hs⟩ := (read_ok_iff (fun k => if k = "ORDERFLOW_QUEUE_VISIBILITY_SECS" then
      some "9223372036854775808" else none)).2 ⟨by decide +kernel, by decide +kernel, by decide +kernel⟩
    refine ⟨s, hs, ?_⟩
    rw [(readFrom_of_read _ hs).visibility]
    decide +kernel

end Fulfilment.Settings
