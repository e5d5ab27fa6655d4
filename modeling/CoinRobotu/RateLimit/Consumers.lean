import CoinRobotu.Interleaving.Calls
import CoinRobotu.Metered.Budget
import CoinRobotu.Numeric.Rounding

/-!
# The token bucket

A bucket is kept under a key as the tokens in it and the time at which they were counted. A call
refills it up to the capacity, and takes the tokens if they are there; if not it returns the time
after which they will be. The balance is stored with six decimals, and the time is returned with
three. The key is dropped 120 seconds after the last writing, and a bucket without a key is full.

Numbers are exact here, and times are in seconds.
-/

namespace RateLimit

open Numeric

structure TokenBucketRateLimiter where
  capacity : ℤ
  refillPerSecond : ℚ
  one_le_capacity : 1 ≤ capacity
  le_refillPerSecond : 1 / 10000 ≤ refillPerSecond

/-- `__init__`. -/
def TokenBucketRateLimiter.new (capacity : ℤ) (refillPerSecond : ℚ) : TokenBucketRateLimiter where
  capacity := max capacity 1
  refillPerSecond := max refillPerSecond (1 / 10000)
  one_le_capacity := le_max_right _ _
  le_refillPerSecond := le_max_right _ _

def exchangeRateLimiter : TokenBucketRateLimiter := .new 1200 (1200 / 60)

def authLoginRateLimiter : TokenBucketRateLimiter := .new 30 (30 / 60)

def ipRateLimiter : TokenBucketRateLimiter := .new 60 1

def userRateLimiter : TokenBucketRateLimiter := .new 25 (25 / 60)

structure Bucket where
  tokens : ℚ
  updatedAt : ℚ
  deriving DecidableEq

structure Answer where
  allowed : Bool
  retryAfterSeconds : ℚ
  remaining : ℚ
  deriving DecidableEq

def requestedTokens (tokens : ℚ) : ℚ := max tokens (1 / 10000)

variable (limiter : TokenBucketRateLimiter)

def TokenBucketRateLimiter.tokensAvailable (raw : Option Bucket) (now : ℚ) : ℚ :=
  let bucket := raw.getD ⟨limiter.capacity, now⟩
  let elapsed := max (now - bucket.updatedAt) 0
  min limiter.capacity (bucket.tokens + elapsed * limiter.refillPerSecond)

/-- `consume`: what is written, and what is returned. -/
def TokenBucketRateLimiter.consume (raw : Option Bucket) (now tokens : ℚ) : Bucket × Answer :=
  let tokensAvailable := limiter.tokensAvailable raw now
  if tokensAvailable < requestedTokens tokens then
    let missingTokens := requestedTokens tokens - tokensAvailable
    (⟨roundTo 6 tokensAvailable, now⟩,
      ⟨false, roundTo 3 (missingTokens / limiter.refillPerSecond), roundTo 3 tokensAvailable⟩)
  else
    let remaining := tokensAvailable - requestedTokens tokens
    (⟨roundTo 6 remaining, now⟩, ⟨true, 0, roundTo 3 remaining⟩)

structure HTTPException where
  statusCode : ℕ
  detail : String
  retryAfter : ℤ
  deriving DecidableEq, Repr

/-- The `Retry-After` header of a login that is refused. -/
def retryAfterHeader (retryAfterSeconds : ℚ) : ℤ := max ⌈retryAfterSeconds⌉ 1

/-- What `enforce_login_rate_limit` raises. -/
def enforceLoginRateLimit (answer : Answer) : Option HTTPException :=
  if answer.allowed then none
  else some ⟨429, "login_rate_limit_exceeded", retryAfterHeader answer.retryAfterSeconds⟩

variable {limiter} {raw : Option Bucket} {now tokens : ℚ}

variable (limiter) in
theorem TokenBucketRateLimiter.refillPerSecond_pos : 0 < limiter.refillPerSecond :=
  lt_of_lt_of_le (by norm_num) limiter.le_refillPerSecond

theorem le_retryAfterHeader {retryAfterSeconds : ℚ} :
    retryAfterSeconds ≤ retryAfterHeader retryAfterSeconds := by
  have rounded : ⌈retryAfterSeconds⌉ ≤ retryAfterHeader retryAfterSeconds := le_max_left _ _
  calc retryAfterSeconds ≤ ⌈retryAfterSeconds⌉ := Int.le_ceil _
    _ ≤ retryAfterHeader retryAfterSeconds := by exact_mod_cast rounded

theorem tokensAvailable_le_capacity : limiter.tokensAvailable raw now ≤ limiter.capacity :=
  min_le_left _ _

theorem tokensAvailable_none : limiter.tokensAvailable none now = limiter.capacity := by
  simp [TokenBucketRateLimiter.tokensAvailable]

theorem tokensAvailable_some {bucket : Bucket} (later : bucket.updatedAt ≤ now) :
    limiter.tokensAvailable (some bucket) now =
      min ↑limiter.capacity
        (bucket.tokens + limiter.refillPerSecond * (now - bucket.updatedAt)) := by
  unfold TokenBucketRateLimiter.tokensAvailable
  dsimp only [Option.getD_some]
  rw [max_eq_left (sub_nonneg.mpr later), mul_comm]

theorem consume_allowed_iff :
    (limiter.consume raw now tokens).2.allowed = true ↔
      requestedTokens tokens ≤ limiter.tokensAvailable raw now := by
  unfold TokenBucketRateLimiter.consume
  dsimp only
  split
  next missing => simpa using missing
  next enough => simpa using enough

theorem consume_granted (enough : requestedTokens tokens ≤ limiter.tokensAvailable raw now) :
    limiter.consume raw now tokens =
      (⟨roundTo 6 (limiter.tokensAvailable raw now - requestedTokens tokens), now⟩,
        ⟨true, 0, roundTo 3 (limiter.tokensAvailable raw now - requestedTokens tokens)⟩) :=
  if_neg (not_lt.mpr enough)

theorem consume_refused (missing : limiter.tokensAvailable raw now < requestedTokens tokens) :
    limiter.consume raw now tokens =
      (⟨roundTo 6 (limiter.tokensAvailable raw now), now⟩,
        ⟨false,
          roundTo 3 ((requestedTokens tokens - limiter.tokensAvailable raw now) /
            limiter.refillPerSecond),
          roundTo 3 (limiter.tokensAvailable raw now)⟩) :=
  if_pos missing

theorem consume_updatedAt : (limiter.consume raw now tokens).1.updatedAt = now := by
  rcases le_or_gt (requestedTokens tokens) (limiter.tokensAvailable raw now) with enough | missing
  · rw [consume_granted enough]
  · rw [consume_refused missing]

theorem consume_tokens_nonneg (nonneg : 0 ≤ limiter.tokensAvailable raw now) :
    0 ≤ (limiter.consume raw now tokens).1.tokens := by
  rcases le_or_gt (requestedTokens tokens) (limiter.tokensAvailable raw now) with enough | missing
  · rw [consume_granted enough]
    exact roundTo_nonneg 6 (sub_nonneg.mpr enough)
  · rw [consume_refused missing]
    exact roundTo_nonneg 6 nonneg

example : (authLoginRateLimiter.consume (some ⟨1 / 4, 100⟩) 101 1).2 =
    ⟨false, 1 / 2, 3 / 4⟩ := by decide +kernel

end RateLimit

/-!
## The consumers of one bucket

Each consumer reads the clock and the bucket in one step, and writes the bucket in another; the
steps of several consumers interleave, and time passes between them. Nothing locks the bucket. The
laws of a bucket say how much is granted in an interval, and that a call is granted when it is
retried. They speak of the times that the calls have read.
-/

namespace RateLimit

open Interleaving Metered Numeric

open scoped NNRat

/-- The stored bucket, with the time at which its key is dropped. -/
structure Entry where
  bucket : Bucket
  expiresAt : ℚ
  deriving DecidableEq

def Entry.readAt (entry : Entry) (now : ℚ) : Option Bucket :=
  if now < entry.expiresAt then some entry.bucket else none

/-- A call that has read the bucket. -/
structure Reading where
  now : ℚ
  tokens : ℚ
  seen : Option Entry
  deriving DecidableEq

def Reading.raw (reading : Reading) : Option Bucket := reading.seen.bind (·.readAt reading.now)

section Amounts

variable (limiter : TokenBucketRateLimiter) (reading : Reading)

def Reading.requested : ℚ := requestedTokens reading.tokens

def Reading.available : ℚ := limiter.tokensAvailable reading.raw reading.now

def Reading.wait : ℚ :=
  roundTo 3 ((reading.requested - reading.available limiter) / limiter.refillPerSecond)

end Amounts

structure Return where
  now : ℚ
  tokens : ℚ
  answer : Answer
  returnedAt : ℚ
  deriving DecidableEq

/-- The clock, the key, the calls under way, and those that have returned, the last one first. -/
structure Shared (Thread : Type) where
  clock : ℚ
  stored : Option Entry
  consumers : Thread → Option Reading
  returned : List Return

def Shared.start {Thread : Type} : Shared Thread := ⟨0, none, fun _ => none, []⟩

inductive Action (Thread : Type) where
  | passes (seconds : ℚ≥0)
  | reads (thread : Thread) (tokens : ℚ)
  | writes (thread : Thread)

def Reading.entry (limiter : TokenBucketRateLimiter) (reading : Reading) (clock : ℚ) : Entry :=
  ⟨(limiter.consume reading.raw reading.now reading.tokens).1, clock + 120⟩

def Reading.result (limiter : TokenBucketRateLimiter) (reading : Reading) (clock : ℚ) : Return :=
  ⟨reading.now, reading.tokens, (limiter.consume reading.raw reading.now reading.tokens).2, clock⟩

section Steps

variable {Thread : Type} [DecidableEq Thread] (limiter : TokenBucketRateLimiter)
  (shared : Shared Thread)

/-- One step. -/
def step : Action Thread → Shared Thread
  | .passes seconds => { shared with clock := shared.clock + seconds }
  | .reads thread tokens =>
    match shared.consumers thread with
    | none =>
      let reading : Reading := ⟨shared.clock, tokens, shared.stored⟩
      { shared with consumers := Function.update shared.consumers thread (some reading) }
    | some _ => shared
  | .writes thread =>
    match shared.consumers thread with
    | some reading =>
      { shared with
        stored := some (reading.entry limiter shared.clock)
        consumers := Function.update shared.consumers thread none
        returned := reading.result limiter shared.clock :: shared.returned }
    | none => shared

end Steps

section Laws

variable {Thread : Type} (limiter : TokenBucketRateLimiter) (shared : Shared Thread)

def Return.charge (call : Return) : Charge ℚ :=
  ⟨call.now, if call.answer.allowed then requestedTokens call.tokens else 0⟩

def Shared.charges : List (Charge ℚ) := shared.returned.map Return.charge

/-- What is granted in an interval is at most the capacity and what is refilled, but for as much
for each call. -/
def Bounded (allowance : ℚ) : Prop :=
  ∀ start finish, start ≤ finish →
    spent shared.charges start finish ≤
      limiter.capacity + limiter.refillPerSecond * (finish - start) +
        allowance * (within shared.charges start finish).length

/-- A time at which a refused call may be retried, as the limiter or the header says. -/
def Return.RetryAt (refused : Return) (later : ℚ) : Prop :=
  refused.returnedAt + refused.answer.retryAfterSeconds ≤ later ∨
    refused.returnedAt + retryAfterHeader refused.answer.retryAfterSeconds ≤ later

/-- After a refusal, and with no other call in between, the tokens that were asked for are there
at every time at which the call may be retried, but for a slack. -/
def RetryFinds (slack : ℚ) : Prop :=
  ∀ refused ∈ shared.returned.head?, refused.answer.allowed = false →
    ∀ later, shared.clock ≤ later → refused.RetryAt later →
      requestedTokens refused.tokens ≤
        limiter.tokensAvailable (shared.stored.bind (·.readAt later)) later + slack

/-- A call that is retried is granted. -/
def RetryGranted : Prop :=
  ∀ refused ∈ shared.returned.head?, refused.answer.allowed = false →
    ∀ later, shared.clock ≤ later → refused.RetryAt later →
      (limiter.consume (shared.stored.bind (·.readAt later)) later refused.tokens).2.allowed = true

def WithinBudget : Prop := Bounded limiter shared 0 ∧ RetryGranted limiter shared

/-- The law up to half a unit of the last decimal of each stored balance, and of each wait. -/
def WithinBudgetRounded : Prop :=
  Bounded limiter shared (1 / 2000000) ∧
    RetryFinds limiter shared (1 / 2000000 + limiter.refillPerSecond / 2000)

/-- A writing finds the bucket as its consumer has read it, a bucket whose key had been dropped
would have been full, and no more is asked for than the capacity. -/
def Undisturbed : Action Thread → Prop
  | .writes thread =>
    ∀ reading ∈ shared.consumers thread,
      shared.stored = reading.seen ∧
        (∀ entry ∈ reading.seen, entry.expiresAt ≤ reading.now →
          limiter.capacity ≤ entry.bucket.tokens +
            limiter.refillPerSecond * (reading.now - entry.bucket.updatedAt)) ∧
        reading.requested ≤ limiter.capacity
  | _ => True

/-- The balance that is stored is not rounded up, and a refused call is told to wait until the
stored balance has refilled, or until the key is dropped. -/
def RoundedDown : Action Thread → Prop
  | .writes thread =>
    ∀ reading ∈ shared.consumers thread,
      if reading.requested ≤ reading.available limiter then
        roundTo 6 (reading.available limiter - reading.requested) ≤
          reading.available limiter - reading.requested
      else
        roundTo 6 (reading.available limiter) ≤ reading.available limiter ∧
          (120 ≤ reading.wait limiter ∨
            reading.requested ≤ roundTo 6 (reading.available limiter) +
              limiter.refillPerSecond * (shared.clock + reading.wait limiter - reading.now))
  | _ => True

end Laws

end RateLimit
