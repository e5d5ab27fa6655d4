import CoinRobotu.RateLimit.Consumers

/-!
# What a bucket grants

As long as every writing finds the bucket as its consumer has read it, and no bucket is dropped
before it is full, what is granted within an interval is at most the capacity, what is refilled in
the interval, and what the balances have been rounded up by.
-/

namespace RateLimit

open Interleaving Metered Numeric

section Sound

variable {Thread : Type} {limiter : TokenBucketRateLimiter} {shared : Shared Thread}
  {allowance slack : ℚ} {reading : Reading}

/-- What is known of the shared bucket and of the calls under way. -/
structure Sound (limiter : TokenBucketRateLimiter) (allowance slack : ℚ)
    (shared : Shared Thread) : Prop where
  new : shared.stored = none → shared.returned = []
  backed : ∀ entry ∈ shared.stored, Backed ↑limiter.capacity limiter.refillPerSecond
    (lowered allowance shared.charges) entry.bucket.tokens entry.bucket.updatedAt
  nonneg : ∀ entry ∈ shared.stored, 0 ≤ entry.bucket.tokens
  updated : ∀ entry ∈ shared.stored, entry.bucket.updatedAt ≤ shared.clock
  read : ∀ thread, ∀ reading ∈ shared.consumers thread, reading.now ≤ shared.clock ∧
    ∀ entry ∈ reading.seen, entry.bucket.updatedAt ≤ reading.now
  retry : RetryFinds limiter shared slack

/-- A writing that is not disturbed, and rounds by no more than is allowed. -/
structure Careful (limiter : TokenBucketRateLimiter) (allowance slack : ℚ)
    (shared : Shared Thread) (reading : Reading) : Prop where
  unchanged : shared.stored = reading.seen
  full : ∀ entry ∈ reading.seen, entry.expiresAt ≤ reading.now →
    limiter.capacity ≤ entry.bucket.tokens +
      limiter.refillPerSecond * (reading.now - entry.bucket.updatedAt)
  granted : reading.requested ≤ reading.available limiter →
    roundTo 6 (reading.available limiter - reading.requested) ≤
      reading.available limiter - reading.requested + allowance
  refused : reading.available limiter < reading.requested →
    roundTo 6 (reading.available limiter) ≤ reading.available limiter + allowance
  retry : reading.available limiter < reading.requested →
    reading.requested ≤ limiter.capacity + slack ∧
      (120 ≤ reading.wait limiter ∨
        reading.requested ≤ roundTo 6 (reading.available limiter) +
          limiter.refillPerSecond * (shared.clock + reading.wait limiter - reading.now) + slack)

theorem sound_start : Sound limiter allowance slack (Shared.start : Shared Thread) where
  new := fun _ => rfl
  backed := nofun
  nonneg := nofun
  updated := nofun
  read := nofun
  retry := nofun

theorem Sound.bounded (sound : Sound limiter allowance slack shared) :
    Bounded limiter shared allowance := by
  intro start finish le
  have capacityPos : (1 : ℚ) ≤ limiter.capacity := by exact_mod_cast limiter.one_le_capacity
  have lowerBound : spent (lowered allowance shared.charges) start finish ≤
      limiter.capacity + limiter.refillPerSecond * (finish - start) := by
    cases isStored : shared.stored with
    | none =>
      have refilled := mul_nonneg limiter.refillPerSecond_pos.le (sub_nonneg.mpr le)
      have empty : lowered allowance shared.charges = [] := by
        rw [Shared.charges, sound.new isStored]
        rfl
      rw [empty, spent_nil]
      linarith
    | some entry => exact (sound.backed entry isStored).bounded start finish le
  rw [spent_lowered] at lowerBound
  linarith

theorem Careful.available_le (careful : Careful limiter allowance slack shared reading)
    {entry : Entry} (isSeen : reading.seen = some entry)
    (earlier : entry.bucket.updatedAt ≤ reading.now) :
    reading.available limiter ≤ entry.bucket.tokens +
      limiter.refillPerSecond * (reading.now - entry.bucket.updatedAt) := by
  unfold Reading.available Reading.raw Entry.readAt
  rw [isSeen, Option.bind_some]
  split
  · rw [tokensAvailable_some earlier]
    exact min_le_right _ _
  next dropped =>
    rw [tokensAvailable_none]
    exact careful.full entry isSeen (not_lt.mp dropped)

theorem available_nonneg (nonneg : ∀ entry ∈ reading.seen, 0 ≤ entry.bucket.tokens)
    (earlier : ∀ entry ∈ reading.seen, entry.bucket.updatedAt ≤ reading.now) :
    0 ≤ reading.available limiter := by
  have capacityPos : (1 : ℚ) ≤ limiter.capacity := by exact_mod_cast limiter.one_le_capacity
  unfold Reading.available Reading.raw Entry.readAt
  cases isSeen : reading.seen with
  | none =>
    rw [Option.bind_none, tokensAvailable_none]
    linarith
  | some entry =>
    rw [Option.bind_some]
    split
    · have refilled := mul_nonneg limiter.refillPerSecond_pos.le
        (sub_nonneg.mpr (earlier entry isSeen))
      have stored := nonneg entry isSeen
      rw [tokensAvailable_some (earlier entry isSeen)]
      apply le_min
      · linarith
      · linarith
    · rw [tokensAvailable_none]
      linarith

theorem Careful.charge_add_le (careful : Careful limiter allowance slack shared reading)
    {clock : ℚ} :
    (reading.result limiter clock).charge.amount - allowance +
      (reading.entry limiter clock).bucket.tokens ≤ reading.available limiter := by
  unfold Reading.result Reading.entry Return.charge
  rcases le_or_gt reading.requested (reading.available limiter) with enough | missing
  · have rounded := careful.granted enough
    rw [consume_granted enough]
    change reading.requested - allowance +
      roundTo 6 (reading.available limiter - reading.requested) ≤ reading.available limiter
    linarith
  · have rounded := careful.refused missing
    rw [consume_refused missing]
    change 0 - allowance + roundTo 6 (reading.available limiter) ≤ reading.available limiter
    linarith

theorem Return.RetryAt.waited {refused : Return} {later : ℚ} (retryAt : refused.RetryAt later) :
    refused.returnedAt + refused.answer.retryAfterSeconds ≤ later := by
  rcases retryAt with waited | waited
  · exact waited
  · have header := @le_retryAfterHeader refused.answer.retryAfterSeconds
    linarith

/-- What a refused call leaves is enough for it once it has waited. -/
theorem Careful.retryFinds (careful : Careful limiter allowance slack shared reading)
    (past : reading.now ≤ shared.clock)
    (isRefused : (reading.result limiter shared.clock).answer.allowed = false) {later : ℚ}
    (isLater : shared.clock ≤ later)
    (retryAt : (reading.result limiter shared.clock).RetryAt later) :
    reading.requested ≤ slack +
      limiter.tokensAvailable ((reading.entry limiter shared.clock).readAt later) later := by
  have missing : reading.available limiter < reading.requested := by
    by_contra enough
    have allowed := consume_allowed_iff.mpr (not_lt.mp enough)
    exact absurd (isRefused.symm.trans allowed) Bool.false_ne_true
  have waited := retryAt.waited
  have written := @consume_refused limiter reading.raw reading.now reading.tokens missing
  have isWait : (reading.result limiter shared.clock).answer.retryAfterSeconds =
      reading.wait limiter := by
    unfold Reading.result
    rw [written]
    rfl
  have isBucket : (reading.entry limiter shared.clock).bucket =
      ⟨roundTo 6 (reading.available limiter), reading.now⟩ := by
    unfold Reading.entry
    rw [written]
    rfl
  rw [isWait] at waited
  obtain ⟨withinCapacity, refills⟩ := careful.retry missing
  have returned : (reading.result limiter shared.clock).returnedAt = shared.clock := rfl
  have expires : (reading.entry limiter shared.clock).expiresAt = shared.clock + 120 := rfl
  rw [returned] at waited
  unfold Entry.readAt
  split
  next kept =>
    rw [expires] at kept
    rw [isBucket, tokensAvailable_some (past.trans isLater), add_comm slack, ← min_add_add_right]
    apply le_min withinCapacity
    rcases refills with tooLong | refills
    · linarith
    · have elapsed :
          limiter.refillPerSecond * (shared.clock + reading.wait limiter - reading.now) ≤
            limiter.refillPerSecond * (later - reading.now) := by
        apply mul_le_mul_of_nonneg_left _ limiter.refillPerSecond_pos.le
        linarith
      dsimp only
      linarith
  next dropped =>
    rw [tokensAvailable_none, add_comm]
    exact withinCapacity

/-- Stored balances and waits are off by half a unit of their last decimal, so an undisturbed
writing is careful with that as its allowance. -/
theorem Undisturbed.careful {thread : Thread}
    (undisturbed : Undisturbed limiter shared (.writes thread))
    (isReading : shared.consumers thread = some reading) (past : reading.now ≤ shared.clock) :
    Careful limiter (1 / 2000000) (1 / 2000000 + limiter.refillPerSecond / 2000) shared
      reading := by
  obtain ⟨unchanged, full, withinCapacity⟩ := undisturbed reading isReading
  have refillPos := limiter.refillPerSecond_pos
  have balance : ∀ value : ℚ, |roundTo 6 value - value| ≤ 1 / 2000000 := by
    intro value
    have near := abs_roundTo_sub_le 6 value
    norm_num at near
    exact near
  refine ⟨unchanged, full, ?_, ?_, ?_⟩
  · intro enough
    have near := (abs_le.mp (balance (reading.available limiter - reading.requested))).2
    linarith
  · intro missing
    have near := (abs_le.mp (balance (reading.available limiter))).2
    linarith
  · intro missing
    refine ⟨by linarith, .inr ?_⟩
    have nearBalance := (abs_le.mp (balance (reading.available limiter))).1
    have nearWait : (reading.requested - reading.available limiter) / limiter.refillPerSecond -
        1 / 2000 ≤ reading.wait limiter := by
      have near := (abs_le.mp (abs_roundTo_sub_le 3
        ((reading.requested - reading.available limiter) / limiter.refillPerSecond))).1
      unfold Reading.wait
      norm_num at near
      linarith
    have refilled : reading.requested - reading.available limiter - limiter.refillPerSecond / 2000 ≤
        limiter.refillPerSecond * (shared.clock + reading.wait limiter - reading.now) := by
      calc reading.requested - reading.available limiter - limiter.refillPerSecond / 2000
          = limiter.refillPerSecond *
              ((reading.requested - reading.available limiter) / limiter.refillPerSecond -
                1 / 2000) := by
            field_simp
        _ ≤ limiter.refillPerSecond * (shared.clock + reading.wait limiter - reading.now) := by
            apply mul_le_mul_of_nonneg_left _ refillPos.le
            linarith
    linarith

theorem RoundedDown.careful {thread : Thread}
    (undisturbed : Undisturbed limiter shared (.writes thread))
    (roundedDown : RoundedDown limiter shared (.writes thread))
    (isReading : shared.consumers thread = some reading) :
    Careful limiter 0 0 shared reading := by
  obtain ⟨unchanged, full, withinCapacity⟩ := undisturbed reading isReading
  have rounded := roundedDown reading isReading
  refine ⟨unchanged, full, ?_, ?_, ?_⟩
  · intro enough
    rw [if_pos enough] at rounded
    linarith
  · intro missing
    rw [if_neg (not_le.mpr missing)] at rounded
    linarith [rounded.1]
  · intro missing
    rw [if_neg (not_le.mpr missing)] at rounded
    rw [add_zero, add_zero]
    exact ⟨withinCapacity, rounded.2⟩

theorem RetryFinds.retryGranted (finds : RetryFinds limiter shared 0) :
    RetryGranted limiter shared := by
  intro refused isLast isRefused later isLater retryAt
  have found := finds refused isLast isRefused later isLater retryAt
  rw [add_zero] at found
  exact consume_allowed_iff.mpr found

variable [DecidableEq Thread] {thread : Thread}

/-- A careful writing keeps the bucket sound. -/
theorem Sound.writes (sound : Sound limiter allowance slack shared)
    (isReading : shared.consumers thread = some reading)
    (careful : Careful limiter allowance slack shared reading) :
    Sound limiter allowance slack (step limiter shared (.writes thread)) := by
  obtain ⟨past, earlier⟩ := sound.read thread reading isReading
  have capacityPos : (1 : ℚ) ≤ limiter.capacity := by exact_mod_cast limiter.one_le_capacity
  have same := careful.unchanged
  have nonneg : ∀ entry ∈ reading.seen, 0 ≤ entry.bucket.tokens := same ▸ sound.nonneg
  have leftNonneg : 0 ≤ (reading.entry limiter shared.clock).bucket.tokens :=
    consume_tokens_nonneg (available_nonneg nonneg earlier)
  have stepped : step limiter shared (.writes thread) = { shared with
      stored := some (reading.entry limiter shared.clock)
      consumers := Function.update shared.consumers thread none
      returned := reading.result limiter shared.clock :: shared.returned } := by
    simp only [step, isReading]
  have isUpdated : (reading.entry limiter shared.clock).bucket.updatedAt = reading.now :=
    consume_updatedAt
  have charged : (reading.result limiter shared.clock).charge.amount - allowance +
      (reading.entry limiter shared.clock).bucket.tokens ≤ reading.available limiter :=
    careful.charge_add_le
  have backed : Backed ↑limiter.capacity limiter.refillPerSecond
      (⟨reading.now, (reading.result limiter shared.clock).charge.amount - allowance⟩ ::
        lowered allowance shared.charges)
      (reading.entry limiter shared.clock).bucket.tokens reading.now := by
    have leCapacity := charged.trans tokensAvailable_le_capacity
    cases isSeen : reading.seen with
    | none =>
      have empty : lowered allowance shared.charges = [] := by
        rw [Shared.charges, sound.new (same.trans isSeen)]
        rfl
      have full : Backed ↑limiter.capacity limiter.refillPerSecond []
          (limiter.capacity : ℚ) reading.now :=
        backed_nil limiter.refillPerSecond_pos.le (by linarith) le_rfl
      rw [empty]
      apply full.spend limiter.refillPerSecond_pos.le le_rfl leftNonneg leCapacity
      rw [sub_self, mul_zero, add_zero]
      exact leCapacity
    | some entry =>
      have before := sound.backed entry (same.trans isSeen)
      have updated := earlier entry isSeen
      exact before.spend limiter.refillPerSecond_pos.le updated leftNonneg leCapacity
        (charged.trans (careful.available_le isSeen updated))
  rw [stepped]
  constructor
  · exact nofun
  · intro entry isEntry
    obtain rfl := Option.mem_some_iff.mp isEntry
    rw [isUpdated]
    exact backed
  · intro entry isEntry
    obtain rfl := Option.mem_some_iff.mp isEntry
    exact leftNonneg
  · intro entry isEntry
    obtain rfl := Option.mem_some_iff.mp isEntry
    rw [isUpdated]
    exact past
  · intro other otherReading otherReads
    by_cases self : other = thread
    · rw [self] at otherReads
      dsimp only at otherReads
      rw [Function.update_self] at otherReads
      exact nomatch otherReads
    · dsimp only at otherReads
      rw [Function.update_of_ne self] at otherReads
      exact sound.read other otherReading otherReads
  · intro refused isLast isRefused later isLater retryAt
    obtain rfl := Option.mem_some_iff.mp isLast
    rw [add_comm]
    exact careful.retryFinds past isRefused isLater retryAt

/-- Reading and waiting keep the bucket sound. -/
theorem Sound.step (sound : Sound limiter allowance slack shared) {action : Action Thread}
    (careful : ∀ thread, action = .writes thread → ∀ reading ∈ shared.consumers thread,
      Careful limiter allowance slack shared reading) :
    Sound limiter allowance slack (step limiter shared action) := by
  cases action with
  | passes seconds =>
    have later : shared.clock ≤ shared.clock + seconds :=
      le_add_of_nonneg_right (NNRat.coe_nonneg seconds)
    refine ⟨sound.new, sound.backed, sound.nonneg, ?_, ?_, ?_⟩
    · exact fun entry isEntry => (sound.updated entry isEntry).trans later
    · exact fun thread reading reads =>
        ⟨(sound.read thread reading reads).1.trans later, (sound.read thread reading reads).2⟩
    · exact fun refused isLast isRefused time isLater =>
        sound.retry refused isLast isRefused time (later.trans isLater)
  | reads thread tokens =>
    cases isConsumer : shared.consumers thread with
    | some reading =>
      have same : RateLimit.step limiter shared (.reads thread tokens) = shared := by
        simp only [RateLimit.step, isConsumer]
      rw [same]
      exact sound
    | none =>
      simp only [RateLimit.step, isConsumer]
      refine ⟨sound.new, sound.backed, sound.nonneg, sound.updated, ?_, sound.retry⟩
      intro other reading reads
      by_cases self : other = thread
      · rw [self] at reads
        dsimp only at reads
        rw [Function.update_self] at reads
        obtain rfl := Option.mem_some_iff.mp reads
        exact ⟨le_rfl, sound.updated⟩
      · dsimp only at reads
        rw [Function.update_of_ne self] at reads
        exact sound.read other reading reads
  | writes thread =>
    cases isConsumer : shared.consumers thread with
    | some reading =>
      exact sound.writes isConsumer (careful thread rfl reading isConsumer)
    | none =>
      have same : RateLimit.step limiter shared (.writes thread) = shared := by
        simp only [RateLimit.step, isConsumer]
      rw [same]
      exact sound

def oneLogin : List (Action Unit) := [.reads () 1, .writes ()]

def rush : List (Action ℕ) :=
  (List.range 31).map (.reads · 1) ++ (List.range 31).map .writes

/-- Thirty logins take all tokens, and another one comes 0.0002 seconds before the next token. -/
def hasty : List (Action Unit) :=
  (List.replicate 30 oneLogin).flatten ++ [.passes (9999 / 5000), .reads () 1, .writes ()]

def Entry.InRange (limiter : TokenBucketRateLimiter) (now : ℚ) (entry : Entry) : Prop :=
  entry.bucket.tokens ∈ Set.Icc 0 (limiter.capacity : ℚ) ∧ entry.bucket.updatedAt ≤ now

def Reading.InRange (limiter : TokenBucketRateLimiter) (clock : ℚ) (reading : Reading) : Prop :=
  reading.now ≤ clock ∧ ∀ entry ∈ reading.seen, entry.InRange limiter reading.now

def Return.InRange (limiter : TokenBucketRateLimiter) (call : Return) : Prop :=
  call.answer.remaining ∈ Set.Icc 0 (limiter.capacity : ℚ) ∧
    (call.answer.allowed = true → requestedTokens call.tokens ≤ limiter.capacity)

/-- What holds in every order of the steps, also when writings overwrite one another. -/
structure InRange (limiter : TokenBucketRateLimiter) (shared : Shared Thread) : Prop where
  stored : ∀ entry ∈ shared.stored, entry.InRange limiter shared.clock
  read : ∀ thread, ∀ reading ∈ shared.consumers thread, reading.InRange limiter shared.clock
  returned : ∀ call ∈ shared.returned, call.InRange limiter

theorem roundTo_mem_Icc (digits : ℕ) {value : ℚ} (nonneg : 0 ≤ value)
    (le : value ≤ limiter.capacity) : roundTo digits value ∈ Set.Icc 0 (limiter.capacity : ℚ) :=
  ⟨roundTo_nonneg digits nonneg,
    HasDecimals.roundTo_le ⟨limiter.capacity * 10 ^ digits, by push_cast; rfl⟩ le⟩

theorem Reading.InRange.finishes {clock : ℚ} (inRange : reading.InRange limiter clock) :
    (reading.entry limiter clock).InRange limiter clock ∧
      (reading.result limiter clock).InRange limiter := by
  obtain ⟨past, seen⟩ := inRange
  have nonneg : 0 ≤ reading.available limiter :=
    available_nonneg (fun entry isSeen => (seen entry isSeen).1.1)
      fun entry isSeen => (seen entry isSeen).2
  have full : reading.available limiter ≤ limiter.capacity := tokensAvailable_le_capacity
  unfold Reading.entry Reading.result
  rcases le_or_gt reading.requested (reading.available limiter) with enough | missing
  · have positive : 0 < reading.requested := lt_max_of_lt_right (by norm_num)
    have rest := fun digits => roundTo_mem_Icc digits (sub_nonneg.mpr enough) (by linarith)
    rw [consume_granted enough]
    exact ⟨⟨rest 6, past⟩, rest 3, fun _ => enough.trans full⟩
  · rw [consume_refused missing]
    exact ⟨⟨roundTo_mem_Icc 6 nonneg full, past⟩, roundTo_mem_Icc 3 nonneg full, nofun⟩

theorem InRange.read_update {consumer : Option Reading} (inRange : InRange limiter shared)
    (new : ∀ reading ∈ consumer, reading.InRange limiter shared.clock) :
    ∀ other, ∀ reading ∈ Function.update shared.consumers thread consumer other,
      reading.InRange limiter shared.clock :=
  (Function.forall_update_iff _ fun _ (consumer : Option Reading) =>
    ∀ reading ∈ consumer, reading.InRange limiter shared.clock).mpr
      ⟨new, fun other _ => inRange.read other⟩

theorem InRange.step (inRange : InRange limiter shared) (action : Action Thread) :
    InRange limiter (step limiter shared action) := by
  cases action with
  | passes seconds =>
    have later : shared.clock ≤ shared.clock + seconds :=
      le_add_of_nonneg_right (NNRat.coe_nonneg seconds)
    refine ⟨fun entry isEntry => ?_, fun thread reading reads => ?_, inRange.returned⟩
    · exact (inRange.stored entry isEntry).imp_right later.trans'
    · exact (inRange.read thread reading reads).imp_left later.trans'
  | reads thread tokens =>
    cases isConsumer : shared.consumers thread with
    | some reading => simpa only [RateLimit.step, isConsumer] using inRange
    | none =>
      simp only [RateLimit.step, isConsumer]
      refine ⟨inRange.stored, inRange.read_update ?_, inRange.returned⟩
      rintro reading ⟨⟩
      exact ⟨le_rfl, inRange.stored⟩
  | writes thread =>
    cases isConsumer : shared.consumers thread with
    | none => simpa only [RateLimit.step, isConsumer] using inRange
    | some reading =>
      obtain ⟨written, returned⟩ := (inRange.read thread reading isConsumer).finishes
      simp only [RateLimit.step, isConsumer]
      refine ⟨?_, inRange.read_update nofun, ?_⟩
      · rintro entry ⟨⟩
        exact written
      · exact List.forall_mem_cons.mpr ⟨returned, inRange.returned⟩

/-- Whatever calls race, the stored balance and what is returned stay between nothing and the
capacity, and a call for more than the capacity is never granted. -/
theorem balance_in_range (actions : List (Action Thread)) :
    InRange limiter (afterAll (step limiter) Shared.start actions) :=
  afterAll_keeps ⟨nofun, nofun, nofun⟩ fun _ action inRange => inRange.step action

end Sound

end RateLimit
