import Allstak.Transport.DropAccounting

/-!
# A `Retry-After` the clock cannot hold

A 429 response sets a deadline by adding its `Retry-After` seconds to the
present instant.  The header may spell any 64-bit number, and the sum is not
capped as the pause after a 503 response is: a number past the range of the
clock kills the worker.
-/

namespace Allstak

/-- The pause after a 503 response is at most five minutes. -/
theorem retryAfter_le {header : Option HeaderValue} {pause : Duration}
    (found : retryAfter header = some pause) : pause ≤ Duration.fromSecs 300 := by
  obtain ⟨value, -, rfl⟩ := Option.map_eq_some_iff.mp found
  split
  · rename_i seconds parsed
    exact Nat.mul_le_mul_right _ (Nat.min_le_right seconds 300)
  · exact Nat.mul_le_mul_right _ (by decide)

/-- A delivery that ends with a 429 answer is retryable if the deadline fits
the clock, and panics otherwise. -/
theorem deliver_of_429 {codec : Codec} {envelope : Envelope}
    {limiter : RateLimiter} {counters : TransportCounters} {checkedAt : Instant}
    {exchanges : Nat → Exchange} {raw : Bytes} {exchange : Exchange}
    {response : Response}
    (free : limiter.isLimited envelope.category checkedAt = false)
    (encoded : codec.toVec envelope.body = some raw)
    (answered : verdict exchanges MAX_RETRIES = some (exchange, response))
    (limits : response.status = 429) :
    (deliver codec envelope limiter counters checkedAt exchanges).map
        Delivery.outcome =
      if RateLimiter.Holdable response.retryAfter exchange.handledAt then
        some .retryableFailure
      else none := by
  have fits := RateLimiter.updateFromResponse_isSome_iff limiter
    envelope.category response.retryAfter exchange.handledAt
  rw [deliver_outcome free encoded, answered]
  simp only [limits, if_true]
  split
  · rename_i small
    obtain ⟨updated, found⟩ := Option.isSome_iff_exists.mp (fits.mpr small)
    rw [found]
    rfl
  · rename_i large
    have none := Option.not_isSome_iff_eq_none.mp fun some_ => large (fits.mp some_)
    rw [none]
    rfl

namespace Transport

/-- Handling a 429 answer keeps the worker going exactly when the held seconds
fit after the present second of the clock: for the limiter by itself, for a
message of the loop, which then reaches `persist_or_drop` and after it the next
message, and for a replayed file. -/
theorem tooManyRequests_handled_iff (settings : Settings) (state : State) :
    (∀ (category : DataCategory) (header : Option HeaderValue) (now : Instant),
      (state.limiter.updateFromResponse category header now).isSome = true ↔
        RateLimiter.Holdable header now) ∧
      (∀ (parcel : Parcel) (checkedAt : Instant) (exchanges : Nat → Exchange)
          (raw : Bytes) (exchange : Exchange) (response : Response),
        state.worker = .delivering parcel →
        state.limiter.isLimited parcel.envelope.category checkedAt = false →
        settings.codec.toVec parcel.envelope.body = some raw →
        verdict exchanges MAX_RETRIES = some (exchange, response) →
        response.status = 429 →
        ((∃ after, step settings state
              (.worker (.deliver checkedAt exchanges)) = some after ∧
            after.worker = .persisting parcel .start) ↔
          RateLimiter.Holdable response.retryAfter exchange.handledAt)) ∧
      (∀ (after : State) (parcel : Parcel) (stage : PersistStage)
          (action : State.WorkerAction),
        state.worker = .persisting parcel stage →
        step settings state (.worker action) = some after →
        (∃ next, after.worker = .persisting parcel next) ∨
          after.worker = .idle) ∧
      ∀ (path : String) (paths : List String) (envelope : Envelope)
          (checkedAt : Instant) (exchanges : Nat → Exchange) (raw : Bytes)
          (exchange : Exchange) (response : Response),
        state.worker = .replaying path paths envelope →
        state.limiter.isLimited envelope.category checkedAt = false →
        settings.codec.toVec envelope.body = some raw →
        verdict exchanges MAX_RETRIES = some (exchange, response) →
        response.status = 429 →
        ((∃ after, step settings state
              (.worker (.replay checkedAt exchanges)) = some after ∧
            after.worker = .idle) ↔
          RateLimiter.Holdable response.retryAfter exchange.handledAt) := by
  refine ⟨state.limiter.updateFromResponse_isSome_iff, ?_, ?_, ?_⟩
  · intro parcel checkedAt exchanges raw exchange response
      delivering free encoded answered limits
    have outcome := @deliver_of_429 settings.codec parcel.envelope state.limiter
      state.counters checkedAt exchanges raw exchange response free encoded
      answered limits
    simp only [step, State.workerStep, delivering]
    split at outcome
    · rename_i small
      obtain ⟨delivery, delivered, retryable⟩ := Option.map_eq_some_iff.mp outcome
      simp [delivered, retryable, small]
    · rename_i large
      have panicked := Option.map_eq_none_iff.mp outcome
      simp [panicked, large, State.perish, State.die]
  · intro after parcel stage action persisting moved
    have move := State.workerMove_of_step moved
    rw [persisting] at move
    cases move with
    | @persisting _ _ next => exact .inl ⟨next, rfl⟩
    | persisted => exact .inr rfl
  · intro path paths envelope checkedAt exchanges raw exchange response
      replaying free encoded answered limits
    have outcome := @deliver_of_429 settings.codec envelope state.limiter
      state.counters checkedAt exchanges raw exchange response free encoded
      answered limits
    simp only [step, State.workerStep, replaying]
    split at outcome
    · rename_i small
      obtain ⟨delivery, delivered, retryable⟩ := Option.map_eq_some_iff.mp outcome
      simp [delivered, retryable, small]
    · rename_i large
      have panicked := Option.map_eq_none_iff.mp outcome
      simp [panicked, large, State.perish, State.die]

/-- Every attempt is answered 429 with this header. -/
def limiting (header : String) : Nat → Exchange := fun _ =>
  { startedAt := sampleInstant
    response := some { status := 429, retryAfter := some (asciiBytes header) }
    handledAt := sampleInstant }

/-- The worker has an envelope in its hands. -/
def oneInHand : State :=
  { threads := [.idle]
    worker := .delivering { id := 0, envelope := sampleEnvelope }
    sent := 1 }

/-- The largest number a header can spell: handling the response panics, and
the worker ends with the envelope in its hands. -/
theorem largestRetryAfter_panics :
    (RateLimiter.new.updateFromResponse .log
        (some (asciiBytes "18446744073709551615")) sampleInstant).isSome = false ∧
      ∃ after, step (unspooled 1) oneInHand
          (.worker (.deliver sampleInstant (limiting "18446744073709551615"))) =
            some after ∧
        after.worker.isGone = true ∧ after.vanished = [0] := by
  refine ⟨by decide +kernel, ?_⟩
  have run :
      (step (unspooled 1) oneInHand
        (.worker (.deliver sampleInstant
          (limiting "18446744073709551615")))).map
          (fun after => (after.worker.isGone, after.vanished)) =
        some (true, [0]) := by decide +kernel
  obtain ⟨after, moved, seen⟩ := Option.map_eq_some_iff.mp run
  simp only [Prod.mk.injEq] at seen
  exact ⟨after, moved, seen⟩

/-- Two minutes fit, and the envelope goes on to `persist_or_drop`. -/
theorem tooManyRequests_handled_iff_minutes :
    (∃ after, step (unspooled 1) oneInHand
          (.worker (.deliver sampleInstant (limiting "120"))) = some after ∧
        after.worker =
          .persisting { id := 0, envelope := sampleEnvelope } .start) ↔
      RateLimiter.Holdable (some (asciiBytes "120")) sampleInstant :=
  (tooManyRequests_handled_iff (unspooled 1) oneInHand).2.1
    { id := 0, envelope := sampleEnvelope } sampleInstant (limiting "120")
    (asciiBytes "null") (limiting "120" 0)
    { status := 429, retryAfter := some (asciiBytes "120") } rfl rfl rfl rfl rfl

end Transport

end Allstak
