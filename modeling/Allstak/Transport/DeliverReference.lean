import Allstak.Transport.RetryAfter

/-!
# A delivery and its reference

What `deliver` does for a stream of answers, told without the loop: the first
answer that is neither a server error nor a network error decides, and if there
is none the attempts run out.
-/

namespace Allstak

/-- The first attempt whose answer ends the loop. -/
structure Decides (exchanges : Nat → Exchange) (attempt : Nat)
    (response : Response) : Prop where
  inTime : attempt ≤ MAX_RETRIES
  answered : (exchanges attempt).answer = some response
  first : ∀ earlier < attempt, (exchanges earlier).answer = none

def Undecided (exchanges : Nat → Exchange) : Prop :=
  ∀ attempt ≤ MAX_RETRIES, (exchanges attempt).answer = none

theorem decides_or_undecided (exchanges : Nat → Exchange) :
    (∃ attempt response, Decides exchanges attempt response) ∨
      Undecided exchanges := by
  by_cases some_answer : ∃ attempt, (exchanges attempt).answer ≠ none
  · have answered := Nat.find_spec some_answer
    have least := fun earlier => @Nat.find_min _ _ some_answer earlier
    by_cases inTime : Nat.find some_answer ≤ MAX_RETRIES
    · obtain ⟨response, found⟩ := Option.ne_none_iff_exists'.mp answered
      exact .inl ⟨_, response, inTime, found,
        fun earlier before => not_not.mp (least earlier before)⟩
    · refine .inr fun attempt bounded => not_not.mp (least attempt ?_)
      omega
  · exact .inr fun attempt _ => not_not.mp fun answered =>
      some_answer ⟨attempt, answered⟩

theorem Decides.unique {exchanges : Nat → Exchange} {attempt other : Nat}
    {response otherResponse : Response}
    (one : Decides exchanges attempt response)
    (another : Decides exchanges other otherResponse) :
    attempt = other ∧ response = otherResponse := by
  rcases lt_trichotomy attempt other with before | rfl | after
  · have none := another.first attempt before
    rw [one.answered] at none
    cases none
  · have same := one.answered.symm.trans another.answered
    exact ⟨rfl, Option.some.inj same⟩
  · have none := one.first other after
    rw [another.answered] at none
    cases none

/-- The counters after so many retries. -/
def TransportCounters.retriedBy (counters : TransportCounters) (retries : Nat) :
    TransportCounters :=
  { counters with retryAttempts := counters.retryAttempts + retries }

private theorem TransportCounters.retriedBy_succ (counters : TransportCounters)
    (retries : Nat) :
    counters.retried.retriedBy retries = counters.retriedBy (retries + 1) := by
  simp only [retriedBy, retried]
  congr 1
  omega

/-- The requests and pauses of the attempts from one on, put before what the
last one leaves. -/
def Delivery.afterAll (delivery : Delivery) (exchanges : Nat → Exchange)
    (attempts : List Nat) : Delivery :=
  attempts.foldr
    (fun attempt later =>
      later.after (exchanges attempt) ((exchanges attempt).pause attempt))
    delivery

private theorem Delivery.posts_afterAll (delivery : Delivery)
    (exchanges : Nat → Exchange) (attempts : List Nat) :
    (delivery.afterAll exchanges attempts).posts =
      attempts.map exchanges ++ delivery.posts := by
  induction attempts with
  | nil => rfl
  | cons attempt attempts induction =>
      exact congrArg (List.cons (exchanges attempt)) induction

private theorem Delivery.frame_afterAll (delivery : Delivery)
    (exchanges : Nat → Exchange) (attempts : List Nat) :
    (delivery.afterAll exchanges attempts).outcome = delivery.outcome ∧
      (delivery.afterAll exchanges attempts).counters = delivery.counters ∧
      (delivery.afterAll exchanges attempts).limiter = delivery.limiter := by
  induction attempts with
  | nil => exact ⟨rfl, rfl, rfl⟩
  | cons attempt attempts induction => exact induction

/-- The attempts left, when so many of them stay without an answer that ends
them and the next one has one. -/
theorem attempts_of_answer (category : DataCategory)
    (exchanges : Nat → Exchange) (limiter : RateLimiter) {left retries : Nat}
    (counters : TransportCounters) {response : Response}
    (bounded : left ≤ MAX_RETRIES) (enough : retries ≤ left)
    (answered :
      (exchanges (MAX_RETRIES - left + retries)).answer = some response)
    (first : ∀ earlier < retries,
      (exchanges (MAX_RETRIES - left + earlier)).answer = none) :
    attempts category exchanges limiter left counters =
      (settle category (exchanges (MAX_RETRIES - left + retries)) response
        limiter (counters.retriedBy retries)).map fun settled =>
          settled.afterAll exchanges
            (List.range' (MAX_RETRIES - left) retries) := by
  induction retries generalizing left counters with
  | zero =>
      rw [Nat.add_zero] at answered
      rw [attempts.eq_def]
      simp only [answered, Nat.add_zero, TransportCounters.retriedBy,
        List.range'_zero, Delivery.afterAll, List.foldr_nil, Option.map_id']
  | succ retries induction =>
      obtain ⟨left, rfl⟩ : ∃ less, left = less + 1 := ⟨left - 1, by omega⟩
      have next : MAX_RETRIES - left = MAX_RETRIES - (left + 1) + 1 := by omega
      have unanswered : (exchanges (MAX_RETRIES - (left + 1))).answer = none :=
        first 0 (Nat.succ_pos retries)
      have place : MAX_RETRIES - (left + 1) + (retries + 1) =
          MAX_RETRIES - left + retries := by omega
      have later := @induction left counters.retried (by omega) (by omega)
        (place ▸ answered) fun earlier before => by
          have none := first (earlier + 1) (by omega)
          rw [next, Nat.add_right_comm]
          exact none
      rw [attempts, unanswered]
      dsimp only
      rw [later, Option.map_map, place, TransportCounters.retriedBy_succ,
        List.range'_succ, next]
      rfl

/-- The attempts left, when none of them has an answer that ends them. -/
theorem attempts_of_none (category : DataCategory) (exchanges : Nat → Exchange)
    (limiter : RateLimiter) {left : Nat} (counters : TransportCounters)
    (bounded : left ≤ MAX_RETRIES)
    (unanswered : ∀ attempt, MAX_RETRIES - left ≤ attempt →
      attempt ≤ MAX_RETRIES → (exchanges attempt).answer = none) :
    attempts category exchanges limiter left counters =
      some
        (Delivery.afterAll
          { outcome := .retryableFailure
            limiter
            counters := (counters.retriedBy left).failed
            posts := [exchanges MAX_RETRIES] }
          exchanges (List.range' (MAX_RETRIES - left) left)) := by
  induction left generalizing counters with
  | zero =>
      have last := unanswered MAX_RETRIES (Nat.sub_le _ _) le_rfl
      rw [attempts]
      simp only [Nat.sub_zero, last]
      rfl
  | succ left induction =>
      have now := unanswered (MAX_RETRIES - (left + 1)) le_rfl (Nat.sub_le _ _)
      have next : MAX_RETRIES - left = MAX_RETRIES - (left + 1) + 1 := by omega
      have later := induction counters.retried (by omega)
        fun attempt above below => unanswered attempt (by omega) below
      rw [attempts, now]
      dsimp only
      rw [later, TransportCounters.retriedBy_succ, List.range'_succ, next]
      rfl

/-- What the reference says of a delivery that makes requests. -/
structure FollowsReference (exchanges : Nat → Exchange)
    (counters : TransportCounters) (delivery : Delivery) : Prop where
  decided : ∀ attempt response, Decides exchanges attempt response →
    delivery.posts = (List.range (attempt + 1)).map exchanges ∧
      delivery.counters.retryAttempts = counters.retryAttempts + attempt ∧
      delivery.counters.rateLimitedCount =
        counters.rateLimitedCount + (if response.status = 429 then 1 else 0) ∧
      delivery.outcome =
        if response.status = 429 then .retryableFailure
        else if response.isSuccess then .accepted
        else .permanentFailure
  exhausted : Undecided exchanges →
    delivery.posts = (List.range (MAX_RETRIES + 1)).map exchanges ∧
      delivery.counters.retryAttempts = counters.retryAttempts + MAX_RETRIES ∧
      delivery.counters.rateLimitedCount = counters.rateLimitedCount ∧
      delivery.outcome = .retryableFailure
  sent : delivery.counters.eventsSent =
    counters.eventsSent + if delivery.outcome = .accepted then 1 else 0
  failed : delivery.counters.eventsFailed =
    counters.eventsFailed + if delivery.outcome = .accepted then 0 else 1
  dropped : delivery.counters.eventsDropped =
    counters.eventsDropped + if delivery.outcome = .permanentFailure then 1 else 0

/-- A held envelope is counted and nothing else; any other follows the
reference. -/
def MatchesReference (codec : Codec) (envelope : Envelope)
    (limiter : RateLimiter) (counters : TransportCounters) (checkedAt : Instant)
    (exchanges : Nat → Exchange) : Prop :=
  if limiter.isLimited envelope.category checkedAt then
    deliver codec envelope limiter counters checkedAt exchanges =
      some
        { outcome := .retryableFailure
          limiter
          counters :=
            { counters with rateLimitedCount := counters.rateLimitedCount + 1 }
          posts := []
          pauses := [] }
  else
    ∃ delivery,
      deliver codec envelope limiter counters checkedAt exchanges =
          some delivery ∧
        FollowsReference exchanges counters delivery

/-- The counters a delivery reports on, and preparing the body, which touches
none of them. -/
theorem TransportCounters.reported_prepared (counters : TransportCounters)
    (prepared : PreparedBody) :
    (counters.prepared prepared).retryAttempts = counters.retryAttempts ∧
      (counters.prepared prepared).rateLimitedCount =
        counters.rateLimitedCount ∧
      (counters.prepared prepared).eventsSent = counters.eventsSent ∧
      (counters.prepared prepared).eventsFailed = counters.eventsFailed ∧
      (counters.prepared prepared).eventsDropped = counters.eventsDropped := by
  unfold TransportCounters.prepared
  split <;> exact ⟨rfl, rfl, rfl, rfl, rfl⟩

section Requests

variable {codec : Codec} {envelope : Envelope} {limiter : RateLimiter}
  {counters : TransportCounters} {checkedAt : Instant}
  {exchanges : Nat → Exchange} {raw : Bytes}

/-- A delivery with an answer that ends it. -/
theorem deliver_of_decides
    (free : limiter.isLimited envelope.category checkedAt = false)
    (encoded : codec.toVec envelope.body = some raw) {attempt : Nat}
    {response : Response} (decides : Decides exchanges attempt response) :
    deliver codec envelope limiter counters checkedAt exchanges =
      (settle envelope.category (exchanges attempt) response limiter
        ((counters.prepared (prepareRequestBody codec raw)).retriedBy
          attempt)).map fun settled =>
            settled.afterAll exchanges (List.range attempt) := by
  have start : MAX_RETRIES - MAX_RETRIES + attempt = attempt := by omega
  have loop := @attempts_of_answer envelope.category exchanges limiter MAX_RETRIES
    attempt (counters.prepared (prepareRequestBody codec raw)) response le_rfl
    decides.inTime (start.symm ▸ decides.answered) fun earlier before => by
      rw [Nat.sub_self, Nat.zero_add]
      exact decides.first earlier before
  rw [start, Nat.sub_self, ← List.range_eq_range'] at loop
  simp only [deliver, free, encoded, Bool.false_eq_true, if_false]
  exact loop

/-- A delivery without one. -/
theorem deliver_of_undecided
    (free : limiter.isLimited envelope.category checkedAt = false)
    (encoded : codec.toVec envelope.body = some raw)
    (undecided : Undecided exchanges) :
    deliver codec envelope limiter counters checkedAt exchanges =
      some
        (Delivery.afterAll
          { outcome := .retryableFailure
            limiter
            counters :=
              ((counters.prepared (prepareRequestBody codec raw)).retriedBy
                MAX_RETRIES).failed
            posts := [exchanges MAX_RETRIES] }
          exchanges (List.range MAX_RETRIES)) := by
  have loop := @attempts_of_none envelope.category exchanges limiter MAX_RETRIES
    (counters.prepared (prepareRequestBody codec raw)) le_rfl
    fun attempt _ bounded => undecided attempt bounded
  rw [Nat.sub_self, ← List.range_eq_range'] at loop
  simp only [deliver, free, encoded, Bool.false_eq_true, if_false]
  exact loop

/-- A delivery that makes requests panics exactly when a 429 answer ends it whose
deadline the clock cannot hold. -/
theorem deliver_eq_none_iff
    (free : limiter.isLimited envelope.category checkedAt = false)
    (encoded : codec.toVec envelope.body = some raw) :
    deliver codec envelope limiter counters checkedAt exchanges = none ↔
      ∃ attempt response, Decides exchanges attempt response ∧
        response.status = 429 ∧
        ¬ RateLimiter.Holdable response.retryAfter
          (exchanges attempt).handledAt := by
  rcases decides_or_undecided exchanges with
    ⟨attempt, response, decides⟩ | undecided
  · have fits := RateLimiter.updateFromResponse_isSome_iff limiter
      envelope.category response.retryAfter (exchanges attempt).handledAt
    rw [deliver_of_decides free encoded decides, Option.map_eq_none_iff, settle]
    by_cases tooMany : response.status = 429
    · rw [if_pos tooMany, Option.map_eq_none_iff, ← Option.not_isSome_iff_eq_none,
        fits]
      constructor
      · intro unheld
        exact ⟨attempt, response, decides, tooMany, unheld⟩
      · rintro ⟨other, otherResponse, another, -, unheld⟩
        obtain ⟨rfl, rfl⟩ := another.unique decides
        exact unheld
    · rw [if_neg tooMany]
      refine iff_of_false (by split <;> simp) ?_
      rintro ⟨other, otherResponse, another, limits, -⟩
      obtain ⟨rfl, rfl⟩ := another.unique decides
      exact tooMany limits
  · rw [deliver_of_undecided free encoded undecided]
    refine iff_of_false (by simp) ?_
    rintro ⟨attempt, response, decides, -⟩
    have none := undecided attempt decides.inTime
    rw [decides.answered] at none
    cases none

/-- What handling an answer leaves in the counters a delivery reports on. -/
theorem settle_reports {category : DataCategory} {exchange : Exchange}
    {response : Response} {counters : TransportCounters} {settled : Delivery}
    (ends : settle category exchange response limiter counters = some settled) :
    settled.posts = [exchange] ∧
      settled.outcome =
        (if response.status = 429 then .retryableFailure
        else if response.isSuccess then .accepted
        else .permanentFailure) ∧
      settled.counters.retryAttempts = counters.retryAttempts ∧
      settled.counters.rateLimitedCount =
        counters.rateLimitedCount + (if response.status = 429 then 1 else 0) ∧
      settled.counters.eventsSent =
        counters.eventsSent + (if settled.outcome = .accepted then 1 else 0) ∧
      settled.counters.eventsFailed =
        counters.eventsFailed + (if settled.outcome = .accepted then 0 else 1) ∧
      settled.counters.eventsDropped =
        counters.eventsDropped +
          if settled.outcome = .permanentFailure then 1 else 0 := by
  unfold settle at ends
  by_cases tooMany : response.status = 429
  · rw [if_pos tooMany] at ends
    obtain ⟨updated, -, rfl⟩ := Option.map_eq_some_iff.mp ends
    rw [if_pos tooMany, if_pos tooMany]
    exact ⟨rfl, rfl, rfl, rfl, rfl, rfl, rfl⟩
  · rw [if_neg tooMany] at ends
    rw [if_neg tooMany, if_neg tooMany]
    by_cases success : response.isSuccess = true
    · rw [if_pos success] at ends
      cases ends
      rw [if_pos success]
      exact ⟨rfl, rfl, rfl, rfl, rfl, rfl, rfl⟩
    · rw [if_neg success] at ends
      cases ends
      rw [if_neg success]
      exact ⟨rfl, rfl, rfl, rfl, rfl, rfl, rfl⟩

/-- Handling the answer that ends a delivery, as the reference has it. -/
theorem follows_of_decides {settled : Delivery} {attempt : Nat}
    {response : Response} (decides : Decides exchanges attempt response)
    (prepared : PreparedBody)
    (ends : settle envelope.category (exchanges attempt) response limiter
      ((counters.prepared prepared).retriedBy attempt) = some settled) :
    FollowsReference exchanges counters
      (settled.afterAll exchanges (List.range attempt)) := by
  obtain ⟨posts, verdict, retried, limited, sent, failed, dropped⟩ :=
    settle_reports ends
  obtain ⟨sameRetried, sameLimited, sameSent, sameFailed, sameDropped⟩ :=
    counters.reported_prepared prepared
  obtain ⟨outcome, counted, -⟩ :=
    settled.frame_afterAll exchanges (List.range attempt)
  constructor
  · intro other otherResponse another
    obtain ⟨rfl, rfl⟩ := another.unique decides
    refine ⟨?_, ?_, ?_, outcome.trans verdict⟩
    · rw [settled.posts_afterAll, posts, List.range_succ, List.map_append]
      rfl
    · rw [counted, retried, ← sameRetried]
      rfl
    · rw [counted, limited, ← sameLimited]
      rfl
  · intro undecided
    have none := undecided attempt decides.inTime
    rw [decides.answered] at none
    cases none
  · rw [outcome, counted, sent, ← sameSent]
    rfl
  · rw [outcome, counted, failed, ← sameFailed]
    rfl
  · rw [outcome, counted, dropped, ← sameDropped]
    rfl

/-- Running out of attempts, as the reference has it. -/
theorem follows_of_undecided (undecided : Undecided exchanges)
    (prepared : PreparedBody) :
    FollowsReference exchanges counters
      (Delivery.afterAll
        { outcome := .retryableFailure
          limiter
          counters :=
            ((counters.prepared prepared).retriedBy MAX_RETRIES).failed
          posts := [exchanges MAX_RETRIES] }
        exchanges (List.range MAX_RETRIES)) := by
  obtain ⟨sameRetried, sameLimited, sameSent, sameFailed, sameDropped⟩ :=
    counters.reported_prepared prepared
  constructor
  · intro attempt response decides
    have none := undecided attempt decides.inTime
    rw [decides.answered] at none
    cases none
  · intro _
    refine ⟨?_, ?_, sameLimited, rfl⟩
    · rw [Delivery.posts_afterAll, List.range_succ, List.map_append]
      rfl
    · rw [← sameRetried]
      rfl
  · exact sameSent
  · exact congrArg Nat.succ sameFailed
  · exact sameDropped

end Requests

/-- A delivery matches its reference exactly when the answer that ends it is not
a 429 whose deadline the clock cannot hold. -/
theorem deliver_matches_reference_iff (codec : Codec) (envelope : Envelope)
    (limiter : RateLimiter) (counters : TransportCounters) (checkedAt : Instant)
    (exchanges : Nat → Exchange) (raw : Bytes)
    (encoded : codec.toVec envelope.body = some raw) :
    MatchesReference codec envelope limiter counters checkedAt exchanges ↔
      (limiter.isLimited envelope.category checkedAt = false →
        ∀ attempt response, Decides exchanges attempt response →
          response.status = 429 →
          RateLimiter.Holdable response.retryAfter
            (exchanges attempt).handledAt) := by
  rw [MatchesReference]
  cases free : limiter.isLimited envelope.category checkedAt with
  | true =>
      refine iff_of_true ?_ fun held => Bool.noConfusion held
      rw [if_pos rfl, deliver, if_pos free]
      rfl
  | false =>
      have panics := @deliver_eq_none_iff codec envelope limiter counters checkedAt
        exchanges raw free encoded
      rw [if_neg Bool.false_ne_true, eq_self_iff_true, true_imp_iff]
      constructor
      · rintro ⟨delivery, delivered, -⟩ attempt response decides tooMany
        by_contra unheld
        rw [panics.mpr ⟨attempt, response, decides, tooMany, unheld⟩] at delivered
        cases delivered
      · intro holdable
        have delivers : deliver codec envelope limiter counters checkedAt
            exchanges ≠ none := by
          intro none
          obtain ⟨attempt, response, decides, tooMany, unheld⟩ := panics.mp none
          exact unheld (holdable attempt response decides tooMany)
        obtain ⟨delivery, delivered⟩ := Option.ne_none_iff_exists'.mp delivers
        refine ⟨delivery, delivered, ?_⟩
        rcases decides_or_undecided exchanges with
          ⟨attempt, response, decides⟩ | undecided
        · rw [deliver_of_decides free encoded decides] at delivered
          obtain ⟨settled, settles, rfl⟩ := Option.map_eq_some_iff.mp delivered
          exact follows_of_decides decides _ settles
        · rw [deliver_of_undecided free encoded undecided] at delivered
          cases delivered
          exact follows_of_undecided undecided _

/-- A 429 answer with the largest number a header can spell ends no delivery. -/
theorem largestRetryAfter_matches_nothing :
    ¬ MatchesReference Transport.sampleCodec Transport.sampleEnvelope .new {}
      Transport.sampleInstant
      (Transport.limiting "18446744073709551615") := by
  have panics :
      (deliver Transport.sampleCodec Transport.sampleEnvelope .new {}
        Transport.sampleInstant
        (Transport.limiting "18446744073709551615")).isNone = true := by
    decide +kernel
  have none := Option.isNone_iff_eq_none.mp panics
  rintro ⟨delivery, delivered, -⟩
  rw [none] at delivered
  cases delivered

theorem deliver_matches_reference_iff_minutes :
    MatchesReference Transport.sampleCodec Transport.sampleEnvelope .new {}
        Transport.sampleInstant (Transport.limiting "120") ↔
      (RateLimiter.new.isLimited .log Transport.sampleInstant = false →
        ∀ attempt response,
          Decides (Transport.limiting "120") attempt response →
          response.status = 429 →
          RateLimiter.Holdable response.retryAfter
            (Transport.limiting "120" attempt).handledAt) :=
  deliver_matches_reference_iff Transport.sampleCodec Transport.sampleEnvelope .new
    {} Transport.sampleInstant (Transport.limiting "120")
    (Transport.asciiBytes "null") rfl

end Allstak
