import Allstak.Transport.RateLimiter

/-!
# Delivering one envelope

A delivery checks the limiter once and then posts the body, again after a
server or network error, at most `MAX_RETRIES` times more.  The answers and the
clock readings are given in advance, one exchange for each attempt.  A delivery
that panics returns nothing; what it did until then is given apart.
-/

namespace Allstak

abbrev Bytes := List UInt8

/-- The form in which the offline queue stores an envelope. -/
structure PersistedEnvelope where
  path : String
  category : String
  body : Value

/-- The JSON and gzip functions of the libraries the transport links. -/
structure Codec where
  toVec : Value → Option Bytes
  gzip : Bytes → Option Bytes
  persistedToVec : PersistedEnvelope → Option Bytes
  persistedFromSlice : Bytes → Option PersistedEnvelope

structure TransportCounters where
  eventsCaptured : Nat := 0
  eventsSent : Nat := 0
  eventsFailed : Nat := 0
  eventsDropped : Nat := 0
  eventsPersisted : Nat := 0
  eventsReplayed : Nat := 0
  queueSize : Nat := 0
  retryAttempts : Nat := 0
  rateLimitedCount : Nat := 0
  compressedPayloads : Nat := 0
  uncompressedPayloads : Nat := 0
  compressionBytesSaved : Nat := 0
  deriving DecidableEq

namespace TransportCounters

def captured (counters : TransportCounters) : TransportCounters :=
  { counters with eventsCaptured := counters.eventsCaptured + 1 }

def sent (counters : TransportCounters) : TransportCounters :=
  { counters with eventsSent := counters.eventsSent + 1 }

def failed (counters : TransportCounters) : TransportCounters :=
  { counters with eventsFailed := counters.eventsFailed + 1 }

def dropped (counters : TransportCounters) : TransportCounters :=
  { counters with eventsDropped := counters.eventsDropped + 1 }

def persisted (counters : TransportCounters) : TransportCounters :=
  { counters with eventsPersisted := counters.eventsPersisted + 1 }

def replayed (counters : TransportCounters) : TransportCounters :=
  { counters with eventsReplayed := counters.eventsReplayed + 1 }

def queued (counters : TransportCounters) : TransportCounters :=
  { counters with queueSize := counters.queueSize + 1 }

/-- The gauge never goes below zero. -/
def unqueued (counters : TransportCounters) : TransportCounters :=
  { counters with queueSize := counters.queueSize - 1 }

def retried (counters : TransportCounters) : TransportCounters :=
  { counters with retryAttempts := counters.retryAttempts + 1 }

def rateLimited (counters : TransportCounters) : TransportCounters :=
  { counters with rateLimitedCount := counters.rateLimitedCount + 1 }

end TransportCounters

def COMPRESSION_THRESHOLD_BYTES : Nat := 1024

structure PreparedBody where
  body : Bytes
  compressed : Bool
  bytesSaved : Nat

/-- Compress a large body when that makes it shorter. -/
def prepareRequestBody (codec : Codec) (raw : Bytes) : PreparedBody :=
  let plain := { body := raw, compressed := false, bytesSaved := 0 }
  if raw.length < COMPRESSION_THRESHOLD_BYTES then plain
  else
    match codec.gzip raw with
    | none => plain
    | some compressed =>
        if raw.length ≤ compressed.length then plain
        else
          { body := compressed
            compressed := true
            bytesSaved := raw.length - compressed.length }

def TransportCounters.prepared (counters : TransportCounters)
    (prepared : PreparedBody) : TransportCounters :=
  if prepared.compressed then
    { counters with
      compressedPayloads := counters.compressedPayloads + 1
      compressionBytesSaved := counters.compressionBytesSaved + prepared.bytesSaved }
  else { counters with uncompressedPayloads := counters.uncompressedPayloads + 1 }

/-- A response: its status and its first `Retry-After` header. -/
structure Response where
  status : Nat
  retryAfter : Option HeaderValue := none

def Response.isServerError (response : Response) : Bool :=
  500 ≤ response.status && response.status < 600

def Response.isSuccess (response : Response) : Bool :=
  200 ≤ response.status && response.status < 300

/-- One attempt: the clock when the request starts and when its answer is
handled, the answer, absent for a network error, and the wall clock from which
the jitter of a pause is taken. -/
structure Exchange where
  startedAt : Instant
  response : Option Response
  handledAt : Instant
  nowMillis : Nat := 0

/-- The answer that ends the attempts: none for a server or network error. -/
def Exchange.answer (exchange : Exchange) : Option Response :=
  exchange.response.filter fun response => !response.isServerError

def MAX_RETRIES : Nat := 3

/-- The header of a 503 response, capped at five minutes. -/
def retryAfter (header : Option HeaderValue) : Option Duration :=
  (header.bind HeaderValue.toStr).map fun value =>
    match Text.parseUnsigned (2 ^ 64 - 1) (Text.trim value) with
    | some seconds => Duration.fromSecs (min seconds 300)
    | none => Duration.fromSecs 60

def backoff (attempt nowMillis : Nat) : Duration :=
  Duration.fromMillis (min (250 * 2 ^ attempt) 4000 + nowMillis % 125)

/-- How long the worker sleeps before the next attempt. -/
def Exchange.pause (exchange : Exchange) (attempt : Nat) : Duration :=
  match exchange.response with
  | some response =>
      if response.status = 503 then
        (retryAfter response.retryAfter).getD (backoff attempt exchange.nowMillis)
      else backoff attempt exchange.nowMillis
  | none => backoff attempt exchange.nowMillis

inductive DeliveryOutcome where
  | accepted
  | permanentFailure
  | retryableFailure
  deriving DecidableEq

/-- What a delivery leaves behind, with the requests it made and the pauses
between them. -/
structure Delivery where
  outcome : DeliveryOutcome
  limiter : RateLimiter
  counters : TransportCounters
  posts : List Exchange := []
  pauses : List Duration := []

def Delivery.after (delivery : Delivery) (exchange : Exchange)
    (pause : Duration) : Delivery :=
  { delivery with
    posts := exchange :: delivery.posts
    pauses := pause :: delivery.pauses }

/-- Handle an answer that is no server error. -/
def settle (category : DataCategory) (exchange : Exchange) (response : Response)
    (limiter : RateLimiter) (counters : TransportCounters) : Option Delivery :=
  if response.status = 429 then
    (limiter.updateFromResponse category response.retryAfter
        exchange.handledAt).map fun limiter =>
      { outcome := .retryableFailure
        limiter
        counters := counters.failed.rateLimited
        posts := [exchange] }
  else if response.isSuccess then
    some { outcome := .accepted, limiter, counters := counters.sent, posts := [exchange] }
  else
    some
      { outcome := .permanentFailure
        limiter
        counters := counters.failed.dropped
        posts := [exchange] }

/-- The attempts that are left, each with its own exchange. -/
def attempts (category : DataCategory) (exchanges : Nat → Exchange)
    (limiter : RateLimiter) : Nat → TransportCounters → Option Delivery
  | retriesLeft, counters =>
      let attempt := MAX_RETRIES - retriesLeft
      let exchange := exchanges attempt
      match exchange.answer with
      | some response => settle category exchange response limiter counters
      | none =>
          match retriesLeft with
          | 0 =>
              some
                { outcome := .retryableFailure
                  limiter
                  counters := counters.failed
                  posts := [exchange] }
          | left + 1 =>
              (attempts category exchanges limiter left counters.retried).map
                fun delivery => delivery.after exchange (exchange.pause attempt)

def deliver (codec : Codec) (envelope : Envelope) (limiter : RateLimiter)
    (counters : TransportCounters) (checkedAt : Instant)
    (exchanges : Nat → Exchange) : Option Delivery :=
  if limiter.isLimited envelope.category checkedAt then
    some { outcome := .retryableFailure, limiter, counters := counters.rateLimited }
  else
    match codec.toVec envelope.body with
    | none =>
        some
          { outcome := .permanentFailure
            limiter
            counters := counters.failed.dropped }
    | some raw =>
        attempts envelope.category exchanges limiter MAX_RETRIES
          (counters.prepared (prepareRequestBody codec raw))

/-- A request on the wire, with its answer.  The server is sent the prepared body
at the path of the envelope. -/
structure Post where
  envelope : Envelope
  prepared : PreparedBody
  exchange : Exchange

/-- The requests a delivery of the envelope makes in these exchanges. -/
def requestsOf (codec : Codec) (envelope : Envelope)
    (exchanges : List Exchange) : List Post :=
  (codec.toVec envelope.body).elim [] fun raw =>
    exchanges.map fun exchange =>
      { envelope, prepared := prepareRequestBody codec raw, exchange }

@[simp] theorem requestsOf_nil (codec : Codec) (envelope : Envelope) :
    requestsOf codec envelope [] = [] := by
  unfold requestsOf
  cases codec.toVec envelope.body <;> rfl

/-- The counters and the requests of attempts that panic at an answer. -/
def attemptsCutShort (exchanges : Nat → Exchange) :
    Nat → TransportCounters → TransportCounters × List Exchange
  | retriesLeft, counters =>
      let exchange := exchanges (MAX_RETRIES - retriesLeft)
      match exchange.answer with
      | some _ => (counters, [exchange])
      | none =>
          match retriesLeft with
          | 0 => (counters, [exchange])
          | left + 1 =>
              let later := attemptsCutShort exchanges left counters.retried
              (later.1, exchange :: later.2)

/-- What a delivery has counted and requested when it panics. -/
def deliverCutShort (codec : Codec) (envelope : Envelope)
    (counters : TransportCounters) (exchanges : Nat → Exchange) :
    TransportCounters × List Exchange :=
  match codec.toVec envelope.body with
  | none => (counters, [])
  | some raw =>
      attemptsCutShort exchanges MAX_RETRIES
        (counters.prepared (prepareRequestBody codec raw))

def Exchange.decisive (exchange : Exchange) : Option (Exchange × Response) :=
  exchange.answer.map fun response => (exchange, response)

/-- The first exchange among the attempts left whose answer ends them. -/
def verdict (exchanges : Nat → Exchange) : Nat → Option (Exchange × Response)
  | 0 => (exchanges MAX_RETRIES).decisive
  | left + 1 =>
      (exchanges (MAX_RETRIES - (left + 1))).decisive.or (verdict exchanges left)

theorem settle_outcome (category : DataCategory) (exchange : Exchange)
    (response : Response) (limiter : RateLimiter)
    (counters : TransportCounters) :
    (settle category exchange response limiter counters).map Delivery.outcome =
      if response.status = 429 then
        (limiter.updateFromResponse category response.retryAfter
          exchange.handledAt).map fun _ => .retryableFailure
      else if response.isSuccess then some .accepted
      else some .permanentFailure := by
  rw [settle]
  split
  · simp [Option.map_map, Function.comp_def]
  · split <;> rfl

/-- The attempts end as their verdict says, or in a retryable failure. -/
theorem attempts_outcome (category : DataCategory) (exchanges : Nat → Exchange)
    (limiter : RateLimiter) (retriesLeft : Nat) (counters : TransportCounters) :
    (attempts category exchanges limiter retriesLeft counters).map
        Delivery.outcome =
      match verdict exchanges retriesLeft with
      | none => some .retryableFailure
      | some (exchange, response) =>
          (settle category exchange response limiter counters).map
            Delivery.outcome := by
  induction retriesLeft generalizing counters with
  | zero =>
      rw [attempts]
      cases answered : (exchanges MAX_RETRIES).answer with
      | none => simp [answered, verdict, Exchange.decisive]
      | some response => simp [answered, verdict, Exchange.decisive]
  | succ left induction =>
      rw [attempts]
      cases answered : (exchanges (MAX_RETRIES - (left + 1))).answer with
      | some response => simp [answered, verdict, Exchange.decisive]
      | none =>
          have later := induction counters.retried
          simp only [answered, verdict, Exchange.decisive, Option.map_none,
            Option.none_or, Option.map_map, Function.comp_def, Delivery.after]
          rw [later]
          cases verdict exchanges left with
          | none => rfl
          | some found => simp only [settle_outcome]

/-- What an answer that is no server error leaves behind. -/
inductive Settled (category : DataCategory) (exchange : Exchange)
    (response : Response) (limiter : RateLimiter) (counters : TransportCounters) :
    Delivery → Prop where
  | limited {updated : RateLimiter} :
      response.status = 429 →
      limiter.updateFromResponse category response.retryAfter
        exchange.handledAt = some updated →
      Settled category exchange response limiter counters
        { outcome := .retryableFailure
          limiter := updated
          counters := counters.failed.rateLimited
          posts := [exchange] }
  | accepted :
      response.status ≠ 429 →
      Settled category exchange response limiter counters
        { outcome := .accepted, limiter, counters := counters.sent, posts := [exchange] }
  | refused :
      response.status ≠ 429 →
      Settled category exchange response limiter counters
        { outcome := .permanentFailure
          limiter
          counters := counters.failed.dropped
          posts := [exchange] }

theorem settled_of_settle {category : DataCategory} {exchange : Exchange}
    {response : Response} {limiter : RateLimiter} {counters : TransportCounters}
    {delivery : Delivery}
    (ends :
      settle category exchange response limiter counters = some delivery) :
    Settled category exchange response limiter counters delivery := by
  rw [settle] at ends
  split at ends
  · rename_i tooMany
    obtain ⟨updated, handled, rfl⟩ := Option.map_eq_some_iff.mp ends
    exact .limited tooMany handled
  · rename_i other
    split at ends
    · cases ends
      exact .accepted other
    · cases ends
      exact .refused other

/-- Attempts end with an answer, with the last one left unanswered, or go on. -/
inductive Attempted (category : DataCategory) (exchanges : Nat → Exchange)
    (limiter : RateLimiter) : Nat → TransportCounters → Delivery → Prop where
  | settled {left : Nat} {counters : TransportCounters} {response : Response}
      {delivery : Delivery} :
      (exchanges (MAX_RETRIES - left)).answer = some response →
      Settled category (exchanges (MAX_RETRIES - left)) response limiter counters
        delivery →
      Attempted category exchanges limiter left counters delivery
  | exhausted {counters : TransportCounters} :
      (exchanges MAX_RETRIES).answer = none →
      Attempted category exchanges limiter 0 counters
        { outcome := .retryableFailure
          limiter
          counters := counters.failed
          posts := [exchanges MAX_RETRIES] }
  | retried {left : Nat} {counters : TransportCounters} {later : Delivery}
      {pause : Duration} :
      (exchanges (MAX_RETRIES - (left + 1))).answer = none →
      Attempted category exchanges limiter left counters.retried later →
      Attempted category exchanges limiter (left + 1) counters
        (later.after (exchanges (MAX_RETRIES - (left + 1))) pause)

theorem attempted_of_attempts {category : DataCategory}
    {exchanges : Nat → Exchange} {limiter : RateLimiter} {retriesLeft : Nat}
    {counters : TransportCounters} {delivery : Delivery}
    (delivered :
      attempts category exchanges limiter retriesLeft counters = some delivery) :
    Attempted category exchanges limiter retriesLeft counters delivery := by
  induction retriesLeft generalizing counters delivery with
  | zero =>
      rw [attempts] at delivered
      cases answered : (exchanges MAX_RETRIES).answer with
      | some response =>
          simp only [Nat.sub_zero, answered] at delivered
          exact .settled answered (settled_of_settle delivered)
      | none =>
          simp only [Nat.sub_zero, answered, Option.some.injEq] at delivered
          subst delivered
          exact .exhausted answered
  | succ left induction =>
      rw [attempts] at delivered
      cases answered : (exchanges (MAX_RETRIES - (left + 1))).answer with
      | some response =>
          simp only [answered] at delivered
          exact .settled answered (settled_of_settle delivered)
      | none =>
          simp only [answered] at delivered
          obtain ⟨later, found, rfl⟩ := Option.map_eq_some_iff.mp delivered
          exact .retried answered (induction found)

/-- A delivery is held back, has no body to send, or makes its attempts. -/
inductive Delivered (codec : Codec) (envelope : Envelope) (limiter : RateLimiter)
    (counters : TransportCounters) (checkedAt : Instant)
    (exchanges : Nat → Exchange) : Delivery → Prop where
  | limited :
      limiter.isLimited envelope.category checkedAt = true →
      Delivered codec envelope limiter counters checkedAt exchanges
        { outcome := .retryableFailure, limiter, counters := counters.rateLimited }
  | unserialized :
      limiter.isLimited envelope.category checkedAt = false →
      codec.toVec envelope.body = none →
      Delivered codec envelope limiter counters checkedAt exchanges
        { outcome := .permanentFailure
          limiter
          counters := counters.failed.dropped }
  | attempted {raw : Bytes} {delivery : Delivery} :
      limiter.isLimited envelope.category checkedAt = false →
      codec.toVec envelope.body = some raw →
      Attempted envelope.category exchanges limiter MAX_RETRIES
        (counters.prepared (prepareRequestBody codec raw)) delivery →
      Delivered codec envelope limiter counters checkedAt exchanges delivery

theorem delivered_of_deliver {codec : Codec} {envelope : Envelope}
    {limiter : RateLimiter} {counters : TransportCounters} {checkedAt : Instant}
    {exchanges : Nat → Exchange} {delivery : Delivery}
    (delivered :
      deliver codec envelope limiter counters checkedAt exchanges =
        some delivery) :
    Delivered codec envelope limiter counters checkedAt exchanges delivery := by
  rw [deliver] at delivered
  cases limited : limiter.isLimited envelope.category checkedAt with
  | true =>
      rw [if_pos limited] at delivered
      cases delivered
      exact .limited limited
  | false =>
      rw [if_neg (by rw [limited]; exact Bool.false_ne_true)] at delivered
      cases encoded : codec.toVec envelope.body with
      | none =>
          rw [encoded] at delivered
          cases delivered
          exact .unserialized limited encoded
      | some raw =>
          rw [encoded] at delivered
          exact .attempted limited encoded (attempted_of_attempts delivered)

theorem Attempted.eventsDropped {category : DataCategory}
    {exchanges : Nat → Exchange} {limiter : RateLimiter} {retriesLeft : Nat}
    {counters : TransportCounters} {delivery : Delivery}
    (attempted :
      Attempted category exchanges limiter retriesLeft counters delivery) :
    delivery.counters.eventsDropped =
      counters.eventsDropped +
        if delivery.outcome = .permanentFailure then 1 else 0 := by
  induction attempted with
  | settled _ settled => cases settled <;> rfl
  | exhausted => rfl
  | retried _ _ induction => exact induction

theorem TransportCounters.prepared_eventsDropped (counters : TransportCounters)
    (body : PreparedBody) :
    (counters.prepared body).eventsDropped = counters.eventsDropped := by
  rw [prepared]
  split <;> rfl

/-- A delivery counts a dropped event exactly when it fails for good. -/
theorem deliver_eventsDropped {codec : Codec} {envelope : Envelope}
    {limiter : RateLimiter} {counters : TransportCounters} {checkedAt : Instant}
    {exchanges : Nat → Exchange} {delivery : Delivery}
    (delivered :
      deliver codec envelope limiter counters checkedAt exchanges =
        some delivery) :
    delivery.counters.eventsDropped =
      counters.eventsDropped +
        if delivery.outcome = .permanentFailure then 1 else 0 := by
  cases delivered_of_deliver delivered with
  | limited | unserialized => rfl
  | @attempted raw delivery _ _ attempted =>
      rw [attempted.eventsDropped, TransportCounters.prepared_eventsDropped]

/-- A reading of the counters that no update of a delivery changes. -/
structure TransportCounters.Untouched (read : TransportCounters → Nat) : Prop where
  sent : ∀ counters, read (counters.sent) = read counters
  failed : ∀ counters, read (counters.failed) = read counters
  dropped : ∀ counters, read (counters.dropped) = read counters
  retried : ∀ counters, read (counters.retried) = read counters
  rateLimited : ∀ counters, read (counters.rateLimited) = read counters
  prepared : ∀ counters body, read (counters.prepared body) = read counters

theorem Attempted.untouched {read : TransportCounters → Nat}
    (untouched : TransportCounters.Untouched read) {category : DataCategory}
    {exchanges : Nat → Exchange} {limiter : RateLimiter} {retriesLeft : Nat}
    {counters : TransportCounters} {delivery : Delivery}
    (attempted :
      Attempted category exchanges limiter retriesLeft counters delivery) :
    read delivery.counters = read counters := by
  induction attempted with
  | settled _ settled =>
      cases settled with
      | limited => simp only [untouched.rateLimited, untouched.failed]
      | accepted => exact untouched.sent _
      | refused => simp only [untouched.dropped, untouched.failed]
  | exhausted => exact untouched.failed _
  | retried _ _ induction => exact induction.trans (untouched.retried _)

theorem deliver_untouched {read : TransportCounters → Nat}
    (untouched : TransportCounters.Untouched read) {codec : Codec}
    {envelope : Envelope} {limiter : RateLimiter} {counters : TransportCounters}
    {checkedAt : Instant} {exchanges : Nat → Exchange} {delivery : Delivery}
    (delivered :
      deliver codec envelope limiter counters checkedAt exchanges =
        some delivery) :
    read delivery.counters = read counters := by
  cases delivered_of_deliver delivered with
  | limited => exact untouched.rateLimited counters
  | unserialized => simp only [untouched.dropped, untouched.failed]
  | attempted _ _ attempted =>
      exact (attempted.untouched untouched).trans (untouched.prepared counters _)

theorem attemptsCutShort_untouched {read : TransportCounters → Nat}
    (retried : ∀ counters, read (counters.retried) = read counters)
    (exchanges : Nat → Exchange) (retriesLeft : Nat)
    (counters : TransportCounters) :
    read (attemptsCutShort exchanges retriesLeft counters).1 =
      read counters := by
  induction retriesLeft generalizing counters with
  | zero =>
      rw [attemptsCutShort]
      cases (exchanges (MAX_RETRIES - 0)).answer <;> rfl
  | succ left induction =>
      rw [attemptsCutShort]
      cases (exchanges (MAX_RETRIES - (left + 1))).answer with
      | some response => rfl
      | none => exact (induction counters.retried).trans (retried counters)

/-- A delivery that panics has counted its body and its retries alone. -/
theorem deliverCutShort_untouched {read : TransportCounters → Nat}
    (retried : ∀ counters, read (counters.retried) = read counters)
    (prepared : ∀ counters body, read (counters.prepared body) = read counters)
    (codec : Codec) (envelope : Envelope) (counters : TransportCounters)
    (exchanges : Nat → Exchange) :
    read (deliverCutShort codec envelope counters exchanges).1 =
      read counters := by
  unfold deliverCutShort
  cases codec.toVec envelope.body with
  | none => rfl
  | some raw =>
      exact (attemptsCutShort_untouched retried exchanges MAX_RETRIES _).trans
        (prepared counters _)

theorem Attempted.posts {category : DataCategory}
    {exchanges : Nat → Exchange} {limiter : RateLimiter} {retriesLeft : Nat}
    {counters : TransportCounters} {delivery : Delivery}
    (attempted :
      Attempted category exchanges limiter retriesLeft counters delivery) :
    delivery.posts ≠ [] := by
  cases attempted with
  | settled _ settled => cases settled <;> exact List.cons_ne_nil _ _
  | exhausted | retried => exact List.cons_ne_nil _ _

/-- A delivery that is settled, of a body that was serialized, has made a
request. -/
theorem deliver_posts {codec : Codec} {envelope : Envelope}
    {limiter : RateLimiter} {counters : TransportCounters} {checkedAt : Instant}
    {exchanges : Nat → Exchange} {delivery : Delivery}
    (delivered : deliver codec envelope limiter counters checkedAt exchanges =
      some delivery)
    (settled : delivery.outcome ≠ .retryableFailure)
    (serialized : (codec.toVec envelope.body).isSome) : delivery.posts ≠ [] := by
  cases delivered_of_deliver delivered with
  | limited => exact absurd rfl settled
  | unserialized _ failed =>
      rw [failed] at serialized
      cases serialized
  | attempted _ _ attempted => exact attempted.posts

/-- The requests of a delivery are made in its exchanges. -/
theorem requestsOf_exchanges {codec : Codec} {envelope : Envelope}
    {limiter : RateLimiter} {counters : TransportCounters} {checkedAt : Instant}
    {exchanges : Nat → Exchange} {delivery : Delivery}
    (delivered : deliver codec envelope limiter counters checkedAt exchanges =
      some delivery) :
    (requestsOf codec envelope delivery.posts).map Post.exchange =
      delivery.posts := by
  unfold requestsOf
  cases encoded : codec.toVec envelope.body with
  | some raw => simp [Function.comp_def]
  | none =>
      cases delivered_of_deliver delivered with
      | limited | unserialized => rfl
      | attempted _ serialized =>
          rw [encoded] at serialized
          cases serialized

/-- The outcome of a delivery that gets to its requests. -/
theorem deliver_outcome {codec : Codec} {envelope : Envelope}
    {limiter : RateLimiter} {counters : TransportCounters} {checkedAt : Instant}
    {exchanges : Nat → Exchange} {raw : Bytes}
    (free : limiter.isLimited envelope.category checkedAt = false)
    (encoded : codec.toVec envelope.body = some raw) :
    (deliver codec envelope limiter counters checkedAt exchanges).map
        Delivery.outcome =
      match verdict exchanges MAX_RETRIES with
      | none => some .retryableFailure
      | some (exchange, response) =>
          if response.status = 429 then
            (limiter.updateFromResponse envelope.category response.retryAfter
              exchange.handledAt).map fun _ => .retryableFailure
          else if response.isSuccess then some .accepted
          else some .permanentFailure := by
  simp only [deliver, free, encoded, Bool.false_eq_true, if_false,
    attempts_outcome, settle_outcome]

/-- A delivery without its counters. -/
def Delivery.uncounted (delivery : Delivery) : Delivery :=
  { delivery with counters := {} }

theorem settle_uncounted (category : DataCategory) (exchange : Exchange)
    (response : Response) (limiter : RateLimiter)
    (counters others : TransportCounters) :
    (settle category exchange response limiter counters).map
        Delivery.uncounted =
      (settle category exchange response limiter others).map
        Delivery.uncounted := by
  unfold settle
  split
  · rw [Option.map_map, Option.map_map]
    rfl
  · split <;> rfl

theorem attempts_uncounted (category : DataCategory)
    (exchanges : Nat → Exchange) (limiter : RateLimiter) (left : Nat)
    (counters others : TransportCounters) :
    (attempts category exchanges limiter left counters).map
        Delivery.uncounted =
      (attempts category exchanges limiter left others).map
        Delivery.uncounted := by
  induction left generalizing counters others with
  | zero =>
      rw [attempts, attempts]
      cases (exchanges (MAX_RETRIES - 0)).answer with
      | none => rfl
      | some response => exact settle_uncounted _ _ _ _ _ _
  | succ left induction =>
      rw [attempts, attempts]
      cases (exchanges (MAX_RETRIES - (left + 1))).answer with
      | some response => exact settle_uncounted _ _ _ _ _ _
      | none =>
          have later := congrArg
            (Option.map fun delivery : Delivery =>
              delivery.after (exchanges (MAX_RETRIES - (left + 1)))
                ((exchanges (MAX_RETRIES - (left + 1))).pause
                  (MAX_RETRIES - (left + 1))))
            (induction counters.retried others.retried)
          rw [Option.map_map, Option.map_map] at later
          dsimp only
          rw [Option.map_map, Option.map_map]
          exact later

/-- What a delivery does does not depend on the counters. -/
theorem deliver_uncounted (codec : Codec) (envelope : Envelope)
    (limiter : RateLimiter) (counters others : TransportCounters)
    (checkedAt : Instant) (exchanges : Nat → Exchange) :
    (deliver codec envelope limiter counters checkedAt exchanges).map
        Delivery.uncounted =
      (deliver codec envelope limiter others checkedAt exchanges).map
        Delivery.uncounted := by
  unfold deliver
  split
  · rfl
  · cases codec.toVec envelope.body with
    | none => rfl
    | some raw => exact attempts_uncounted _ _ _ _ _ _

end Allstak
