import Allstak.Transport.RetryAfter

/-!
# Rate limits are kept

The limiter is asked once for each delivery, while the delivery may post four
times.  A 429 ends the delivery, so the deadline it sets replaces one that had
passed when the delivery was let through: a deadline is never moved forward in
time, and every request starts after all of them.

A request is recorded with the clock when it starts and when its answer is
handled; the clock of one worker does not run backwards.  A hold that ends past
the clock's range kills the worker: it makes no further request, and those of
its last delivery are not recorded.
-/

namespace Allstak

namespace Exchange

/-- The `Retry-After` header of a 429 answer, if the answer is one. -/
def limiting (exchange : Exchange) : Option (Option HeaderValue) :=
  (exchange.response.filter fun response => response.status = 429).map
    Response.retryAfter

theorem limiting_eq_none_of_answer {exchange : Exchange}
    (unanswered : exchange.answer = none) : exchange.limiting = none := by
  unfold answer at unanswered
  unfold limiting
  cases answered : exchange.response with
  | none => rfl
  | some response =>
      rw [answered] at unanswered
      have serverError : response.isServerError = true := by
        simpa [Option.filter] using unanswered
      have other : response.status ≠ 429 := by
        intro tooMany
        rw [Response.isServerError, tooMany] at serverError
        cases serverError
      simp [Option.filter, other]

theorem limiting_eq_of_answer {exchange : Exchange} {response : Response}
    (answered : exchange.answer = some response) :
    exchange.limiting =
      if response.status = 429 then some response.retryAfter else none := by
  have received : exchange.response = some response :=
    (Option.filter_eq_some_iff.mp answered).1
  rw [limiting, received]
  by_cases tooMany : response.status = 429
  · simp [Option.filter, tooMany]
  · simp [Option.filter, tooMany]

end Exchange

namespace RateLimiter

/-- The header is there as text. -/
def Readable (header : Option HeaderValue) : Prop :=
  (header.bind HeaderValue.toStr).isSome = true

instance (header : Option HeaderValue) : Decidable (Readable header) :=
  inferInstanceAs (Decidable (_ = _))

/-- The clock reading at which the hold of a 429 answer ends. -/
def holdEnds (header : Option HeaderValue) (handledAt : Instant) : Int :=
  handledAt.nanos + Duration.fromSecs (heldSeconds header)

/-- The deadline is there and not before this reading. -/
def Reaches (deadline : Option Instant) (reading : Int) : Prop :=
  ∃ instant, deadline = some instant ∧ reading ≤ instant.nanos

/-- The limiter holds what an answer for the category asked to hold. -/
def Observes (limiter : RateLimiter) (category : DataCategory)
    (exchange : Exchange) : Prop :=
  ∀ header, exchange.limiting = some header →
    Reaches (if Readable header then limiter.global else limiter.limits category)
      (holdEnds header exchange.handledAt)

/-- The clock is past a deadline that does not limit. -/
theorem le_of_isLimited_eq_false {limiter : RateLimiter}
    {category : DataCategory} {now : Instant} {reading : Int}
    (free : limiter.isLimited category now = false) :
    (Reaches limiter.global reading → reading ≤ now.nanos) ∧
      (Reaches (limiter.limits category) reading → reading ≤ now.nanos) := by
  unfold isLimited Instant.before at free
  constructor
  · rintro ⟨deadline, held, before⟩
    rw [held] at free
    simp only [Bool.or_eq_false_iff, decide_eq_false_iff_not] at free
    omega
  · rintro ⟨deadline, held, before⟩
    rw [held] at free
    simp only [Bool.or_eq_false_iff, decide_eq_false_iff_not] at free
    omega

theorem isLimited_eq_false_of_le {limiter : RateLimiter}
    {category : DataCategory} {now later : Instant}
    (free : limiter.isLimited category now = false)
    (ordered : now.nanos ≤ later.nanos) :
    limiter.isLimited category later = false := by
  unfold isLimited Instant.before at free ⊢
  rw [Bool.or_eq_false_iff] at free ⊢
  constructor
  · cases held : limiter.global with
    | none => rfl
    | some deadline =>
        have passed := free.1
        simp only [held, decide_eq_false_iff_not] at passed ⊢
        omega
  · cases held : limiter.limits category with
    | none => rfl
    | some deadline =>
        have passed := free.2
        simp only [held, decide_eq_false_iff_not] at passed ⊢
        omega

private theorem nanos_of_add {now deadline : Instant} {duration : Duration}
    (added : now.add duration = some deadline) :
    deadline.nanos = now.nanos + duration := by
  rw [Instant.add] at added
  split at added
  · cases added
    rfl
  · cases added

/-- A 429 answer sets one deadline, where its hold ends. -/
theorem updateFromResponse_cases {limiter updated : RateLimiter}
    {category : DataCategory} {header : Option HeaderValue} {now : Instant}
    (handled :
      limiter.updateFromResponse category header now = some updated) :
    ∃ deadline : Instant, deadline.nanos = holdEnds header now ∧
      updated =
        if Readable header then { limiter with global := some deadline }
        else
          { limiter with
            limits := Function.update limiter.limits category (some deadline) } := by
  unfold updateFromResponse at handled
  cases readable : header.bind HeaderValue.toStr with
  | some value =>
      rw [readable] at handled
      obtain ⟨deadline, added, rfl⟩ := Option.map_eq_some_iff.mp handled
      refine ⟨deadline, ?_, by rw [if_pos (by rw [Readable, readable]; rfl)]⟩
      rw [nanos_of_add added, holdEnds, heldSeconds, readable, Option.bind_some,
        parseRetryAfter]
      cases Text.parseUnsigned (2 ^ 64 - 1) (Text.trim value) <;> rfl
  | none =>
      rw [readable] at handled
      obtain ⟨deadline, added, rfl⟩ := Option.map_eq_some_iff.mp handled
      refine ⟨deadline, ?_, by rw [if_neg (by rw [Readable, readable]; decide)]⟩
      rw [nanos_of_add added, holdEnds, heldSeconds, readable]
      rfl

/-- Handling a 429 answer shortens no hold when the delivery was let through. -/
theorem Observes.updated {limiter updated : RateLimiter}
    {category other : DataCategory} {exchange : Exchange}
    {header : Option HeaderValue} {checkedAt now : Instant}
    (observes : limiter.Observes other exchange)
    (free : limiter.isLimited category checkedAt = false)
    (ordered : checkedAt.nanos ≤ now.nanos)
    (handled :
      limiter.updateFromResponse category header now = some updated) :
    updated.Observes other exchange := by
  intro earlier limited
  have held := observes earlier limited
  obtain ⟨deadline, ends, rfl⟩ := updateFromResponse_cases handled
  have late : now.nanos ≤ deadline.nanos := by
    rw [ends, holdEnds]
    omega
  obtain ⟨globalPassed, categoryPassed⟩ := @le_of_isLimited_eq_false limiter
    category checkedAt (holdEnds earlier exchange.handledAt) free
  by_cases text : Readable header
  · rw [if_pos text]
    by_cases earlierText : Readable earlier
    · rw [if_pos earlierText] at held ⊢
      have passed := globalPassed held
      exact ⟨deadline, rfl, by omega⟩
    · rw [if_neg earlierText] at held ⊢
      exact held
  · rw [if_neg text]
    by_cases earlierText : Readable earlier
    · rw [if_pos earlierText] at held ⊢
      exact held
    · rw [if_neg earlierText] at held ⊢
      by_cases same : other = category
      · subst same
        have passed := categoryPassed held
        exact ⟨deadline, Function.update_self .., by omega⟩
      · obtain ⟨instant, set, reading⟩ := held
        refine ⟨instant, ?_, reading⟩
        simp only [Function.update_of_ne same, set]

theorem observes_of_updated {limiter updated : RateLimiter}
    {category : DataCategory} {exchange : Exchange}
    {header : Option HeaderValue} (limited : exchange.limiting = some header)
    (handled : limiter.updateFromResponse category header exchange.handledAt =
      some updated) :
    updated.Observes category exchange := by
  intro other limitedOther
  rw [limited] at limitedOther
  cases limitedOther
  obtain ⟨deadline, ends, rfl⟩ := updateFromResponse_cases handled
  by_cases text : Readable header
  · rw [if_pos text, if_pos text]
    exact ⟨deadline, rfl, ends.ge⟩
  · rw [if_neg text, if_neg text]
    exact ⟨deadline, Function.update_self .., ends.ge⟩

end RateLimiter

/-- The clock readings of a delivery, none before an earlier one. -/
structure Ordered (checkedAt : Instant) (exchanges : Nat → Exchange) : Prop where
  checked : checkedAt.nanos ≤ (exchanges 0).startedAt.nanos
  handled : ∀ attempt ≤ MAX_RETRIES,
    (exchanges attempt).startedAt.nanos ≤ (exchanges attempt).handledAt.nanos
  retried : ∀ attempt < MAX_RETRIES,
    (exchanges attempt).handledAt.nanos ≤ (exchanges (attempt + 1)).startedAt.nanos

instance (checkedAt : Instant) (exchanges : Nat → Exchange) :
    Decidable (Ordered checkedAt exchanges) :=
  decidable_of_iff
    (checkedAt.nanos ≤ (exchanges 0).startedAt.nanos ∧
      (∀ attempt ≤ MAX_RETRIES, (exchanges attempt).startedAt.nanos ≤
        (exchanges attempt).handledAt.nanos) ∧
      ∀ attempt < MAX_RETRIES, (exchanges attempt).handledAt.nanos ≤
        (exchanges (attempt + 1)).startedAt.nanos)
    ⟨fun ⟨checked, handled, retried⟩ => ⟨checked, handled, retried⟩,
      fun ordered => ⟨ordered.checked, ordered.handled, ordered.retried⟩⟩

/-- Requests made one after the other from a reading on, of which only the last
can be answered with a 429, and the limiter they leave; none when the worker
panics at that answer. -/
inductive Posted (category : DataCategory) (limiter : RateLimiter) :
    Instant → List Exchange → Option RateLimiter → Prop where
  | none (since : Instant) : Posted category limiter since [] (some limiter)
  | unlimited {since : Instant} {exchange : Exchange} {posts : List Exchange}
      {after : Option RateLimiter} :
      since.nanos ≤ exchange.startedAt.nanos →
      exchange.startedAt.nanos ≤ exchange.handledAt.nanos →
      exchange.limiting = .none →
      Posted category limiter exchange.handledAt posts after →
      Posted category limiter since (exchange :: posts) after
  | limited {since : Instant} {exchange : Exchange}
      {header : Option HeaderValue} {after : Option RateLimiter} :
      since.nanos ≤ exchange.startedAt.nanos →
      exchange.startedAt.nanos ≤ exchange.handledAt.nanos →
      exchange.limiting = some header →
      limiter.updateFromResponse category header exchange.handledAt =
        after →
      Posted category limiter since [exchange] after

theorem Settled.posted {category : DataCategory} {exchange : Exchange}
    {response : Response} {limiter : RateLimiter} {counters : TransportCounters}
    {delivery : Delivery} {since : Instant}
    (settled : Settled category exchange response limiter counters delivery)
    (answered : exchange.answer = some response)
    (started : since.nanos ≤ exchange.startedAt.nanos)
    (handled : exchange.startedAt.nanos ≤ exchange.handledAt.nanos) :
    Posted category limiter since delivery.posts (some delivery.limiter) := by
  have limiting := Exchange.limiting_eq_of_answer answered
  cases settled with
  | limited tooMany held =>
      rw [if_pos tooMany] at limiting
      exact .limited started handled limiting held
  | accepted other | refused other =>
      rw [if_neg other] at limiting
      exact .unlimited started handled limiting (.none _)

theorem Attempted.posted {category : DataCategory} {exchanges : Nat → Exchange}
    {limiter : RateLimiter} {retriesLeft : Nat} {counters : TransportCounters}
    {delivery : Delivery} {checkedAt since : Instant}
    (attempted :
      Attempted category exchanges limiter retriesLeft counters delivery)
    (ordered : Ordered checkedAt exchanges)
    (few : retriesLeft ≤ MAX_RETRIES)
    (started : since.nanos ≤
      (exchanges (MAX_RETRIES - retriesLeft)).startedAt.nanos) :
    Posted category limiter since delivery.posts (some delivery.limiter) := by
  induction attempted generalizing since with
  | settled answered settled =>
      exact settled.posted answered started (ordered.handled _ (Nat.sub_le _ _))
  | exhausted unanswered =>
      exact .unlimited started (ordered.handled _ (Nat.le_refl _))
        (Exchange.limiting_eq_none_of_answer unanswered) (.none _)
  | @retried left counters later pause unanswered _ induction =>
      have retried := ordered.retried (MAX_RETRIES - (left + 1)) (by omega)
      rw [show MAX_RETRIES - (left + 1) + 1 = MAX_RETRIES - left by omega]
        at retried
      exact .unlimited started (ordered.handled _ (Nat.sub_le _ _))
        (Exchange.limiting_eq_none_of_answer unanswered)
        (induction (by omega) retried)

/-- A delivery makes no request, or was let through and makes some. -/
theorem deliver_posted {codec : Codec} {envelope : Envelope}
    {limiter : RateLimiter} {counters : TransportCounters} {checkedAt : Instant}
    {exchanges : Nat → Exchange} {delivery : Delivery}
    (ordered : Ordered checkedAt exchanges)
    (delivered :
      deliver codec envelope limiter counters checkedAt exchanges =
        some delivery) :
    delivery.posts = [] ∧ delivery.limiter = limiter ∨
      limiter.isLimited envelope.category checkedAt = false ∧
        (∃ raw, codec.toVec envelope.body = some raw) ∧
        Posted envelope.category limiter checkedAt delivery.posts
          (some delivery.limiter) := by
  cases delivered_of_deliver delivered with
  | limited => exact .inl ⟨rfl, rfl⟩
  | unserialized => exact .inl ⟨rfl, rfl⟩
  | attempted free encoded attempted =>
      exact .inr ⟨free, ⟨_, encoded⟩,
        attempted.posted ordered (Nat.le_refl _) ordered.checked⟩

theorem attemptsCutShort_posted {category : DataCategory}
    {exchanges : Nat → Exchange} {limiter : RateLimiter} {retriesLeft : Nat}
    {counters : TransportCounters} {checkedAt since : Instant}
    (ordered : Ordered checkedAt exchanges) (few : retriesLeft ≤ MAX_RETRIES)
    (started : since.nanos ≤
      (exchanges (MAX_RETRIES - retriesLeft)).startedAt.nanos)
    (panicked :
      attempts category exchanges limiter retriesLeft counters = none) :
    Posted category limiter since
      (attemptsCutShort exchanges retriesLeft counters).2 none := by
  have last {attempt : Nat} {response : Response} (bounded : attempt ≤ MAX_RETRIES)
      (since : Instant)
      (started : since.nanos ≤ (exchanges attempt).startedAt.nanos)
      (answered : (exchanges attempt).answer = some response)
      {counters : TransportCounters}
      (unsettled : settle category (exchanges attempt) response limiter counters =
        none) :
      Posted category limiter since [exchanges attempt] none := by
    have limiting := Exchange.limiting_eq_of_answer answered
    rw [settle] at unsettled
    split at unsettled
    · rename_i tooMany
      rw [if_pos tooMany] at limiting
      exact .limited started (ordered.handled _ bounded) limiting
        (Option.map_eq_none_iff.mp unsettled)
    · split at unsettled <;> cases unsettled
  induction retriesLeft generalizing since counters with
  | zero =>
      rw [attempts] at panicked
      rw [attemptsCutShort]
      cases answered : (exchanges (MAX_RETRIES - 0)).answer with
      | none =>
          simp only [answered] at panicked
          cases panicked
      | some response =>
          simp only [answered] at panicked
          exact last (Nat.sub_le _ _) since started answered panicked
  | succ left induction =>
      rw [attempts] at panicked
      rw [attemptsCutShort]
      cases answered : (exchanges (MAX_RETRIES - (left + 1))).answer with
      | some response =>
          simp only [answered] at panicked
          exact last (Nat.sub_le _ _) since started answered panicked
      | none =>
          simp only [answered] at panicked
          have retried := ordered.retried (MAX_RETRIES - (left + 1)) (by omega)
          rw [show MAX_RETRIES - (left + 1) + 1 = MAX_RETRIES - left by omega]
            at retried
          exact .unlimited started (ordered.handled _ (Nat.sub_le _ _))
            (Exchange.limiting_eq_none_of_answer answered)
            (induction (by omega) retried (Option.map_eq_none_iff.mp panicked))

/-- A delivery that panics was let through and made requests. -/
theorem deliverCutShort_posted {codec : Codec} {envelope : Envelope}
    {limiter : RateLimiter} {counters : TransportCounters} {checkedAt : Instant}
    {exchanges : Nat → Exchange} (ordered : Ordered checkedAt exchanges)
    (panicked :
      deliver codec envelope limiter counters checkedAt exchanges = none) :
    limiter.isLimited envelope.category checkedAt = false ∧
      (∃ raw, codec.toVec envelope.body = some raw) ∧
      Posted envelope.category limiter checkedAt
        (deliverCutShort codec envelope counters exchanges).2 none := by
  rw [deliver] at panicked
  split at panicked
  · cases panicked
  · rename_i free
    rw [Bool.not_eq_true] at free
    cases encoded : codec.toVec envelope.body with
    | none =>
        rw [encoded] at panicked
        cases panicked
    | some raw =>
        rw [encoded] at panicked
        rw [deliverCutShort, encoded]
        exact ⟨free, ⟨raw, rfl⟩,
          attemptsCutShort_posted ordered (Nat.le_refl _) ordered.checked
            panicked⟩

namespace Transport

/-- The later request starts when the earlier one is over, and when the hold of
its answer, if it concerns the later one, has ended. -/
def Spared (earlier later : Post) : Prop :=
  earlier.exchange.handledAt.nanos ≤ later.exchange.startedAt.nanos ∧
    ∀ header, earlier.exchange.limiting = some header →
      RateLimiter.Readable header ∨
        earlier.envelope.category = later.envelope.category →
      RateLimiter.holdEnds header earlier.exchange.handledAt ≤
        later.exchange.startedAt.nanos

structure Kept (limiter : RateLimiter) (posts : List Post) : Prop where
  spared : posts.Pairwise Spared
  observes : ∀ post ∈ posts,
    limiter.Observes post.envelope.category post.exchange

/-- A request let through by the limiter is spared by all before it. -/
theorem Kept.spared_post {limiter : RateLimiter} {posts : List Post}
    (kept : Kept limiter posts) {since : Instant} {post : Post}
    (free : limiter.isLimited post.envelope.category since = false)
    (past : ∀ earlier ∈ posts, earlier.exchange.handledAt.nanos ≤ since.nanos)
    (started : since.nanos ≤ post.exchange.startedAt.nanos) :
    (posts ++ [post]).Pairwise Spared := by
  apply List.pairwise_append.mpr
  refine ⟨kept.spared, List.pairwise_singleton _ _, ?_⟩
  intro earlier member later single
  rw [List.mem_singleton.mp single]
  refine ⟨(past earlier member).trans started, ?_⟩
  intro header limited concerns
  have held := kept.observes earlier member header limited
  obtain ⟨globalPassed, categoryPassed⟩ :=
    @RateLimiter.le_of_isLimited_eq_false limiter post.envelope.category since
      (RateLimiter.holdEnds header earlier.exchange.handledAt) free
  refine le_trans ?_ started
  by_cases text : RateLimiter.Readable header
  · rw [if_pos text] at held
    exact globalPassed held
  · rw [if_neg text] at held
    rcases concerns with readable | same
    · exact absurd readable text
    · rw [same] at held
      exact categoryPassed held

/-- The requests of a delivery that was let through. -/
theorem Kept.posted {limiter : RateLimiter} {after : Option RateLimiter}
    {posts : List Post} {envelope : Envelope} (prepared : PreparedBody)
    {since : Instant} {made : List Exchange} (kept : Kept limiter posts)
    (free : limiter.isLimited envelope.category since = false)
    (past : ∀ post ∈ posts, post.exchange.handledAt.nanos ≤ since.nanos)
    (posted : Posted envelope.category limiter since made after) :
    let posts := posts ++ made.map (Post.mk envelope prepared)
    posts.Pairwise Spared ∧ ∀ updated ∈ after, Kept updated posts := by
  induction posted generalizing posts with
  | none since =>
      rw [List.map_nil, List.append_nil]
      refine ⟨kept.spared, ?_⟩
      intro updated same
      cases same
      exact kept
  | @unlimited since exchange made after started handled unlimited _ induction =>
      rw [List.map_cons, ← List.singleton_append, ← List.append_assoc]
      apply induction
      · refine ⟨kept.spared_post free past started, ?_⟩
        intro post member
        rcases List.mem_append.mp member with old | new
        · exact kept.observes post old
        · rw [List.mem_singleton.mp new]
          intro header limited
          rw [unlimited] at limited
          cases limited
      · exact RateLimiter.isLimited_eq_false_of_le free (started.trans handled)
      · intro post member
        rcases List.mem_append.mp member with old | new
        · exact (past post old).trans (started.trans handled)
        · rw [List.mem_singleton.mp new]
  | @limited since exchange header after started handled limited updated =>
      have spared : (posts ++ [Post.mk envelope prepared exchange]).Pairwise
          Spared := kept.spared_post free past started
      refine ⟨spared, fun held same => ⟨spared, ?_⟩⟩
      cases same
      intro post member
      rcases List.mem_append.mp member with old | new
      · exact (kept.observes post old).updated free (started.trans handled) updated
      · rw [List.mem_singleton.mp new]
        exact RateLimiter.observes_of_updated limited updated

/-- The clock readings of a step that delivers. -/
def Label.clock? : Label → Option (Instant × (Nat → Exchange))
  | .worker (.replay checkedAt exchanges) => some (checkedAt, exchanges)
  | .worker (.deliver checkedAt exchanges) => some (checkedAt, exchanges)
  | _ => none

/-- The clock read for a delivery is not before an answer handled earlier, and
runs forwards during the delivery. -/
def Monotone (state : State) (label : Label) : Prop :=
  ∀ clock ∈ label.clock?,
    (∀ post ∈ state.posts, post.exchange.handledAt.nanos ≤ clock.1.nanos) ∧
      Ordered clock.1 clock.2

instance (state : State) (label : Label) : Decidable (Monotone state label) :=
  inferInstanceAs (Decidable (∀ clock ∈ label.clock?, _))

namespace State

theorem PersistMove.posts {settings : Settings} {parcel : Parcel}
    {action : PersistAction} {stage : PersistStage}
    {next : Option PersistStage} {state after : State}
    (move : PersistMove settings parcel state action stage next after) :
    after.limiter = state.limiter ∧ after.posts = state.posts := by
  obtain ⟨files, names, counters, stored, dropped, spoiled, evicted, rfl⟩ :=
    move.frame
  exact ⟨rfl, rfl⟩

theorem ThreadMove.posts {settings : Settings} {index : Nat}
    {activity : Activity} {action : ThreadAction} {state after : State}
    (move : ThreadMove settings index state activity action after) :
    after.limiter = state.limiter ∧ after.posts = state.posts := by
  cases move with
  | spooling persisted | spooled persisted => exact persisted.posts
  | taken | unheard | timeout | acknowledge =>
      rw [endFlush_eq]
      exact ⟨rfl, rfl⟩
  | _ => exact ⟨rfl, rfl⟩

/-- The requests are spaced, and the limiter of a worker that is alive has
observed their answers. -/
structure Spaced (state : State) : Prop where
  spared : state.posts.Pairwise Spared
  kept : state.worker.isGone = false → Kept state.limiter state.posts

theorem kept_delivered {codec : Codec} {envelope : Envelope} {state : State}
    {checkedAt : Instant} {exchanges : Nat → Exchange} {delivery : Delivery}
    (kept : Kept state.limiter state.posts)
    (past : ∀ post ∈ state.posts,
      post.exchange.handledAt.nanos ≤ checkedAt.nanos)
    (ordered : Ordered checkedAt exchanges)
    (delivered : Allstak.deliver codec envelope state.limiter state.counters
      checkedAt exchanges = some delivery) :
    Kept delivery.limiter
      (state.posts ++ requestsOf codec envelope delivery.posts) := by
  rcases deliver_posted ordered delivered with
    ⟨none, same⟩ | ⟨free, ⟨raw, encoded⟩, posted⟩
  · rw [none, same, requestsOf_nil, List.append_nil]
    exact kept
  · rw [requestsOf, encoded]
    exact (kept.posted _ free past posted).2 _ rfl

theorem spared_perish {codec : Codec} {envelope : Envelope} {state : State}
    {checkedAt : Instant} {exchanges : Nat → Exchange}
    (kept : Kept state.limiter state.posts)
    (past : ∀ post ∈ state.posts,
      post.exchange.handledAt.nanos ≤ checkedAt.nanos)
    (ordered : Ordered checkedAt exchanges)
    (panicked : Allstak.deliver codec envelope state.limiter state.counters
      checkedAt exchanges = none) :
    (state.perish codec envelope exchanges).posts.Pairwise Spared := by
  obtain ⟨free, ⟨raw, encoded⟩, posted⟩ :=
    deliverCutShort_posted ordered panicked
  have spaced := kept.posted (prepareRequestBody codec raw) free past posted
  rw [perish, requestsOf, encoded]
  exact spaced.1

theorem WorkerMove.spaced {settings : Settings} {action : WorkerAction}
    {state after : State}
    (move : WorkerMove settings state state.worker action after)
    (monotone : Monotone state (.worker action)) (spaced : state.Spaced) :
    after.Spaced := by
  have kept := spaced.kept move.alive
  have still {after : State} (same : after.posts = state.posts)
      (limiter : after.limiter = state.limiter) : after.Spaced := by
    refine ⟨same ▸ spaced.spared, fun _ => ?_⟩
    rw [same, limiter]
    exact kept
  generalize state.worker = phase at move
  cases move with
  | replayPanicked panicked | deliverPanicked panicked =>
      obtain ⟨past, ordered⟩ := monotone _ rfl
      exact ⟨spared_perish kept past ordered panicked, fun gone => nomatch gone⟩
  | replayed delivered | replayFailed delivered | replayStopped delivered
  | answered delivered | failed delivered | undelivered delivered =>
      obtain ⟨past, ordered⟩ := monotone _ rfl
      have later := kept_delivered kept past ordered delivered
      exact ⟨later.spared, fun _ => later⟩
  | remove =>
      unfold unlinkReplayed
      split <;> [split; skip] <;> exact still rfl rfl
  | persisting persisted | persisted persisted =>
      obtain ⟨limiter, posts⟩ := persisted.posts
      exact still posts limiter
  | _ => exact still rfl rfl

end State

/-- In every run under a clock that runs forwards, a request starts after the
hold of each earlier 429 answer has ended, if that answer had a readable
`Retry-After` header or was for the same category. -/
theorem posts_spared (settings : Settings) (state : State)
    (reached : (machine settings).Reach Monotone state) :
    state.posts.Pairwise Spared := by
  suffices spaced : state.Spaced from spaced.spared
  apply reached.induct
  · rintro state ⟨calls, directory, spawned, -, -, rfl⟩
    exact ⟨List.Pairwise.nil, fun _ => ⟨List.Pairwise.nil, by simp⟩⟩
  · intro before label after spaced monotone moved
    rcases step_cases moved with
      ⟨index, activity, action, rfl, found, move⟩ | ⟨action, rfl, move⟩
    · obtain ⟨limiter, posts⟩ := move.posts
      refine ⟨posts ▸ spaced.spared, fun alive => ?_⟩
      rw [limiter, posts]
      apply spaced.kept
      rcases move.worker with same | ⟨⟨ack, acking⟩, -⟩
      · rw [← same]
        exact alive
      · rw [acking]
        rfl
    · exact move.spaced monotone spaced

def laterInstant : Instant :=
  { nanos := 5000000000, representable := by decide }

/-- The worker finds the envelope refused by the limit and drops it, and gets
the next one after the hold. -/
def heldThenSent : List Label :=
  [.worker (.build true), .thread 0 (.send sampleEnvelope), .thread 0 .lock,
    .thread 0 (.offer false), .thread 0 .count, .worker .receive,
    .worker .uncount, .worker (.deliver sampleInstant (limiting "2")),
    .worker (.persist (.begin true none)), .thread 0 (.send sampleEnvelope),
    .thread 0 .lock, .thread 0 (.offer false), .thread 0 .count,
    .worker .receive, .worker .uncount,
    .worker (.deliver laterInstant fun _ =>
      { startedAt := laterInstant
        response := some { status := 202 }
        handledAt := laterInstant })]

theorem posts_spared_held :
    ∃ state : State, state.posts.length = 2 ∧ state.posts.Pairwise Spared := by
  have run :
      ((machine (unspooled 1)).execWhere
        (fun state label => decide (Monotone state label)) oneThread
          heldThenSent).map (fun state => state.posts.length) =
        some 2 := by decide +kernel
  obtain ⟨state, executed, posts⟩ := Option.map_eq_some_iff.mp run
  exact ⟨state, posts, posts_spared (unspooled 1) state
    ((Library.Machine.Reach.start oneThread_starts).execWhere
      (fun _ _ => of_decide_eq_true) executed)⟩

end Transport

end Allstak
