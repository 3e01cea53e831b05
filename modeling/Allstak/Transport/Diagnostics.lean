import Allstak.Transport.DropAccounting

/-!
# What the transport's diagnostics say

The counters are read into a snapshot, with the files waiting in the spool
added to the gauge of the channel.  The invariant says what each counter of a
snapshot counts: the requests on the wire by their answers, the deliveries that
were begun and ended, and the envelopes by what became of them.
-/

namespace Allstak

namespace Transport

structure TransportDiagnostics where
  eventsCaptured : Nat := 0
  eventsSent : Nat := 0
  eventsFailed : Nat := 0
  eventsDropped : Nat := 0
  eventsPersisted : Nat := 0
  eventsReplayed : Nat := 0
  queueSize : Nat := 0
  retryAttempts : Nat := 0
  rateLimitedCount : Nat := 0
  compressedPayloads : Nat := 0
  uncompressedPayloads : Nat := 0
  compressionBytesSaved : Nat := 0
  disabled : Bool := false
  deriving DecidableEq

end Transport

def TransportCounters.snapshot (counters : TransportCounters) (disabled : Bool)
    (persistentQueueSize : Nat) : Transport.TransportDiagnostics :=
  { eventsCaptured := counters.eventsCaptured
    eventsSent := counters.eventsSent
    eventsFailed := counters.eventsFailed
    eventsDropped := counters.eventsDropped
    eventsPersisted := counters.eventsPersisted
    eventsReplayed := counters.eventsReplayed
    queueSize := counters.queueSize + persistentQueueSize
    retryAttempts := counters.retryAttempts
    rateLimitedCount := counters.rateLimitedCount
    compressedPayloads := counters.compressedPayloads
    uncompressedPayloads := counters.uncompressedPayloads
    compressionBytesSaved := counters.compressionBytesSaved
    disabled }

/-- The number of spool files in the directory. -/
def EventSpool.count (directory : List File) : Nat :=
  (spoolFiles directory).length

/-- A reading between two steps. -/
def Transport.State.diagnostics (settings : Transport.Settings)
    (state : Transport.State) : Transport.TransportDiagnostics :=
  let persistentQueueSize :=
    match settings.spool with
    | some _ => EventSpool.count state.files
    | none => 0
  state.counters.snapshot (!state.senderOpen) persistentQueueSize

/-- The server took the envelope. -/
def Exchange.accepts (exchange : Exchange) : Bool :=
  exchange.response.any Response.isSuccess

def Exchange.isTooMany (exchange : Exchange) : Bool :=
  exchange.response.any fun response => response.status == 429

/-- The bodies that were prepared for a request. -/
def TransportCounters.bodies (counters : TransportCounters) : Nat :=
  counters.compressedPayloads + counters.uncompressedPayloads

/-- What the attempts on a prepared body add to the counters. -/
structure Delivery.Tallies (delivery : Delivery) (retriesLeft : Nat)
    (counters : TransportCounters) : Prop where
  accepted : delivery.counters.eventsSent =
    counters.eventsSent + delivery.posts.countP Exchange.accepts
  unaccepted : delivery.counters.eventsFailed +
    delivery.counters.retryAttempts =
    counters.eventsFailed + counters.retryAttempts +
      delivery.posts.countP fun exchange => !exchange.accepts
  ended : delivery.counters.eventsSent + delivery.counters.eventsFailed =
    counters.eventsSent + counters.eventsFailed + 1
  retried : delivery.counters.retryAttempts ≤ counters.retryAttempts +
    retriesLeft
  tooMany : delivery.counters.rateLimitedCount =
    counters.rateLimitedCount + delivery.posts.countP Exchange.isTooMany

/-- An answer that ends the attempts is on the wire as one post. -/
theorem settle_tallies {category : DataCategory} {exchange : Exchange}
    {response : Response} {limiter : RateLimiter} {counters : TransportCounters}
    {delivery : Delivery} (retriesLeft : Nat)
    (answered : exchange.answer = some response)
    (ends : settle category exchange response limiter counters = some
      delivery) :
    delivery.Tallies retriesLeft counters := by
  have received : exchange.response = some response :=
    (Option.filter_eq_some_iff.mp answered).1
  have taken : exchange.accepts = response.isSuccess := by
    rw [Exchange.accepts, received, Option.any_some]
  have limiting : exchange.isTooMany = (response.status == 429) := by
    rw [Exchange.isTooMany, received, Option.any_some]
  rw [settle] at ends
  split at ends
  · rename_i tooMany
    obtain ⟨updated, -, rfl⟩ := Option.map_eq_some_iff.mp ends
    have refused : response.isSuccess = false := by
      simp [Response.isSuccess, tooMany]
    constructor <;>
      simp [TransportCounters.failed, TransportCounters.rateLimited, taken,
        limiting, refused, tooMany] <;> omega
  · rename_i other
    split at ends
    · rename_i success
      cases ends
      constructor <;>
        simp [TransportCounters.sent, taken, limiting, success, other]
      omega
    · rename_i failure
      cases ends
      rw [Bool.not_eq_true] at failure
      constructor <;>
        simp [TransportCounters.failed, TransportCounters.dropped, taken,
          limiting, failure, other] <;> omega

/-- A server or network error is on the wire as one post that nobody took. -/
theorem Exchange.unanswered {exchange : Exchange}
    (silent : exchange.answer = none) :
    exchange.accepts = false ∧ exchange.isTooMany = false := by
  rw [Exchange.answer, Option.filter_eq_none_iff] at silent
  cases received : exchange.response with
  | none => simp [Exchange.accepts, Exchange.isTooMany, received]
  | some response =>
      have broken := silent response received
      simp only [Response.isServerError, Bool.not_eq_true, Bool.not_eq_false',
        Bool.and_eq_true, decide_eq_true_eq] at broken
      have high := broken.1
      simp only [Exchange.accepts, Exchange.isTooMany, received,
        Option.any_some,
        Response.isSuccess, Bool.and_eq_false_iff, decide_eq_false_iff_not,
        beq_eq_false_iff_ne]
      omega

theorem attempts_tallies {category : DataCategory}
    {exchanges : Nat → Exchange} {limiter : RateLimiter} {retriesLeft : Nat}
    {counters : TransportCounters} {delivery : Delivery}
    (delivered :
      attempts category exchanges limiter retriesLeft counters = some
        delivery) :
    delivery.Tallies retriesLeft counters := by
  induction retriesLeft generalizing counters delivery with
  | zero =>
      rw [attempts] at delivered
      cases answered : (exchanges MAX_RETRIES).answer with
      | some response =>
          simp only [Nat.sub_zero, answered] at delivered
          exact settle_tallies 0 answered delivered
      | none =>
          simp only [Nat.sub_zero, answered, Option.some.injEq] at delivered
          subst delivered
          obtain ⟨refused, free⟩ := Exchange.unanswered answered
          constructor <;>
            simp [TransportCounters.failed, refused, free] <;> omega
  | succ left induction =>
      rw [attempts] at delivered
      cases answered : (exchanges (MAX_RETRIES - (left + 1))).answer with
      | some response =>
          simp only [answered] at delivered
          exact settle_tallies (left + 1) answered delivered
      | none =>
          simp only [answered] at delivered
          obtain ⟨later, found, rfl⟩ := Option.map_eq_some_iff.mp delivered
          obtain ⟨refused, free⟩ := Exchange.unanswered answered
          obtain ⟨accepted, unaccepted, ended, retried, tooMany⟩ :=
            induction found
          simp only [TransportCounters.retried] at accepted unaccepted ended
          simp only [TransportCounters.retried] at retried tooMany
          refine ⟨?_, ?_, ended, ?_, ?_⟩ <;>
            simp [Delivery.after, refused, free] <;> omega

/-- What a whole delivery adds: it is held back without a request, or it
prepares a body and ends. -/
structure Delivery.Reports (delivery : Delivery)
    (counters : TransportCounters) :
    Prop where
  accepted : delivery.counters.eventsSent =
    counters.eventsSent + delivery.posts.countP Exchange.accepts
  unaccepted : delivery.counters.eventsFailed +
    delivery.counters.retryAttempts =
    counters.eventsFailed + counters.retryAttempts +
      delivery.posts.countP fun exchange => !exchange.accepts
  ended : delivery.counters.eventsSent + delivery.counters.eventsFailed +
      counters.bodies =
    counters.eventsSent + counters.eventsFailed + delivery.counters.bodies
  retried : delivery.counters.retryAttempts + MAX_RETRIES * counters.bodies ≤
    counters.retryAttempts + MAX_RETRIES * delivery.counters.bodies
  tooMany : counters.rateLimitedCount + delivery.posts.countP Exchange.isTooMany
    ≤
    delivery.counters.rateLimitedCount
  saved : delivery.counters.compressedPayloads + counters.compressionBytesSaved
    ≤
    counters.compressedPayloads + delivery.counters.compressionBytesSaved

/-- The attempts on a prepared body count nothing as prepared. -/
theorem Attempted.bodies {category : DataCategory} {exchanges : Nat → Exchange}
    {limiter : RateLimiter} {retriesLeft : Nat} {counters : TransportCounters}
    {delivery : Delivery}
    (attempted :
      Attempted category exchanges limiter retriesLeft counters delivery) :
    delivery.counters.compressedPayloads = counters.compressedPayloads ∧
      delivery.counters.uncompressedPayloads = counters.uncompressedPayloads ∧
      delivery.counters.compressionBytesSaved =
        counters.compressionBytesSaved := by
  induction attempted with
  | settled _ settled => cases settled <;> exact ⟨rfl, rfl, rfl⟩
  | exhausted => exact ⟨rfl, rfl, rfl⟩
  | retried _ _ induction => exact induction

/-- A body is compressed only where that saves a byte. -/
theorem prepareRequestBody_saves {codec : Codec} {raw : Bytes}
    (compressed : (prepareRequestBody codec raw).compressed = true) :
    0 < (prepareRequestBody codec raw).bytesSaved := by
  unfold prepareRequestBody at compressed ⊢
  dsimp only at compressed ⊢
  split at compressed
  · cases compressed
  · rename_i large
    rw [if_neg large]
    cases zipped : codec.gzip raw with
    | none =>
        rw [zipped] at compressed
        cases compressed
    | some body =>
        rw [zipped] at compressed
        dsimp only at compressed ⊢
        split at compressed
        · cases compressed
        · rename_i shorter
          rw [if_neg shorter]
          exact Nat.sub_pos_of_lt (Nat.not_le.mp shorter)

theorem TransportCounters.prepared_frame (counters : TransportCounters)
    (body : PreparedBody) :
    (counters.prepared body).eventsSent = counters.eventsSent ∧
      (counters.prepared body).eventsFailed = counters.eventsFailed ∧
      (counters.prepared body).retryAttempts = counters.retryAttempts ∧
      (counters.prepared body).rateLimitedCount = counters.rateLimitedCount ∧
      (counters.prepared body).bodies = counters.bodies + 1 := by
  rw [prepared, bodies, bodies]
  split
  · exact ⟨rfl, rfl, rfl, rfl, by dsimp only; omega⟩
  · exact ⟨rfl, rfl, rfl, rfl, by dsimp only; omega⟩

theorem deliver_reports {codec : Codec} {envelope : Envelope}
    {limiter : RateLimiter} {counters : TransportCounters} {checkedAt : Instant}
    {exchanges : Nat → Exchange} {delivery : Delivery}
    (serializes : (codec.toVec envelope.body).isSome)
    (delivered :
      deliver codec envelope limiter counters checkedAt exchanges =
        some delivery) :
    delivery.Reports counters := by
  obtain ⟨raw, encoded⟩ := Option.isSome_iff_exists.mp serializes
  cases limited : limiter.isLimited envelope.category checkedAt with
  | true =>
      rw [deliver, if_pos limited] at delivered
      cases delivered
      constructor <;>
        simp [TransportCounters.rateLimited, TransportCounters.bodies]
  | false =>
      simp only [deliver, limited, Bool.false_eq_true, if_false, encoded]
        at delivered
      obtain ⟨sent, failed, retries, limits, bodies⟩ :=
        counters.prepared_frame (prepareRequestBody codec raw)
      obtain ⟨accepted, unaccepted, ended, retried, tooMany⟩ :=
        attempts_tallies delivered
      obtain ⟨compressed, uncompressed, saved⟩ :=
        (attempted_of_attempts delivered).bodies
      have kept : delivery.counters.bodies = counters.bodies + 1 := by
        rw [← bodies, TransportCounters.bodies, compressed, uncompressed]
        rfl
      have room : (counters.prepared (prepareRequestBody codec
        raw)).compressedPayloads +
          counters.compressionBytesSaved ≤
          counters.compressedPayloads +
            (counters.prepared
              (prepareRequestBody codec raw)).compressionBytesSaved := by
        rw [TransportCounters.prepared]
        split
        · rename_i zipped
          have saves := prepareRequestBody_saves zipped
          dsimp only
          omega
        · exact Nat.le_refl _
      constructor <;> simp only [MAX_RETRIES] at retried ⊢ <;> omega

/-- The requests on the wire and the bodies prepared for them, as counted. -/
structure TransportCounters.Wired (counters : TransportCounters)
    (exchanges : List Exchange) : Prop where
  accepted : counters.eventsSent = exchanges.countP Exchange.accepts
  unaccepted : counters.eventsFailed + counters.retryAttempts =
    exchanges.countP fun exchange => !exchange.accepts
  ended : counters.eventsSent + counters.eventsFailed = counters.bodies
  retried : counters.retryAttempts ≤ MAX_RETRIES * counters.bodies
  tooMany : exchanges.countP Exchange.isTooMany ≤ counters.rateLimitedCount
  saved : counters.compressedPayloads ≤ counters.compressionBytesSaved

namespace TransportCounters

/-- The counters that only a delivery changes. -/
def wire (counters : TransportCounters) : List Nat :=
  [counters.eventsSent, counters.eventsFailed, counters.retryAttempts,
    counters.rateLimitedCount, counters.compressedPayloads,
    counters.uncompressedPayloads, counters.compressionBytesSaved]

theorem Wired.same {before after : TransportCounters}
    {exchanges : List Exchange}
    (wired : before.Wired exchanges) (same : after.wire = before.wire) :
    after.Wired exchanges := by
  obtain ⟨accepted, unaccepted, ended, retried, tooMany, saved⟩ := wired
  simp only [wire, List.cons.injEq, and_true] at same
  obtain ⟨sent, failed, retries, limited, compressed, uncompressed, bytes⟩ :=
    same
  simp only [bodies] at ended retried
  constructor <;>
    simp only [bodies, sent, failed, retries, limited, compressed, uncompressed,
      bytes] <;> assumption

theorem Wired.delivered {counters : TransportCounters}
    {exchanges : List Exchange} (wired : counters.Wired exchanges)
    {delivery : Delivery} (reports : delivery.Reports counters) :
    delivery.counters.Wired (exchanges ++ delivery.posts) := by
  obtain ⟨accepted, unaccepted, ended, retried, tooMany, saved⟩ := wired
  obtain ⟨wasAccepted, wasUnaccepted, hasEnded, wasRetried, wereTooMany,
    wasSaved⟩ := reports
  simp only [MAX_RETRIES] at retried wasRetried
  refine ⟨?_, ?_, by omega, ?_, ?_, by omega⟩
  · rw [List.countP_append]
    omega
  · rw [List.countP_append]
    omega
  · rw [MAX_RETRIES]
    omega
  · rw [List.countP_append]
    omega

private theorem prepared_untouched (counters : TransportCounters)
    (body : PreparedBody) :
    (counters.prepared body).eventsCaptured = counters.eventsCaptured ∧
      (counters.prepared body).eventsReplayed = counters.eventsReplayed ∧
      (counters.prepared body).eventsPersisted = counters.eventsPersisted := by
  rw [prepared]
  split <;> exact ⟨rfl, rfl, rfl⟩

end TransportCounters

theorem Attempted.eventsSent {category : DataCategory}
    {exchanges : Nat → Exchange} {limiter : RateLimiter} {retriesLeft : Nat}
    {counters : TransportCounters} {delivery : Delivery}
    (attempted :
      Attempted category exchanges limiter retriesLeft counters delivery) :
    delivery.counters.eventsSent =
      counters.eventsSent + if delivery.outcome = .accepted then 1 else 0 := by
  induction attempted with
  | settled _ settled => cases settled <;> rfl
  | exhausted => rfl
  | retried _ _ induction => exact induction

/-- A delivery counts a sent event exactly when the envelope is accepted. -/
theorem deliver_eventsSent {codec : Codec} {envelope : Envelope}
    {limiter : RateLimiter} {counters : TransportCounters} {checkedAt : Instant}
    {exchanges : Nat → Exchange} {delivery : Delivery}
    (delivered :
      deliver codec envelope limiter counters checkedAt exchanges =
        some delivery) :
    delivery.counters.eventsSent =
      counters.eventsSent + if delivery.outcome = .accepted then 1 else 0 := by
  cases delivered_of_deliver delivered with
  | limited | unserialized => rfl
  | @attempted raw delivery _ _ attempted =>
      rw [attempted.eventsSent, (counters.prepared_frame _).1]

/-- A delivery leaves the counts of its callers alone. -/
theorem deliver_callers {codec : Codec} {envelope : Envelope}
    {limiter : RateLimiter} {counters : TransportCounters} {checkedAt : Instant}
    {exchanges : Nat → Exchange} {delivery : Delivery}
    (delivered :
      deliver codec envelope limiter counters checkedAt exchanges =
        some delivery) :
    delivery.counters.eventsCaptured = counters.eventsCaptured ∧
      delivery.counters.eventsReplayed = counters.eventsReplayed ∧
      delivery.counters.eventsPersisted = counters.eventsPersisted := by
  refine ⟨?_, ?_, ?_⟩ <;> refine deliver_untouched ?_ delivered <;>
    refine ⟨fun _ => rfl, fun _ => rfl, fun _ => rfl, fun _ => rfl,
      fun _ => rfl, fun counters body => ?_⟩
  · exact (counters.prepared_untouched body).1
  · exact (counters.prepared_untouched body).2.1
  · exact (counters.prepared_untouched body).2.2

namespace Transport

namespace State

/-- The requests made so far, with their answers. -/
def exchanges (state : State) : List Exchange := state.posts.map Post.exchange

/-- The counters agree with what became of the envelopes and, when every body
is serialized and the worker is alive, with the requests. -/
structure Reconciled (settings : Settings) (state : State) : Prop where
  wired : (∀ body, (settings.codec.toVec body).isSome) →
    state.worker.isGone = false → state.counters.Wired state.exchanges
  captured : state.counters.eventsCaptured = state.sent
  taken : state.counters.eventsSent =
    state.answered.length + state.counters.eventsReplayed
  stored : state.counters.eventsPersisted = state.stored.length

theorem PersistMove.reconciled {settings : Settings} {parcel : Parcel}
    {action : PersistAction} {stage : PersistStage}
    {next : Option PersistStage} {state after : State}
    (move : PersistMove settings parcel state action stage next after)
    (reconciled : state.Reconciled settings) : after.Reconciled settings := by
  obtain ⟨wired, captured, taken, stored⟩ := reconciled
  cases move with
  | evicted =>
      rw [evictFile]
      split <;> exact ⟨wired, captured, taken, stored⟩
  | stored =>
      refine ⟨fun whole alive => (wired whole alive).same rfl, captured, taken, ?_⟩
      simp only [State.store, TransportCounters.persisted, List.length_append,
        List.length_singleton, stored]
  | _ => exact ⟨fun whole alive => (wired whole alive).same rfl, captured, taken, stored⟩

theorem ThreadMove.reconciled {settings : Settings} {index : Nat}
    {activity : Activity} {action : ThreadAction} {state after : State}
    (move : ThreadMove settings index state activity action after)
    (reconciled : state.Reconciled settings) : after.Reconciled settings := by
  obtain ⟨wired, captured, taken, stored⟩ := reconciled
  cases move with
  | send =>
      refine ⟨fun whole alive => (wired whole alive).same rfl, ?_, taken, stored⟩
      simp only [setThread, TransportCounters.captured, captured]
  | spooling persisted | spooled persisted =>
      obtain ⟨wired, captured, taken, stored⟩ :=
        persisted.reconciled ⟨wired, captured, taken, stored⟩
      exact ⟨wired, captured, taken, stored⟩
  | taken | unheard | timeout =>
      rw [endFlush_eq]
      exact ⟨wired, captured, taken, stored⟩
  | acknowledge acking =>
      rw [endFlush_eq]
      have alive : state.worker.isGone = false := by
        rw [acking]
        rfl
      exact ⟨fun whole _ => wired whole alive, captured, taken, stored⟩
  | _ => exact ⟨fun whole alive => (wired whole alive).same rfl, captured, taken, stored⟩

/-- Taking over a delivery, with its outcome counted where it belongs. -/
theorem Reconciled.delivered {settings : Settings} {state after : State}
    {envelope : Envelope} {checkedAt : Instant} {exchanges : Nat → Exchange}
    {delivery : Delivery} (reconciled : state.Reconciled settings)
    (delivered :
      Allstak.deliver settings.codec envelope state.limiter state.counters
        checkedAt exchanges = some delivery)
    (alive : state.worker.isGone = false)
    (posts : after.posts =
      (state.delivered settings.codec envelope delivery).posts)
    (wire : after.counters.wire = delivery.counters.wire)
    (callers : after.counters.eventsCaptured =
      delivery.counters.eventsCaptured ∧
      after.counters.eventsPersisted = delivery.counters.eventsPersisted ∧
      after.sent = state.sent ∧ after.stored = state.stored)
    (ended : after.answered.length + after.counters.eventsReplayed =
      state.answered.length + delivery.counters.eventsReplayed +
        if delivery.outcome = .accepted then 1 else 0) :
    after.Reconciled settings := by
  obtain ⟨wired, captured, taken, stored⟩ := reconciled
  obtain ⟨keepsCaptured, keepsReplayed, keepsPersisted⟩ :=
    deliver_callers delivered
  obtain ⟨sameCaptured, samePersisted, sameSent, sameStored⟩ := callers
  have onWire : after.exchanges = state.exchanges ++ delivery.posts := by
    rw [State.exchanges, posts, State.delivered, List.map_append,
      requestsOf_exchanges delivered]
    rfl
  constructor
  · intro whole _
    rw [onWire]
    have reports := deliver_reports (whole envelope.body) delivered
    exact ((wired whole alive).delivered reports).same wire
  · rw [sameCaptured, keepsCaptured, captured, sameSent]
  · have sent := deliver_eventsSent delivered
    simp only [TransportCounters.wire, List.cons.injEq] at wire
    omega
  · rw [samePersisted, keepsPersisted, stored, sameStored]

/-- A delivery that panics has counted nothing that its callers count. -/
theorem perish_reconciled {settings : Settings} {state : State}
    {envelope : Envelope} {exchanges : Nat → Exchange}
    (reconciled : state.Reconciled settings) :
    (state.perish settings.codec envelope exchanges).Reconciled settings := by
  have same {read : TransportCounters → Nat}
      (retried : ∀ counters, read (counters.retried) = read counters)
      (prepared : ∀ counters body,
        read (counters.prepared body) = read counters) :
      read (state.perish settings.codec envelope exchanges).counters =
        read state.counters :=
    deliverCutShort_untouched retried prepared settings.codec envelope
      state.counters exchanges
  constructor
  · exact fun _ gone => nomatch gone
  · rw [same (fun _ => rfl) fun counters body =>
      (counters.prepared_untouched body).1]
    exact reconciled.captured
  · rw [same (fun _ => rfl) fun counters body =>
        (counters.prepared_frame body).1,
      same (fun _ => rfl) fun counters body =>
        (counters.prepared_untouched body).2.1]
    exact reconciled.taken
  · rw [same (fun _ => rfl) fun counters body =>
      (counters.prepared_untouched body).2.2]
    exact reconciled.stored

theorem WorkerMove.reconciled {settings : Settings} {action : WorkerAction}
    {state after : State}
    (move : WorkerMove settings state state.worker action after)
    (reconciled : state.Reconciled settings) : after.Reconciled settings := by
  obtain ⟨wired, captured, taken, stored⟩ := reconciled
  have alive : state.worker.isGone = false := move.alive
  generalize state.worker = phase at move
  cases move with
  | replayed delivered outcome =>
      refine Reconciled.delivered ⟨wired, captured, taken, stored⟩
        delivered alive rfl rfl ⟨rfl, rfl, rfl, rfl⟩ ?_
      rw [outcome]
      rfl
  | replayFailed delivered outcome | replayStopped delivered outcome
  | failed delivered outcome | undelivered delivered outcome =>
      refine Reconciled.delivered ⟨wired, captured, taken, stored⟩
        delivered alive rfl rfl ⟨rfl, rfl, rfl, rfl⟩ ?_
      rw [outcome]
      rfl
  | answered delivered outcome =>
      refine Reconciled.delivered ⟨wired, captured, taken, stored⟩
        delivered alive rfl rfl ⟨rfl, rfl, rfl, rfl⟩ ?_
      rw [outcome, if_pos rfl, List.length_append, List.length_singleton]
      exact Nat.add_right_comm _ 1 _
  | unbuilt => exact ⟨fun _ gone => (nomatch gone), captured, taken, stored⟩
  | replayPanicked | deliverPanicked =>
      exact perish_reconciled ⟨wired, captured, taken, stored⟩
  | remove =>
      unfold unlinkReplayed
      split <;> [split; skip] <;>
        exact ⟨fun whole _ => wired whole alive, captured, taken, stored⟩
  | persisting persisted | persisted persisted =>
      have still := persisted.parties.2
      obtain ⟨wired, captured, taken, stored⟩ :=
        persisted.reconciled ⟨wired, captured, taken, stored⟩
      refine ⟨fun whole _ => wired whole ?_, captured, taken, stored⟩
      rw [still, alive]
  | _ =>
      exact ⟨fun whole _ => (wired whole alive).same rfl, captured, taken,
        stored⟩

end State

theorem reconciled_of_reachable {settings : Settings} {state : State}
    (reached : (machine settings).Reachable state) :
    state.Reconciled settings := by
  apply reached.induct
  · rintro state ⟨calls, directory, spawned, -, -, rfl⟩
    exact ⟨fun _ _ => ⟨rfl, rfl, rfl, Nat.le_refl 0, Nat.le_refl 0,
      Nat.le_refl 0⟩, rfl, rfl, rfl⟩
  · intro before label after reconciled _ moved
    rcases step_cases moved with
      ⟨index, activity, action, rfl, found, move⟩ | ⟨action, rfl, move⟩
    · exact move.reconciled reconciled
    · exact move.reconciled reconciled

/-- The envelopes the transport has not finished with. -/
def State.inFlight (state : State) : List Nat :=
  state.holding .handover ++ state.holding .channel ++ state.holding .worker

/-- Every envelope sent is in one place, once. -/
theorem places_perm {settings : Settings} {state : State}
    (reached : (machine settings).Reachable state) :
    (state.inFlight ++ state.answered ++ state.stored ++ state.dropped ++
      state.vanished).Perm (List.range state.sent) := by
  apply List.perm_iff_count.mpr
  intro id
  rw [← custody_eq reached id]
  simp only [State.inFlight, List.count_append]
  rfl

theorem sent_eq_lengths {settings : Settings} {state : State}
    (reached : (machine settings).Reachable state) :
    state.sent = state.inFlight.length + state.answered.length +
      state.stored.length + state.dropped.length + state.vanished.length := by
  have total := (places_perm reached).length_eq
  simp only [List.length_append, List.length_range] at total
  exact total.symm

/-- With whole deliveries, the diagnostics account for every request made and for
every envelope finished with.  A delivery that panics is not followed to its
end, so the worker has to be alive. -/
theorem diagnostics_account (settings : Settings) (state : State)
    (serializes : ∀ body, (settings.codec.toVec body).isSome)
    (reached : (machine settings).Reachable state)
    (alive : state.worker.isGone = false) :
    let read := state.diagnostics settings
    read.eventsCaptured = state.sent ∧
      read.eventsSent = state.exchanges.countP Exchange.accepts ∧
      read.eventsFailed + read.retryAttempts =
        state.exchanges.countP (fun exchange => !exchange.accepts) ∧
      read.compressedPayloads + read.uncompressedPayloads =
        read.eventsSent + read.eventsFailed ∧
      read.retryAttempts ≤
        3 * (read.compressedPayloads + read.uncompressedPayloads) ∧
      read.compressedPayloads ≤ read.compressionBytesSaved ∧
      state.exchanges.countP Exchange.isTooMany ≤ read.rateLimitedCount ∧
      read.eventsSent = state.answered.length + read.eventsReplayed ∧
      read.eventsPersisted = state.stored.length ∧
      read.eventsDropped = state.dropped.length + state.replayDrops := by
  obtain ⟨wired, captured, taken, stored⟩ := reconciled_of_reachable reached
  obtain ⟨accepted, unaccepted, ended, retried, tooMany, saved⟩ :=
    wired serializes alive
  have recorded := recorded_of_reachable reached
  exact ⟨captured, accepted, unaccepted, ended.symm, retried, saved, tooMany,
    taken, stored, recorded.counted⟩

def answeringEach (statuses : List Nat) (attempt : Nat) : Exchange :=
  { startedAt := sampleInstant
    response := (statuses[attempt]?).map fun status => { status }
    handledAt := sampleInstant }

end Transport

end Allstak
