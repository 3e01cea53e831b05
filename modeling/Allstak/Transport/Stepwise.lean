import Allstak.Transport.Diagnostics
import Allstak.Transport.RateLimits

/-!
# Deliveries step by step

A delivery makes up to four requests with pauses between them, and moves one
counter after the other, while other threads go on.  Here each of these is a
step of its own.  Between deliveries the transport is nevertheless in a state
that whole deliveries lead to.
-/

namespace Allstak

/-- An addition to one of the counters. -/
inductive Bump where
  | sent
  | failed
  | dropped
  | retried
  | rateLimited
  | compressed
  | saved (bytes : Nat)
  | uncompressed

/-- What a delivery does that others can see. -/
inductive DeliveryStep where
  | count (bump : Bump)
  | post (exchange : Exchange)

def DeliveryStep.exchange? : DeliveryStep → Option Exchange
  | .count _ => none
  | .post exchange => some exchange

namespace TransportCounters

def bump (counters : TransportCounters) : Bump → TransportCounters
  | .sent => counters.sent
  | .failed => counters.failed
  | .dropped => counters.dropped
  | .retried => counters.retried
  | .rateLimited => counters.rateLimited
  | .compressed =>
      { counters with compressedPayloads := counters.compressedPayloads + 1 }
  | .saved bytes =>
      { counters with
        compressionBytesSaved := counters.compressionBytesSaved + bytes }
  | .uncompressed =>
      { counters with uncompressedPayloads := counters.uncompressedPayloads + 1 }

def step (counters : TransportCounters) : DeliveryStep → TransportCounters
  | .count bump => counters.bump bump
  | .post _ => counters

def through (counters : TransportCounters) (steps : List DeliveryStep) :
    TransportCounters :=
  steps.foldl step counters

end TransportCounters

/-- Nothing is counted for a 429 answer whose deadline the clock cannot hold. -/
def settleSteps (category : DataCategory) (exchange : Exchange)
    (response : Response) (limiter : RateLimiter) : List DeliveryStep :=
  if response.status = 429 then
    match limiter.updateFromResponse category response.retryAfter
        exchange.handledAt with
    | none => []
    | some _ => [.count .failed, .count .rateLimited]
  else if response.isSuccess then [.count .sent]
  else [.count .failed, .count .dropped]

def attemptsSteps (category : DataCategory) (exchanges : Nat → Exchange)
    (limiter : RateLimiter) (retriesLeft : Nat) : List DeliveryStep :=
  let exchange := exchanges (MAX_RETRIES - retriesLeft)
  match exchange.answer with
  | some response =>
      .post exchange :: settleSteps category exchange response limiter
  | none =>
      match retriesLeft with
      | 0 => [.post exchange, .count .failed]
      | left + 1 =>
          .post exchange :: .count .retried ::
            attemptsSteps category exchanges limiter left

def PreparedBody.steps (prepared : PreparedBody) : List DeliveryStep :=
  if prepared.compressed then
    [.count .compressed, .count (.saved prepared.bytesSaved)]
  else [.count .uncompressed]

/-- The steps of `deliver`, up to its return or its panic. -/
def deliverSteps (codec : Codec) (envelope : Envelope) (limiter : RateLimiter)
    (checkedAt : Instant) (exchanges : Nat → Exchange) : List DeliveryStep :=
  if limiter.isLimited envelope.category checkedAt then [.count .rateLimited]
  else
    match codec.toVec envelope.body with
    | none => [.count .failed, .count .dropped]
    | some raw =>
        (prepareRequestBody codec raw).steps ++
          attemptsSteps envelope.category exchanges limiter MAX_RETRIES

/-- The counters and the requests that are left when a delivery is over: its own,
or, when it panicked, what it had reached. -/
def leftBehind (cut : TransportCounters × List Exchange) (made : Option Delivery) :
    TransportCounters × List Exchange :=
  made.elim cut fun delivery => (delivery.counters, delivery.posts)

theorem settle_steps (category : DataCategory) (exchange : Exchange)
    (response : Response) (limiter : RateLimiter)
    (counters : TransportCounters) :
    leftBehind (counters, [exchange])
        (settle category exchange response limiter counters) =
      (counters.through (settleSteps category exchange response limiter),
        [exchange]) := by
  unfold settle settleSteps
  split
  · cases limiter.updateFromResponse category response.retryAfter
        exchange.handledAt <;> rfl
  · split <;> rfl

private theorem settleSteps_exchanges (category : DataCategory)
    (exchange : Exchange) (response : Response) (limiter : RateLimiter) :
    (settleSteps category exchange response limiter).filterMap
      DeliveryStep.exchange? = [] := by
  unfold settleSteps
  split
  · split <;> rfl
  · split <;> rfl

/-- Taken one by one, the steps of the attempts leave behind what the attempts
do. -/
theorem attempts_steps (category : DataCategory) (exchanges : Nat → Exchange)
    (limiter : RateLimiter) (left : Nat) (counters : TransportCounters) :
    leftBehind (attemptsCutShort exchanges left counters)
        (attempts category exchanges limiter left counters) =
      (counters.through (attemptsSteps category exchanges limiter left),
        (attemptsSteps category exchanges limiter left).filterMap
          DeliveryStep.exchange?) := by
  induction left generalizing counters with
  | zero =>
      rw [attempts, attemptsSteps, attemptsCutShort]
      cases answered : (exchanges (MAX_RETRIES - 0)).answer with
      | none => rfl
      | some response =>
          have settled := settle_steps category (exchanges (MAX_RETRIES - 0))
            response limiter counters
          dsimp only
          rw [settled, List.filterMap_cons, settleSteps_exchanges]
          rfl
  | succ left induction =>
      rw [attempts, attemptsSteps, attemptsCutShort]
      cases answered : (exchanges (MAX_RETRIES - (left + 1))).answer with
      | some response =>
          have settled := settle_steps category
            (exchanges (MAX_RETRIES - (left + 1))) response limiter counters
          dsimp only
          rw [settled, List.filterMap_cons, settleSteps_exchanges]
          rfl
      | none =>
          have later := induction counters.retried
          simp only [leftBehind] at later ⊢
          cases made : attempts category exchanges limiter left
              counters.retried with
          | none =>
              rw [made] at later
              have cut : attemptsCutShort exchanges left counters.retried = _ :=
                later
              simp only [Option.map_none, Option.elim_none, cut]
              rfl
          | some delivery =>
              rw [made] at later
              obtain ⟨counted, posted⟩ := Prod.mk.inj later
              simp only [Option.map_some, Option.elim_some, Delivery.after,
                counted, posted]
              rfl

private theorem prepared_steps (counters : TransportCounters)
    (prepared : PreparedBody) :
    counters.through prepared.steps = counters.prepared prepared ∧
      prepared.steps.filterMap DeliveryStep.exchange? = [] := by
  unfold PreparedBody.steps TransportCounters.prepared
  split <;> exact ⟨rfl, rfl⟩

theorem deliver_steps (codec : Codec) (envelope : Envelope)
    (limiter : RateLimiter) (counters : TransportCounters)
    (checkedAt : Instant) (exchanges : Nat → Exchange) :
    leftBehind (deliverCutShort codec envelope counters exchanges)
        (deliver codec envelope limiter counters checkedAt exchanges) =
      (counters.through
          (deliverSteps codec envelope limiter checkedAt exchanges),
        (deliverSteps codec envelope limiter checkedAt exchanges).filterMap
          DeliveryStep.exchange?) := by
  rw [deliver, deliverSteps, deliverCutShort]
  cases limiter.isLimited envelope.category checkedAt with
  | true => rfl
  | false =>
      cases codec.toVec envelope.body with
      | none => rfl
      | some raw =>
          obtain ⟨counted, unposted⟩ :=
            prepared_steps counters (prepareRequestBody codec raw)
          have made := attempts_steps envelope.category exchanges limiter
            MAX_RETRIES (counters.prepared (prepareRequestBody codec raw))
          simp only [Bool.false_eq_true, if_false]
          rw [made, List.filterMap_append, unposted, ← counted]
          simp only [TransportCounters.through, List.foldl_append,
            List.nil_append]

/-- A delivery leaves behind its steps, and it ends as it would if these had been
counted already. -/
theorem deliver_again (codec : Codec) (envelope : Envelope)
    (limiter : RateLimiter) (counters : TransportCounters)
    (checkedAt : Instant) (exchanges : Nat → Exchange) :
    let steps := deliverSteps codec envelope limiter checkedAt exchanges
    let ran := deliver codec envelope limiter counters checkedAt exchanges
    let rerun := deliver codec envelope limiter (counters.through steps)
      checkedAt exchanges
    ran = none ∧ rerun = none ∧
        deliverCutShort codec envelope counters exchanges =
          (counters.through steps, steps.filterMap DeliveryStep.exchange?) ∨
      ∃ delivery again, ran = some delivery ∧ rerun = some again ∧
        again.outcome = delivery.outcome ∧ again.limiter = delivery.limiter ∧
        delivery.counters = counters.through steps ∧
        delivery.posts = steps.filterMap DeliveryStep.exchange? := by
  intro steps ran rerun
  have left : leftBehind (deliverCutShort codec envelope counters exchanges)
      ran = (counters.through steps,
        steps.filterMap DeliveryStep.exchange?) :=
    deliver_steps codec envelope limiter counters checkedAt exchanges
  have same : ran.map Delivery.uncounted = rerun.map Delivery.uncounted :=
    deliver_uncounted codec envelope limiter counters (counters.through steps)
      checkedAt exchanges
  cases made : ran with
  | none =>
      rw [made] at left same
      exact .inl ⟨rfl, Option.map_eq_none_iff.mp same.symm, left⟩
  | some delivery =>
      rw [made] at left same
      obtain ⟨again, remade, uncounted⟩ :=
        Option.map_eq_some_iff.mp same.symm
      obtain ⟨counted, posted⟩ := Prod.mk.inj left
      have outcome : again.uncounted.outcome = delivery.uncounted.outcome :=
        congrArg Delivery.outcome uncounted
      have limiter : again.uncounted.limiter = delivery.uncounted.limiter :=
        congrArg Delivery.limiter uncounted
      exact .inr ⟨delivery, again, rfl, remade, outcome, limiter, counted,
        posted⟩

namespace TransportCounters

/-- An addition that commutes with every step of a delivery. -/
theorem through_comm {change : TransportCounters → TransportCounters}
    (commutes : ∀ counters made,
      step (change counters) made = change (counters.step made))
    (counters : TransportCounters) (made : List DeliveryStep) :
    (change counters).through made = change (counters.through made) := by
  induction made generalizing counters with
  | nil => rfl
  | cons step made induction =>
      rw [through, List.foldl_cons, commutes]
      exact induction (counters.step step)

private theorem through_captured (counters : TransportCounters)
    (made : List DeliveryStep) :
    counters.captured.through made = (counters.through made).captured := by
  apply through_comm
  rintro counters (bump | exchange)
  · cases bump <;> rfl
  · rfl

private theorem through_queued (counters : TransportCounters)
    (made : List DeliveryStep) :
    counters.queued.through made = (counters.through made).queued := by
  apply through_comm
  rintro counters (bump | exchange)
  · cases bump <;> rfl
  · rfl

private theorem through_dropped (counters : TransportCounters)
    (made : List DeliveryStep) :
    counters.dropped.through made = (counters.through made).dropped := by
  apply through_comm
  rintro counters (bump | exchange)
  · cases bump <;> rfl
  · rfl

private theorem through_persisted (counters : TransportCounters)
    (made : List DeliveryStep) :
    counters.persisted.through made = (counters.through made).persisted := by
  apply through_comm
  rintro counters (bump | exchange)
  · cases bump <;> rfl
  · rfl

end TransportCounters

private theorem requestsOf_append (codec : Codec) (envelope : Envelope)
    (first later : List Exchange) :
    requestsOf codec envelope (first ++ later) =
      requestsOf codec envelope first ++ requestsOf codec envelope later := by
  unfold requestsOf
  cases codec.toVec envelope.body with
  | none => rfl
  | some raw => exact List.map_append

namespace Transport

/-- A delivery that was begun, and the steps it still has to make. -/
structure Underway where
  action : State.WorkerAction
  envelope : Envelope
  steps : List DeliveryStep

/-- The transport, with the delivery that is under way. -/
structure Stepwise where
  state : State
  delivery : Option Underway := none

namespace State

/-- The delivery that the worker begins with the action. -/
def begun (settings : Settings) (state : State) (action : WorkerAction) :
    Option Underway :=
  match state.worker, action with
  | .replaying _ _ envelope, .replay checkedAt exchanges =>
      some
        { action
          envelope
          steps := deliverSteps settings.codec envelope state.limiter checkedAt
            exchanges }
  | .delivering parcel, .deliver checkedAt exchanges =>
      some
        { action
          envelope := parcel.envelope
          steps := deliverSteps settings.codec parcel.envelope state.limiter
            checkedAt exchanges }
  | _, _ => none

/-- A step of a delivery is made. -/
def make (codec : Codec) (envelope : Envelope) (state : State)
    (made : DeliveryStep) : State :=
  { state with
    counters := state.counters.step made
    posts := state.posts ++ requestsOf codec envelope made.exchange?.toList }

/-- `deliver` returns to the worker, which counts a replay and goes on, or
panics. -/
def conclude (settings : Settings) (state : State) (action : WorkerAction) :
    Option State :=
  match state.worker, action with
  | .replaying path paths envelope, .replay checkedAt exchanges =>
      match deliver settings.codec envelope state.limiter state.counters
          checkedAt exchanges with
      | none => some state.die
      | some delivery =>
          let after := { state with limiter := delivery.limiter }
          match delivery.outcome with
          | .accepted =>
              some
                { after with
                  counters := state.counters.replayed
                  worker := .removing path paths .accepted }
          | .permanentFailure =>
              some
                { after with
                  counters := state.counters.dropped
                  replayDrops := state.replayDrops + 2
                  worker := .removing path paths .discarded }
          | .retryableFailure => some { after with worker := .idle }
  | .delivering parcel, .deliver checkedAt exchanges =>
      match deliver settings.codec parcel.envelope state.limiter state.counters
          checkedAt exchanges with
      | none => some state.die
      | some delivery =>
          let after := { state with limiter := delivery.limiter }
          match delivery.outcome with
          | .accepted =>
              some
                { after with
                  answered := state.answered ++ [parcel.id]
                  worker := .idle }
          | .permanentFailure =>
              some
                { after with
                  dropped := state.dropped ++ [parcel.id]
                  worker := .idle }
          | .retryableFailure =>
              some { after with worker := .persisting parcel .start }
  | _, _ => none

/-- The state when these steps of a delivery were made besides. -/
def ahead (codec : Codec) (envelope : Envelope) (made : List DeliveryStep)
    (state : State) : State :=
  { state with
    counters := state.counters.through made
    posts := state.posts ++
      requestsOf codec envelope (made.filterMap DeliveryStep.exchange?) }

end State

namespace Stepwise

inductive Label where
  | begin (action : State.WorkerAction)
  | make
  | conclude
  | move (label : Transport.Label)

def delivers : Transport.Label → Bool
  | .worker (.replay _ _) => true
  | .worker (.deliver _ _) => true
  | _ => false

def isThread : Transport.Label → Bool
  | .thread _ _ => true
  | .worker _ => false

/-- While a delivery is under way only threads move besides it. -/
def step (settings : Settings) (fine : Stepwise) : Label → Option Stepwise
  | .begin action =>
      match fine.delivery with
      | some _ => none
      | none =>
          (fine.state.begun settings action).map fun delivery =>
            { fine with delivery := some delivery }
  | .make =>
      match fine.delivery with
      | some { action, envelope, steps := made :: steps } =>
          some
            { state := fine.state.make settings.codec envelope made
              delivery := some { action, envelope, steps } }
      | _ => none
  | .conclude =>
      match fine.delivery with
      | some { action, steps := [], .. } =>
          (fine.state.conclude settings action).map fun state => { state }
      | _ => none
  | .move label =>
      if delivers label || (fine.delivery.isSome && !isThread label) then none
      else
        (Transport.step settings fine.state label).map fun state =>
          { fine with state }

def machine (settings : Settings) : Library.Machine Stepwise Label where
  start fine := Starts fine.state ∧ fine.delivery = none
  next := step settings

end Stepwise

namespace State

variable {codec : Codec} {envelope : Envelope} {made : List DeliveryStep}

@[simp] theorem ahead_names (state : State) :
    (state.ahead codec envelope made).names = state.names := rfl

@[simp] theorem ahead_worker (state : State) :
    (state.ahead codec envelope made).worker = state.worker := rfl

@[simp] theorem ahead_handle (state : State) :
    (state.ahead codec envelope made).handle = state.handle := rfl

@[simp] theorem ahead_senderOpen (state : State) :
    (state.ahead codec envelope made).senderOpen = state.senderOpen := rfl

@[simp] theorem ahead_senderLocked (state : State) :
    (state.ahead codec envelope made).senderLocked = state.senderLocked := rfl

@[simp] theorem ahead_handleLocked (state : State) :
    (state.ahead codec envelope made).handleLocked = state.handleLocked := rfl

@[simp] theorem ahead_hasRoom (settings : Settings) (state : State)
    (parked : Bool) :
    (state.ahead codec envelope made).hasRoom settings parked =
      state.hasRoom settings parked := rfl

private theorem ahead_nil (state : State) : state.ahead codec envelope
    [] = state := by
  simp [ahead, TransportCounters.through]

private theorem ahead_make (state : State) (later : DeliveryStep) :
    (state.ahead codec envelope made).make codec envelope later =
      state.ahead codec envelope (made ++ [later]) := by
  have last : [later].filterMap DeliveryStep.exchange? =
      later.exchange?.toList := by
    cases later <;> rfl
  simp only [ahead, make, TransportCounters.through, List.foldl_append,
    List.foldl_cons, List.foldl_nil, List.filterMap_append, last,
    requestsOf_append, List.append_assoc]

private theorem drop_ahead (state : State) (id : Nat) :
    (state.ahead codec envelope made).drop id =
      (state.drop id).ahead codec envelope made := by
  simp only [ahead, drop, TransportCounters.through_dropped]

private theorem evictFile_ahead (state : State) (path : String)
    (removed : Bool) :
    (state.ahead codec envelope made).evictFile path removed =
      (state.evictFile path removed).ahead codec envelope made := by
  unfold evictFile
  split <;> rfl

theorem persistStep_ahead (settings : Settings) (parcel : Parcel)
    (stage : PersistStage) (action : PersistAction) (state : State) :
    persistStep settings parcel stage action (state.ahead codec envelope made) =
      (persistStep settings parcel stage action state).map fun done =>
        (done.1, done.2.ahead codec envelope made) := by
  cases stage with
  | start =>
      cases action with
      | begin dirReady created =>
          unfold persistStep
          dsimp only
          cases settings.spool with
          | none => rw [drop_ahead]; rfl
          | some spool =>
              dsimp only
              split
              · rw [drop_ahead]; rfl
              · cases settings.codec.persistedToVec parcel.envelope.persisted with
                | none => rw [drop_ahead]; rfl
                | some content =>
                    cases created with
                    | none => rw [drop_ahead]; rfl
                    | some drawn =>
                        dsimp only
                        by_cases taken :
                            spoolFileName drawn.1 drawn.2 ∈ state.names
                        · simp only [ahead_names, taken, if_true]
                          rfl
                        · simp only [ahead_names, taken, if_false]
                          rfl
      | _ => rfl
  | writing path content =>
      cases action with
      | write failedAfter =>
          cases failedAfter with
          | none => rfl
          | some written =>
              unfold persistStep
              simp only [Option.map_some]
              rw [← drop_ahead]
              rfl
      | _ => rfl
  | limiting =>
      cases action with
      | list =>
          unfold persistStep
          dsimp only
          rw [Option.map_map]
          rfl
      | _ => rfl
  | evicting paths =>
      cases paths with
      | nil =>
          cases action with
          | finish =>
              unfold persistStep
              simp only [Option.map_some, store, ahead,
                TransportCounters.through_persisted]
          | _ => rfl
      | cons path paths =>
          cases action with
          | evict removed =>
              unfold persistStep
              simp only [Option.map_some, evictFile_ahead]
          | _ => rfl

private theorem endFlush_ahead (state : State) (index : Nat) (call : FlushCall)
    (drained : Bool) :
    (state.ahead codec envelope made).endFlush index call drained =
      (state.endFlush index call drained).ahead codec envelope made := by
  unfold endFlush
  split <;> rfl

theorem threadStep_ahead (settings : Settings) (index : Nat) (state : State)
    (activity : Activity) (action : ThreadAction) :
    threadStep settings index (state.ahead codec envelope made) activity action =
      (threadStep settings index state activity action).map
        (ahead codec envelope made) := by
  unfold threadStep
  split
  · simp only [Option.map_some, ahead, setThread,
      TransportCounters.through_captured]
  · cases locked : state.senderLocked with
    | true => simp [locked]
    | false =>
        simp only [ahead_senderLocked, locked]
        rfl
  · rename_i parcel parked
    by_cases refused : (!state.senderOpen || state.worker.isGone ||
        !state.hasRoom settings parked) = true
    · simp only [ahead_senderOpen, ahead_worker, ahead_hasRoom, refused, if_true]
      rfl
    · simp only [ahead_senderOpen, ahead_worker, ahead_hasRoom, refused]
      rfl
  · simp only [Option.map_some, ahead, endSend, setThread,
      TransportCounters.through_queued]
  · rw [persistStep_ahead, Option.map_map, Option.map_map]
    congr 1
    funext done
    dsimp only [Function.comp_apply]
    cases done.1 <;> rfl
  · rfl
  · rfl
  · cases locked : state.senderLocked with
    | true => simp [locked]
    | false =>
        cases opened : state.senderOpen with
        | true =>
            simp only [ahead_senderLocked, ahead_senderOpen, locked, opened]
            rfl
        | false => simp [locked, opened, endFlush_ahead]
  · cases gone : state.worker.isGone with
    | true => simp [gone, endFlush_ahead]
    | false =>
        cases room : state.hasRoom settings true with
        | true =>
            simp only [ahead_worker, ahead_hasRoom, gone, room]
            rfl
        | false => simp [gone, room]
  · rename_i call ack
    cases acked : state.worker.acks ack with
    | true =>
        simp only [ahead_worker, acked, if_true, Option.map_some]
        exact congrArg some
          (endFlush_ahead { state with worker := .idle } index call true)
    | false => simp [acked]
  · rw [endFlush_ahead]
    rfl
  · cases locked : state.senderLocked with
    | true => simp [locked]
    | false =>
        simp only [ahead_senderLocked, locked]
        rfl
  · cases locked : state.handleLocked with
    | true => simp [locked]
    | false =>
        cases held : state.handle <;>
          simp only [ahead_handleLocked, ahead_handle, locked, held] <;> rfl
  · cases finished : state.worker.isOver with
    | true =>
        simp only [ahead_worker, finished]
        rfl
    | false => simp [finished]
  · rfl

/-- A thread does the same, whatever steps a delivery has made. -/
theorem step_ahead (settings : Settings) (index : Nat) (action : ThreadAction)
    (state : State) :
    Transport.step settings (state.ahead codec envelope made)
        (.thread index action) =
      (Transport.step settings state (.thread index action)).map
        (ahead codec envelope made) := by
  simp only [Transport.step]
  rw [show (state.ahead codec envelope made).threads = state.threads from rfl]
  cases state.threads[index]? with
  | none => rfl
  | some activity => exact threadStep_ahead settings index state activity action

/-- What the worker begins depends neither on the counters nor on the requests
made. -/
theorem begun_eq {settings : Settings} {state after : State}
    (worker : after.worker = state.worker)
    (limiter : after.limiter = state.limiter) (action : WorkerAction) :
    after.begun settings action = state.begun settings action := by
  unfold begun
  rw [worker, limiter]

theorem begun_spec {settings : Settings} {state : State} {action : WorkerAction}
    {delivery : Underway} (begins : state.begun settings action = some delivery) :
    delivery.action = action ∧ ∀ ack, state.worker ≠ .acking ack := by
  unfold begun at begins
  split at begins
  · rename_i phase
    cases begins
    exact ⟨rfl, fun ack => phase ▸ nofun⟩
  · rename_i phase
    cases begins
    exact ⟨rfl, fun ack => phase ▸ nofun⟩
  · cases begins

/-- A thread leaves the delivery under way as it is. -/
theorem begun_of_thread {settings : Settings} {state after : State} {index : Nat}
    {action : ThreadAction} {begins : WorkerAction} {delivery : Underway}
    (began : state.begun settings begins = some delivery)
    (moved : Transport.step settings state (.thread index action) = some after) :
    after.begun settings begins = some delivery := by
  obtain ⟨activity, found, stepped⟩ := Option.bind_eq_some_iff.mp moved
  have move := threadMove_of_step stepped
  rcases move.worker with same | ⟨⟨ack, acking⟩, -⟩
  · rw [begun_eq same move.posts.1, began]
  · exact absurd acking ((begun_spec began).2 ack)

/-- When all steps of a delivery are made, its conclusion is the end of the step
in which the worker makes the whole delivery. -/
theorem conclude_ahead {settings : Settings} {state : State}
    {action : WorkerAction}
    (begins : state.begun settings action =
      some { action, envelope, steps := made }) :
    (state.ahead settings.codec envelope made).conclude settings action =
      workerStep settings state state.worker action := by
  unfold begun at begins
  split at begins
  · rename_i path paths other checkedAt exchanges phase
    simp only [Option.some.injEq, Underway.mk.injEq, true_and] at begins
    obtain ⟨rfl, rfl⟩ := begins
    unfold conclude
    rw [ahead_worker, phase, workerStep]
    rcases deliver_again settings.codec other state.limiter state.counters
        checkedAt exchanges with
      ⟨none, still, cut⟩ | ⟨delivery, again, some, also, outcome, limiter,
        counted, posted⟩
    · rw [none]
      dsimp only [ahead]
      rw [still, perish, cut]
      rfl
    · rw [some]
      dsimp only [ahead]
      rw [also]
      cases made : delivery.outcome <;>
        simp only [outcome, limiter, made, delivered, counted, posted]
  · rename_i parcel checkedAt exchanges phase
    simp only [Option.some.injEq, Underway.mk.injEq, true_and] at begins
    obtain ⟨rfl, rfl⟩ := begins
    unfold conclude
    rw [ahead_worker, phase, workerStep]
    rcases deliver_again settings.codec parcel.envelope state.limiter
        state.counters checkedAt exchanges with
      ⟨none, still, cut⟩ | ⟨delivery, again, some, also, outcome, limiter,
        counted, posted⟩
    · rw [none]
      dsimp only [ahead]
      rw [still, perish, cut]
      rfl
    · rw [some]
      dsimp only [ahead]
      rw [also]
      cases made : delivery.outcome <;>
        simp only [outcome, limiter, made, delivered, counted, posted]
  · cases begins

end State

namespace Stepwise

variable {settings : Settings}

/-- The steps that were made of a delivery are made besides the state in which
whole deliveries are waiting. -/
inductive Collapses (settings : Settings) : Stepwise → State → Prop where
  | between {state : State} : Collapses settings { state } state
  | underway {state : State} {action : State.WorkerAction}
      {envelope : Envelope} {made left : List DeliveryStep} :
      state.begun settings action =
        some { action, envelope, steps := made ++ left } →
      Collapses settings
        { state := state.ahead settings.codec envelope made
          delivery := some { action, envelope, steps := left } }
        state

/-- Only a conclusion shows in the transport with whole deliveries, and the steps
of threads and of a worker between deliveries. -/
theorem step_collapses {fine after : Stepwise} {label : Label} {state : State}
    (collapses : Collapses settings fine state)
    (moved : step settings fine label = some after) :
    ∃ next, (next = state ∨
        ∃ label, Transport.step settings state label = some next) ∧
      Collapses settings after next := by
  cases label with
  | begin action =>
      cases collapses with
      | underway => cases moved
      | between =>
          obtain ⟨delivery, begins, rfl⟩ := Option.map_eq_some_iff.mp moved
          obtain ⟨named, envelope, steps⟩ := delivery
          obtain rfl : named = action := (State.begun_spec begins).1
          have underway : Collapses settings
              { state := state.ahead settings.codec envelope []
                delivery := some { action := named, envelope, steps } } state :=
            .underway begins
          rw [State.ahead_nil] at underway
          exact ⟨state, .inl rfl, underway⟩
  | make =>
      cases collapses with
      | between => cases moved
      | @underway _ action envelope made left begins =>
          cases left with
          | nil => cases moved
          | cons later left =>
              cases moved
              refine ⟨state, .inl rfl, ?_⟩
              rw [State.ahead_make]
              exact .underway (begins.trans (by rw [List.append_assoc]; rfl))
  | conclude =>
      cases collapses with
      | between => cases moved
      | @underway _ action envelope made left begins =>
          cases left with
          | cons later left => cases moved
          | nil =>
              obtain ⟨next, concluded, rfl⟩ := Option.map_eq_some_iff.mp moved
              rw [List.append_nil] at begins
              rw [State.conclude_ahead begins] at concluded
              exact ⟨next, .inr ⟨.worker action, concluded⟩, .between⟩
  | move label =>
      dsimp only [step] at moved
      split at moved
      · cases moved
      · rename_i allowed
        obtain ⟨next, stepped, rfl⟩ := Option.map_eq_some_iff.mp moved
        cases collapses with
        | between => exact ⟨next, .inr ⟨label, stepped⟩, .between⟩
        | @underway _ action envelope made left begins =>
            cases label with
            | worker other => simp [isThread] at allowed
            | thread index other =>
                rw [State.step_ahead] at stepped
                obtain ⟨coarse, coarsely, rfl⟩ :=
                  Option.map_eq_some_iff.mp stepped
                have still := State.begun_of_thread begins coarsely
                exact ⟨coarse, .inr ⟨_, coarsely⟩, .underway still⟩

private theorem collapses_of_reachable {fine : Stepwise}
    (reached : (machine settings).Reachable fine) :
    ∃ state, (Transport.machine settings).Reachable state ∧
      Collapses settings fine state := by
  apply reached.simulated
  · rintro ⟨state, delivery⟩ ⟨started, rfl⟩
    exact ⟨state, started, .between⟩
  · exact fun before label after state collapses moved =>
      step_collapses collapses moved

/-- Between deliveries the transport is where whole deliveries lead. -/
theorem reachable_of_between {fine : Stepwise}
    (reached : (machine settings).Reachable fine)
    (between : fine.delivery = none) :
    (Transport.machine settings).Reachable fine.state := by
  obtain ⟨state, coarse, collapses⟩ := collapses_of_reachable reached
  cases collapses with
  | between => exact coarse
  | underway => cases between

/-- The steps of a delivery, one after the other. -/
theorem exec_make {state : State} {action : State.WorkerAction}
    {envelope : Envelope} (made left : List DeliveryStep) :
    (machine settings).exec
        { state := state.ahead settings.codec envelope made
          delivery := some { action, envelope, steps := left } }
        (List.replicate left.length .make) =
      some
        { state := state.ahead settings.codec envelope (made ++ left)
          delivery := some { action, envelope, steps := [] } } := by
  induction left generalizing made with
  | nil =>
      rw [List.append_nil]
      rfl
  | cons later left induction =>
      have rest := induction (made ++ [later])
      rw [List.append_assoc, List.singleton_append, ← State.ahead_make] at rest
      exact rest

/-- A whole delivery is a run of its steps. -/
theorem reachable_of_begun {state after : State} {action : State.WorkerAction}
    {delivery : Underway} (reached : (machine settings).Reachable { state })
    (begins : state.begun settings action = some delivery)
    (moved : Transport.step settings state (.worker action) = some after) :
    (machine settings).Reachable { state := after } := by
  obtain ⟨named, envelope, steps⟩ := delivery
  obtain rfl : named = action := (State.begun_spec begins).1
  have begun : (machine settings).next { state } (.begin named) =
      some
        { state := state.ahead settings.codec envelope []
          delivery := some { action := named, envelope, steps } } := by
    rw [State.ahead_nil]
    exact congrArg (Option.map fun delivery => Stepwise.mk state (some delivery))
      begins
  have underway : (machine settings).Reachable _ := .step reached trivial begun
  have made := underway.execWhere (fun _ _ _ => trivial) (exec_make [] steps)
  have concluded : (machine settings).next
      { state := state.ahead settings.codec envelope ([] ++ steps)
        delivery := some { action := named, envelope, steps := [] } }
      .conclude = some { state := after } :=
    congrArg (Option.map fun state => Stepwise.mk state none)
      ((State.conclude_ahead begins).trans moved)
  exact .step made trivial concluded

/-- A step of a whole delivery is one that the worker can begin. -/
theorem begun_of_delivers {state after : State} {label : Transport.Label}
    (whole : delivers label = true)
    (moved : Transport.step settings state label = some after) :
    ∃ action delivery, label = .worker action ∧
      state.begun settings action = some delivery := by
  cases label with
  | thread index action => cases whole
  | worker action =>
      have move := State.workerMove_of_step moved
      unfold State.begun
      cases action with
      | replay checkedAt exchanges | deliver checkedAt exchanges =>
          generalize state.worker = phase at move
          cases move <;> exact ⟨_, _, rfl, rfl⟩
      | _ => cases whole

theorem reachable_of_step {state after : State} {label : Transport.Label}
    (reached : (machine settings).Reachable { state })
    (moved : Transport.step settings state label = some after) :
    (machine settings).Reachable { state := after } := by
  cases whole : delivers label with
  | true =>
      obtain ⟨action, delivery, rfl, begins⟩ := begun_of_delivers whole moved
      exact reachable_of_begun reached begins moved
  | false =>
      have stepped : (machine settings).next { state } (.move label) =
          some { state := after } := by
        simp only [machine, step, whole, Option.isSome_none, Bool.false_and, Bool.or_self,
          Bool.false_eq_true, if_false, moved, Option.map_some]
      exact .step reached trivial stepped

/-- Between deliveries, the states are those of the transport with whole
deliveries: no more of them and no fewer. -/
theorem whole_deliveries_exact (settings : Settings) (state : State) :
    (machine settings).Reachable { state } ↔
      (Transport.machine settings).Reachable state := by
  constructor
  · exact fun reached => reachable_of_between reached rfl
  · intro reached
    induction reached with
    | start started => exact .start ⟨started, rfl⟩
    | step _ _ moved induction => exact reachable_of_step induction moved

/-- Read between deliveries, the diagnostics of a transport account for every
request it made and for every envelope it finished with. -/
theorem diagnostics_reconcile (settings : Settings) (fine : Stepwise)
    (serializes : ∀ body, (settings.codec.toVec body).isSome)
    (reached : (machine settings).Reachable fine)
    (between : fine.delivery = none)
    (alive : fine.state.worker.isGone = false) :
    let read := fine.state.diagnostics settings
    let exchanges := fine.state.exchanges
    read.eventsCaptured = fine.state.sent ∧
      read.eventsSent = exchanges.countP Exchange.accepts ∧
      read.eventsFailed + read.retryAttempts =
        exchanges.countP (fun exchange => !exchange.accepts) ∧
      read.compressedPayloads + read.uncompressedPayloads =
        read.eventsSent + read.eventsFailed ∧
      read.retryAttempts ≤
        3 * (read.compressedPayloads + read.uncompressedPayloads) ∧
      read.compressedPayloads ≤ read.compressionBytesSaved ∧
      exchanges.countP Exchange.isTooMany ≤ read.rateLimitedCount ∧
      read.eventsSent = fine.state.answered.length + read.eventsReplayed ∧
      read.eventsPersisted = fine.state.stored.length ∧
      read.eventsDropped =
        fine.state.dropped.length + fine.state.replayDrops :=
  diagnostics_account settings fine.state serializes
    (reachable_of_between reached between) alive

/-- The JSON library on the null body, and some bytes for every other. -/
def nullCodec : Codec :=
  { sampleCodec with toVec := fun _ => some (asciiBytes "null") }

/-- An envelope that the server takes at the second attempt; before the delivery
is over, its body is counted and its end is not. -/
theorem diagnostics_reconcile_retried :
    ∃ underway fine : Stepwise,
      underway.state.counters.uncompressedPayloads = 1 ∧
      underway.state.counters.eventsSent +
        underway.state.counters.eventsFailed = 0 ∧
      fine.state.counters.retryAttempts = 1 ∧
      fine.state.counters.eventsSent =
        fine.state.exchanges.countP Exchange.accepts ∧
      fine.state.counters.eventsFailed + fine.state.counters.retryAttempts =
        fine.state.exchanges.countP fun exchange => !exchange.accepts := by
  let settings := { unspooled 1 with codec := nullCodec }
  let labels : List Label :=
    [.move (.thread 0 (.send sampleEnvelope)), .move (.thread 0 .lock),
      .move (.thread 0 (.offer false)), .move (.thread 0 .count),
      .move (.worker (.build true)), .move (.worker .receive),
      .move (.worker .uncount),
      .begin (.deliver sampleInstant (answeringEach [503, 200])),
      .make, .make, .make]
  have started : (machine settings).start { state := oneThread } :=
    ⟨oneThread_starts, rfl⟩
  have begun :
      ((machine settings).exec { state := oneThread } labels).map
          (fun fine =>
            (fine.state.counters.uncompressedPayloads,
              fine.state.counters.eventsSent +
                fine.state.counters.eventsFailed)) =
        some (1, 0) := by decide +kernel
  have ended :
      ((machine settings).exec { state := oneThread }
          (labels ++ [.make, .make, .conclude])).map
          (fun fine =>
            (fine.delivery.isNone, fine.state.worker.isGone,
              fine.state.counters.retryAttempts)) =
        some (true, false, 1) := by decide +kernel
  obtain ⟨underway, -, seen⟩ := Option.map_eq_some_iff.mp begun
  obtain ⟨fine, executed, read⟩ := Option.map_eq_some_iff.mp ended
  simp only [Prod.mk.injEq] at seen read
  have reached := Library.Machine.reachable_of_exec started executed
  obtain ⟨-, accepted, unaccepted, -⟩ :=
    diagnostics_reconcile settings fine (fun _ => rfl) reached
      (Option.isNone_iff_eq_none.mp read.1) read.2.1
  exact ⟨underway, fine, seen.1, seen.2, read.2.2, accepted, unaccepted⟩

end Stepwise

end Transport

end Allstak
