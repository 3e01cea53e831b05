import Allstak.Transport.System

/-!
# What a step of the transport can do

One constructor for each outcome of a step, with the guard under which the
outcome happens and the state it leaves.  Every invariant of the transport is
proved by cases on these relations.
-/

namespace Allstak

namespace Transport

namespace State

/-- The outcomes of a step of `persist_or_drop`. -/
inductive PersistMove (settings : Settings) (parcel : Parcel) (state : State) :
    PersistAction → PersistStage → Option PersistStage → State → Prop where
  | refused {dirReady : Bool} {created : Option (Nat × Uuid)} :
      PersistMove settings parcel state (.begin dirReady created) .start none
        (state.drop parcel.id)
  | created {nowMillis : Nat} {uuid : Uuid} {content : Bytes} :
      settings.spool.isSome →
      settings.codec.persistedToVec parcel.envelope.persisted = some content →
      spoolFileName nowMillis uuid ∉ state.names →
      PersistMove settings parcel state (.begin true (some (nowMillis, uuid)))
        .start
        (some (.writing (spoolFileName nowMillis uuid) content))
        (state.createFile (spoolFileName nowMillis uuid) parcel.id)
  | written {path : String} {content : Bytes} :
      PersistMove settings parcel state (.write none) (.writing path content)
        (some .limiting) (state.writeFile path content)
  | spoiled {path : String} {content : Bytes} {length : Nat} :
      PersistMove settings parcel state (.write (some length))
        (.writing path content) none
        ((state.spoilFile path (content.take length) parcel.id).drop parcel.id)
  | listed {spool : EventSpool} :
      settings.spool = some spool →
      PersistMove settings parcel state .list .limiting
        (some (.evicting (spool.enforceLimits (filesWithSizes state.files))))
        state
  | evicted {path : String} {paths : List String} {removed : Bool} :
      PersistMove settings parcel state (.evict removed)
        (.evicting (path :: paths)) (some (.evicting paths))
        (state.evictFile path removed)
  | stored :
      PersistMove settings parcel state .finish (.evicting []) none
        (state.store parcel.id)

theorem persistMove_of_step {settings : Settings} {parcel : Parcel}
    {stage : PersistStage} {action : PersistAction} {state after : State}
    {next : Option PersistStage}
    (moved :
      persistStep settings parcel stage action state = some (next, after)) :
    PersistMove settings parcel state action stage next after := by
  unfold persistStep at moved
  split at moved
  · rename_i dirReady created
    split at moved
    · cases moved
      exact .refused
    · rename_i spool configured
      split at moved
      · cases moved
        exact .refused
      · rename_i accepted
        have ready : dirReady = true := by
          cases dirReady <;> simp_all
        subst ready
        split at moved
        · cases moved
          exact .refused
        · rename_i content encoded
          split at moved
          · cases moved
            exact .refused
          · rename_i nowMillis uuid
            dsimp only at moved
            split at moved
            · cases moved
            · rename_i fresh
              cases moved
              exact .created (by simp [configured]) encoded fresh
  · split at moved
    · cases moved
      exact .written
    · cases moved
      exact .spoiled
  · obtain ⟨spool, configured, result⟩ := Option.map_eq_some_iff.mp moved
    cases result
    exact .listed configured
  · cases moved
    exact .evicted
  · cases moved
    exact .stored
  · cases moved

/-- `persist_or_drop` touches the directory, the counters and its records. -/
theorem PersistMove.frame {settings : Settings} {parcel : Parcel}
    {action : PersistAction} {stage : PersistStage}
    {next : Option PersistStage} {state after : State}
    (move : PersistMove settings parcel state action stage next after) :
    ∃ files names counters stored dropped spoiled evicted,
      after =
        { state with
          files := files
          names := names
          counters := counters
          stored := stored
          dropped := dropped
          spoiled := spoiled
          evicted := evicted } := by
  cases move with
  | evicted =>
      rw [evictFile]
      split <;> exact ⟨_, _, _, _, _, _, _, rfl⟩
  | _ => exact ⟨_, _, _, _, _, _, _, rfl⟩

theorem PersistMove.parties {settings : Settings} {parcel : Parcel}
    {action : PersistAction} {stage : PersistStage}
    {next : Option PersistStage} {state after : State}
    (move : PersistMove settings parcel state action stage next after) :
    after.threads = state.threads ∧ after.worker = state.worker := by
  obtain ⟨files, names, counters, stored, dropped, spoiled, evicted, rfl⟩ :=
    move.frame
  exact ⟨rfl, rfl⟩

/-- The outcomes of a step of a calling thread. -/
inductive ThreadMove (settings : Settings) (index : Nat) (state : State) :
    Activity → ThreadAction → State → Prop where
  | send {envelope : Envelope} :
      ThreadMove settings index state .idle (.send envelope)
        ({ state with
          sent := state.sent + 1
          counters := state.counters.captured }.setThread index
            (.locking { id := state.sent, envelope }))
  | lock {parcel : Parcel} :
      state.senderLocked = false →
      ThreadMove settings index state (.locking parcel) .lock
        (state.setThread index (.offering parcel))
  | refused {parcel : Parcel} {parked : Bool} :
      ThreadMove settings index state (.offering parcel) (.offer parked)
        (state.setThread index (.spooling parcel .start))
  | accepted {parcel : Parcel} {parked : Bool} :
      state.senderOpen = true →
      state.worker.isGone = false →
      ThreadMove settings index state (.offering parcel) (.offer parked)
        ({ state with
          queue := state.queue ++ [Message.send parcel]
          enqueued := state.enqueued ++ [parcel.id] }.setThread index
            (.counting parcel))
  | count {parcel : Parcel} :
      ThreadMove settings index state (.counting parcel) .count
        ({ state with counters := state.counters.queued }.endSend index
          parcel.id)
  | spooling {parcel : Parcel} {stage next : PersistStage}
      {action : PersistAction} {after : State} :
      PersistMove settings parcel state action stage (some next) after →
      ThreadMove settings index state (.spooling parcel stage) (.spool action)
        (after.setThread index (.spooling parcel next))
  | spooled {parcel : Parcel} {stage : PersistStage} {action : PersistAction}
      {after : State} :
      PersistMove settings parcel state action stage none after →
      ThreadMove settings index state (.spooling parcel stage) (.spool action)
        (after.endSend index parcel.id)
  | flush :
      ThreadMove settings index state .idle .flush
        (state.setThread index
          (.flushing { before := state.returned, stopping := false }))
  | shutdown :
      ThreadMove settings index state .idle .shutdown
        (state.setThread index
          (.flushing { before := state.returned, stopping := true }))
  | clone {call : FlushCall} :
      state.senderOpen = true →
      ThreadMove settings index state (.flushing call) .clone
        (state.setThread index (.posting call))
  | taken {call : FlushCall} :
      state.senderOpen = false →
      ThreadMove settings index state (.flushing call) .clone
        (state.endFlush index call true)
  | unheard {call : FlushCall} :
      state.worker.isGone = true →
      ThreadMove settings index state (.posting call) .post
        (state.endFlush index call true)
  | post {call : FlushCall} :
      state.worker.isGone = false →
      ThreadMove settings index state (.posting call) .post
        ({ state with
          queue := state.queue ++ [Message.flush state.acks]
          acks := state.acks + 1 }.setThread index (.awaiting call state.acks))
  | acknowledge {call : FlushCall} {ack : Nat} :
      state.worker = .acking ack →
      ThreadMove settings index state (.awaiting call ack) .acknowledge
        ({ state with worker := .idle }.endFlush index call true)
  | timeout {call : FlushCall} {ack : Nat} :
      ThreadMove settings index state (.awaiting call ack) .timeout
        (state.endFlush index call false)
  | take {drained : Bool} {before : List Nat} :
      state.senderLocked = false →
      ThreadMove settings index state (.taking drained before) .take
        ({ state with senderOpen := false }.setThread index
          (.closing drained before))
  | close {drained : Bool} {before : List Nat} :
      ThreadMove settings index state (.closing drained before) .close
        ({ state with handle := false }.setThread index
          (.joining drained before))
  | closed {drained : Bool} {before : List Nat} :
      state.handleLocked = false →
      state.handle = false →
      ThreadMove settings index state (.closing drained before) .close
        (state.endShutdown index drained before)
  | join {drained : Bool} {before : List Nat} :
      state.worker.isOver = true →
      ThreadMove settings index state (.joining drained before) .join
        (state.endShutdown index drained before)

/-- A returning flush changes the thread and what was answered for. -/
theorem endFlush_eq (state : State) (index : Nat) (call : FlushCall)
    (drained : Bool) :
    state.endFlush index call drained =
      { state with
        threads := state.threads.set index
          (if call.stopping then .taking drained call.before else .idle)
        confirmed := state.confirmed ++
          if call.stopping then [] else if drained then call.before else [] } := by
  unfold endFlush confirm setThread
  split <;> simp

theorem threadMove_of_step {settings : Settings} {index : Nat}
    {state after : State} {activity : Activity} {action : ThreadAction}
    (moved : threadStep settings index state activity action = some after) :
    ThreadMove settings index state activity action after := by
  unfold threadStep at moved
  split at moved
  · cases moved
    exact .send
  · split at moved
    · cases moved
    · rename_i free
      cases moved
      exact .lock (by simpa using free)
  · split at moved
    · cases moved
      exact .refused
    · rename_i admitted
      simp only [Bool.or_eq_true, not_or, Bool.not_eq_true, Bool.not_eq_false'] at admitted
      cases moved
      exact .accepted admitted.1.1 admitted.1.2
  · cases moved
    exact .count
  · obtain ⟨⟨next, middle⟩, persisted, result⟩ := Option.map_eq_some_iff.mp moved
    have move := persistMove_of_step persisted
    cases next with
    | none =>
        cases result
        exact .spooled move
    | some next =>
        cases result
        exact .spooling move
  · cases moved
    exact .flush
  · cases moved
    exact .shutdown
  · split at moved
    · cases moved
    · split at moved
      · rename_i sender
        cases moved
        exact .clone sender
      · rename_i sender
        cases moved
        exact .taken (by simpa using sender)
  · split at moved
    · rename_i gone
      cases moved
      exact .unheard gone
    · rename_i alive
      split at moved
      · cases moved
        exact .post (by simpa using alive)
      · cases moved
  · split at moved
    · rename_i call ack acked
      have worker : state.worker = .acking ack := by
        unfold Phase.acks at acked
        split at acked
        · rename_i other phase
          rw [phase, eq_of_beq acked]
        · cases acked
      cases moved
      exact .acknowledge worker
    · cases moved
  · cases moved
    exact .timeout
  · split at moved
    · cases moved
    · rename_i free
      cases moved
      exact .take (by simpa using free)
  · split at moved
    · cases moved
    · rename_i unlocked
      split at moved
      · cases moved
        exact .close
      · rename_i taken
        cases moved
        exact .closed (by simpa using unlocked) (by simpa using taken)
  · split at moved
    · rename_i finished
      cases moved
      exact .join finished
    · cases moved
  · cases moved

/-- The outcomes of a step of the worker. -/
inductive WorkerMove (settings : Settings) (state : State) :
    Phase → WorkerAction → State → Prop where
  | built {phase : Phase} :
      phase = .listing ∨ phase = .idle →
      WorkerMove settings state .starting (.build true)
        { state with worker := phase }
  | unbuilt : WorkerMove settings state .starting (.build false) state.die
  | list :
      WorkerMove settings state .listing .list
        { state with worker := .draining (spoolFiles state.files) }
  | drained :
      WorkerMove settings state (.draining []) .load { state with worker := .idle }
  | unreadable {path : String} {paths : List String} :
      loadFile settings.codec state.files path = none →
      WorkerMove settings state (.draining (path :: paths)) .load
        { state with
          counters := state.counters.dropped
          replayDrops := state.replayDrops + 1
          worker := .removing path paths .discarded }
  | loaded {path : String} {paths : List String} {envelope : Envelope} :
      loadFile settings.codec state.files path = some envelope →
      WorkerMove settings state (.draining (path :: paths)) .load
        { state with worker := .replaying path paths envelope }
  | replayPanicked {path : String} {paths : List String} {envelope : Envelope}
      {checkedAt : Instant} {exchanges : Nat → Exchange} :
      Allstak.deliver settings.codec envelope state.limiter state.counters
          checkedAt exchanges = none →
      WorkerMove settings state (.replaying path paths envelope)
        (.replay checkedAt exchanges)
        (state.perish settings.codec envelope exchanges)
  | replayed {path : String} {paths : List String} {envelope : Envelope}
      {checkedAt : Instant} {exchanges : Nat → Exchange} {delivery : Delivery} :
      Allstak.deliver settings.codec envelope state.limiter state.counters
          checkedAt exchanges = some delivery →
      delivery.outcome = .accepted →
      WorkerMove settings state (.replaying path paths envelope)
        (.replay checkedAt exchanges)
        { state.delivered settings.codec envelope delivery with
          counters := delivery.counters.replayed
          worker := .removing path paths .accepted }
  | replayFailed {path : String} {paths : List String} {envelope : Envelope}
      {checkedAt : Instant} {exchanges : Nat → Exchange} {delivery : Delivery} :
      Allstak.deliver settings.codec envelope state.limiter state.counters
          checkedAt exchanges = some delivery →
      delivery.outcome = .permanentFailure →
      WorkerMove settings state (.replaying path paths envelope)
        (.replay checkedAt exchanges)
        { state.delivered settings.codec envelope delivery with
          counters := delivery.counters.dropped
          replayDrops := state.replayDrops + 2
          worker := .removing path paths .discarded }
  | replayStopped {path : String} {paths : List String} {envelope : Envelope}
      {checkedAt : Instant} {exchanges : Nat → Exchange} {delivery : Delivery} :
      Allstak.deliver settings.codec envelope state.limiter state.counters
          checkedAt exchanges = some delivery →
      delivery.outcome = .retryableFailure →
      WorkerMove settings state (.replaying path paths envelope)
        (.replay checkedAt exchanges)
        { state.delivered settings.codec envelope delivery with worker := .idle }
  | remove {path : String} {paths : List String} {fate : Fate} {removed : Bool} :
      WorkerMove settings state (.removing path paths fate) (.remove removed)
        { state.unlinkReplayed path fate removed with worker := .draining paths }
  | receive {parcel : Parcel} {rest : List Message} :
      state.queue = .send parcel :: rest →
      WorkerMove settings state .idle .receive
        { state with
          queue := rest
          dequeued := state.dequeued ++ [parcel.id]
          worker := .received parcel }
  | receiveFlush {ack : Nat} {rest : List Message} :
      state.queue = .flush ack :: rest →
      WorkerMove settings state .idle .receive
        { state with queue := rest, worker := .acking ack }
  | exit :
      state.queue = [] →
      state.senderOpen = false →
      state.senderCloned = false →
      WorkerMove settings state .idle .receive { state with worker := .exited }
  | uncount {parcel : Parcel} :
      WorkerMove settings state (.received parcel) .uncount
        { state with
          counters := state.counters.unqueued
          worker := .delivering parcel }
  | deliverPanicked {parcel : Parcel} {checkedAt : Instant}
      {exchanges : Nat → Exchange} :
      Allstak.deliver settings.codec parcel.envelope state.limiter
          state.counters checkedAt exchanges = none →
      WorkerMove settings state (.delivering parcel)
        (.deliver checkedAt exchanges)
        (state.perish settings.codec parcel.envelope exchanges)
  | answered {parcel : Parcel} {checkedAt : Instant}
      {exchanges : Nat → Exchange} {delivery : Delivery} :
      Allstak.deliver settings.codec parcel.envelope state.limiter
          state.counters checkedAt exchanges = some delivery →
      delivery.outcome = .accepted →
      WorkerMove settings state (.delivering parcel)
        (.deliver checkedAt exchanges)
        { state.delivered settings.codec parcel.envelope delivery with
          answered := state.answered ++ [parcel.id]
          worker := .idle }
  | failed {parcel : Parcel} {checkedAt : Instant}
      {exchanges : Nat → Exchange} {delivery : Delivery} :
      Allstak.deliver settings.codec parcel.envelope state.limiter
          state.counters checkedAt exchanges = some delivery →
      delivery.outcome = .permanentFailure →
      WorkerMove settings state (.delivering parcel)
        (.deliver checkedAt exchanges)
        { state.delivered settings.codec parcel.envelope delivery with
          dropped := state.dropped ++ [parcel.id]
          worker := .idle }
  | undelivered {parcel : Parcel} {checkedAt : Instant}
      {exchanges : Nat → Exchange} {delivery : Delivery} :
      Allstak.deliver settings.codec parcel.envelope state.limiter
          state.counters checkedAt exchanges = some delivery →
      delivery.outcome = .retryableFailure →
      WorkerMove settings state (.delivering parcel)
        (.deliver checkedAt exchanges)
        { state.delivered settings.codec parcel.envelope delivery with
          worker := .persisting parcel .start }
  | persisting {parcel : Parcel} {stage next : PersistStage}
      {action : PersistAction} {after : State} :
      PersistMove settings parcel state action stage (some next) after →
      WorkerMove settings state (.persisting parcel stage) (.persist action)
        { after with worker := .persisting parcel next }
  | persisted {parcel : Parcel} {stage : PersistStage} {action : PersistAction}
      {after : State} :
      PersistMove settings parcel state action stage none after →
      WorkerMove settings state (.persisting parcel stage) (.persist action)
        { after with worker := .idle }
  | abandon {ack : Nat} :
      WorkerMove settings state (.acking ack) .abandon
        { state with worker := .idle }

theorem workerMove_of_step {settings : Settings} {state after : State}
    {phase : Phase} {action : WorkerAction}
    (moved : workerStep settings state phase action = some after) :
    WorkerMove settings state phase action after := by
  unfold workerStep at moved
  split at moved
  · split at moved
    · rename_i succeeded
      subst succeeded
      cases moved
      exact .built (by split <;> simp)
    · rename_i failed
      cases moved
      rw [Bool.not_eq_true] at failed
      subst failed
      exact .unbuilt
  · cases moved
    exact .list
  · cases moved
    exact .drained
  · split at moved
    · rename_i unreadable
      cases moved
      exact .unreadable unreadable
    · rename_i envelope loaded
      cases moved
      exact .loaded loaded
  · split at moved
    · rename_i panicked
      cases moved
      exact .replayPanicked panicked
    · rename_i delivery delivered
      dsimp only at moved
      split at moved
      · rename_i outcome
        cases moved
        exact .replayed delivered outcome
      · rename_i outcome
        cases moved
        exact .replayFailed delivered outcome
      · rename_i outcome
        cases moved
        exact .replayStopped delivered outcome
  · cases moved
    exact .remove
  · split at moved
    · rename_i parcel rest queue
      cases moved
      exact .receive queue
    · rename_i ack rest queue
      cases moved
      exact .receiveFlush queue
    · rename_i queue
      split at moved
      · cases moved
      · rename_i disconnected
        simp only [Bool.or_eq_true, not_or, Bool.not_eq_true] at disconnected
        cases moved
        exact .exit queue disconnected.1 disconnected.2
  · cases moved
    exact .uncount
  · split at moved
    · rename_i panicked
      cases moved
      exact .deliverPanicked panicked
    · rename_i delivery delivered
      dsimp only at moved
      split at moved
      · rename_i outcome
        cases moved
        exact .answered delivered outcome
      · rename_i outcome
        cases moved
        exact .failed delivered outcome
      · rename_i outcome
        cases moved
        exact .undelivered delivered outcome
  · obtain ⟨⟨next, middle⟩, persisted, result⟩ := Option.map_eq_some_iff.mp moved
    have move := persistMove_of_step persisted
    cases next with
    | none =>
        cases result
        exact .persisted move
    | some next =>
        cases result
        exact .persisting move
  · split at moved
    · cases moved
    · cases moved
      exact .abandon
  · cases moved

end State

/-- A step is a move of a thread or of the worker. -/
theorem step_cases {settings : Settings} {state after : State} {label : Label}
    (moved : step settings state label = some after) :
    (∃ index activity action,
      label = .thread index action ∧
        state.threads[index]? = some activity ∧
        State.ThreadMove settings index state activity action after) ∨
      ∃ action,
        label = .worker action ∧
          State.WorkerMove settings state state.worker action after := by
  cases label with
  | thread index action =>
      obtain ⟨activity, found, acted⟩ := Option.bind_eq_some_iff.mp moved
      exact .inl ⟨index, activity, action, rfl, found,
        State.threadMove_of_step acted⟩
  | worker action => exact .inr ⟨action, rfl, State.workerMove_of_step moved⟩

end Transport

end Allstak
