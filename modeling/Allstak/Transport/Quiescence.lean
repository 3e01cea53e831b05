import Mathlib.Algebra.Order.BigOperators.Group.List
import Mathlib.Algebra.Order.Group.Nat
import Allstak.Library.Settling
import Allstak.Transport.Diagnostics
import Allstak.Transport.Eviction
import Allstak.Transport.QueueGauge

/-!
# The transport comes to rest

Left alone, with no further call made on it and no delivery that panics, the
transport stops after a bounded number of steps, whatever the server answers,
whatever fails and whoever moves first.  It stops only where every call has
returned and nothing waits to be delivered, so none of its locks and channels
can leave a party waiting for ever.
-/

namespace Allstak

namespace Transport

def Activity.isIdle : Activity → Bool
  | .idle => true
  | _ => false

namespace State

/-- The action begins a call of the application. -/
def ThreadAction.isCall : ThreadAction → Bool
  | .send _ => true
  | .flush => true
  | .shutdown => true
  | _ => false

/-- No call is under way and nothing is queued; the worker waits for a message
or, once the sender was taken, has ended. -/
structure Quiescent (state : State) : Prop where
  returned : ∀ activity ∈ state.threads, activity = .idle
  emptied : state.queue = []
  waiting : state.worker = .idle ∧ state.senderOpen = true ∨
    state.worker.isOver = true

/-- `Quiescent` as a test. -/
def isQuiescent (state : State) : Bool :=
  state.threads.all Activity.isIdle && state.queue.isEmpty &&
    (state.worker.isIdle && state.senderOpen || state.worker.isOver)

theorem quiescent_of_test {state : State} (passed : state.isQuiescent = true) :
    state.Quiescent := by
  simp only [isQuiescent, Bool.and_eq_true, Bool.or_eq_true, List.all_eq_true,
    List.isEmpty_iff] at passed
  obtain ⟨⟨idle, emptied⟩, waiting⟩ := passed
  refine ⟨?_, emptied, waiting.imp_left (And.imp_left ?_)⟩
  · intro activity member
    have rests := idle activity member
    cases activity <;> first | rfl | cases rests
  · intro rests
    cases phase : state.worker <;> rw [phase] at rests <;>
      first | rfl | cases rests

end State

/-- A step that the transport makes by itself. -/
def Label.isOwn : Label → Bool
  | .thread _ action => !action.isCall
  | .worker _ => true

namespace State

/-- The step is a delivery that panics. -/
def panics (settings : Settings) (state : State) : Label → Bool
  | .worker (.build _) => false
  | label => state.dies settings label

/-- The transport makes the step by itself, and no delivery panics in it. -/
def moves (settings : Settings) (state : State) (label : Label) : Bool :=
  label.isOwn && !state.panics settings label

private theorem isOwn_of_moves {settings : Settings} {state : State}
    {label : Label}
    (moving : state.moves settings label = true) : label.isOwn = true :=
  (Bool.and_eq_true_iff.mp moving).1

end State

def PersistStage.weight (room : Nat) : PersistStage → Nat
  | .start => room + 4
  | .writing _ _ => room + 3
  | .limiting => room + 2
  | .evicting paths => paths.length + 1

def Activity.weight (room : Nat) : Activity → Nat
  | .idle => 0
  | .locking _ => room + 10
  | .offering _ => room + 9
  | .counting _ => 1
  | .spooling _ stage => stage.weight room
  | .flushing _ => 8
  | .posting _ => 7
  | .awaiting _ _ => 4
  | .taking _ _ => 3
  | .closing _ _ => 2
  | .joining _ _ => 1

def Message.weight (room : Nat) : Message → Nat
  | .send _ => room + 7
  | .flush _ => 2

def Phase.weight (room : Nat) : Phase → Nat
  | .starting => 3 * room + 4
  | .listing => 3 * room + 3
  | .draining paths => 3 * paths.length + 2
  | .replaying _ paths _ => 3 * paths.length + 4
  | .removing _ paths _ => 3 * paths.length + 3
  | .idle => 1
  | .received _ => room + 7
  | .delivering _ => room + 6
  | .persisting _ stage => stage.weight room + 1
  | .acking _ => 2
  | .exited => 0
  | .gone => 0

namespace State

/-- The files there are and those that envelopes under way may yet become. -/
def room (state : State) : Nat :=
  state.files.length +
    (state.threads.map fun activity => activity.carrying.length).sum +
    state.channel.length + state.worker.carrying.length

def effortIn (room : Nat) (state : State) : Nat :=
  (state.threads.map (Activity.weight room)).sum +
    (state.queue.map (Message.weight room)).sum + state.worker.weight room

/-- A bound on the steps the transport can still make by itself. -/
def effort (state : State) : Nat := state.effortIn state.room

end State

private theorem PersistStage.weight_mono {small large : Nat}
    (le : small ≤ large)
    (stage : PersistStage) : stage.weight small ≤ stage.weight large := by
  cases stage <;> simp [weight, le]

private theorem Activity.weight_mono {small large : Nat} (le : small ≤ large)
    (activity : Activity) : activity.weight small ≤ activity.weight large := by
  cases activity with
  | spooling parcel stage => exact stage.weight_mono le
  | _ => simp [weight, le]

private theorem Message.weight_mono {small large : Nat} (le : small ≤ large)
    (message : Message) : message.weight small ≤ message.weight large := by
  cases message <;> simp [weight, le]

private theorem Phase.weight_mono {small large : Nat} (le : small ≤ large)
    (phase : Phase) : phase.weight small ≤ phase.weight large := by
  cases phase with
  | persisting parcel stage =>
      exact Nat.add_le_add_right (stage.weight_mono le) 1
  | _ =>
      simp only [weight]
      omega

namespace State

private theorem effortIn_mono {small large : Nat} (le : small ≤ large)
    (state : State) : state.effortIn small ≤ state.effortIn large := by
  have threads := List.sum_le_sum fun activity
    (_ : activity ∈ state.threads) => activity.weight_mono le
  have queue := List.sum_le_sum fun message (_ : message ∈ state.queue) =>
    message.weight_mono le
  have worker := state.worker.weight_mono le
  unfold effortIn
  omega

private theorem length_spoolFiles_le (directory : List File) :
    (spoolFiles directory).length ≤ directory.length := by
  unfold spoolFiles filesWithSizes
  rw [List.length_map, List.length_insertionSort, List.length_map]
  exact List.length_filter_le _ _

theorem length_enforceLimits_le (spool : EventSpool) (directory : List File) :
    (spool.enforceLimits (filesWithSizes directory)).length ≤
      directory.length := by
  obtain ⟨removed, kept, split, plan, -⟩ :=
    limitRemovals_split spool.maxEvents spool.maxBytes
      (filesWithSizes directory)
  have listed := length_spoolFiles_le directory
  rw [spoolFiles, List.length_map, split, List.length_append] at listed
  rw [EventSpool.enforceLimits_eq, plan, List.length_map]
  omega

private theorem length_removeFile_le (directory : List File) (path : String) :
    (removeFile directory path).length ≤ directory.length :=
  List.length_filter_le _ _

theorem PersistMove.spends {settings : Settings} {parcel : Parcel}
    {action : PersistAction} {stage : PersistStage}
    {next : Option PersistStage} {state after : State} {room : Nat}
    (move : PersistMove settings parcel state action stage next after)
    (enough : state.files.length ≤ room) :
    next.elim 0 (PersistStage.weight room) < stage.weight room ∧
      after.files.length ≤
        state.files.length + (stage.carrying parcel).length := by
  cases move with
  | refused => simp [PersistStage.weight, drop]
  | created =>
      simp [PersistStage.weight, PersistStage.carrying, createFile]
  | written => simp [PersistStage.weight, writeFile, updateFile]
  | spoiled =>
      simp [PersistStage.weight, drop, spoilFile, writeFile, updateFile]
  | @listed spool configured =>
      have listed := length_enforceLimits_le spool state.files
      simp only [Option.elim_some, PersistStage.weight]
      omega
  | evicted =>
      refine ⟨by simp [PersistStage.weight], ?_⟩
      rw [evictFile]
      split
      · exact length_removeFile_le _ _
      · exact Nat.le_refl _
  | stored => simp [PersistStage.weight, store]

/-- What a thread's own step costs: the thread, the channel and the worker
weigh less together, and no more files can come of what they carry. -/
theorem ThreadMove.spends {settings : Settings} {index : Nat}
    {activity : Activity} {action : ThreadAction} {state after : State}
    {room : Nat} (own : action.isCall = false)
    (move : ThreadMove settings index state activity action after)
    (enough : state.files.length ≤ room) :
    ∃ new posted, after.threads = state.threads.set index new ∧
      after.queue = state.queue ++ posted ∧
      new.weight room + (posted.map (Message.weight room)).sum +
          after.worker.weight room <
        activity.weight room + state.worker.weight room ∧
      after.files.length + new.carrying.length +
          (posted.filterMap Message.id?).length +
          after.worker.carrying.length ≤
        state.files.length + activity.carrying.length +
          state.worker.carrying.length := by
  cases move with
  | send | flush | shutdown => cases own
  | lock free =>
      exact ⟨_, [], rfl, by simp [setThread], by simp
        [Activity.weight, setThread],
        by simp [Activity.carrying, setThread]⟩
  | refused =>
      exact ⟨_, [], rfl, by simp [setThread],
        by simp [Activity.weight, PersistStage.weight, setThread],
        by simp [Activity.carrying, PersistStage.carrying, setThread]⟩
  | @accepted parcel parked sender alive =>
      refine ⟨_, [Message.send parcel], rfl, rfl, ?_, ?_⟩
      · simp only [Activity.weight, Message.weight, setThread, List.map_cons,
          List.map_nil, List.sum_cons, List.sum_nil]
        omega
      · simp [Activity.carrying, Message.id?, setThread]
  | count =>
      exact ⟨_, [], rfl, by simp [endSend, setThread],
        by simp [Activity.weight, endSend, setThread],
        by simp [Activity.carrying, endSend, setThread]⟩
  | spooling persisted =>
      have filed := persisted.carrying_next
      obtain ⟨less, fewer⟩ := persisted.spends enough
      obtain ⟨files, names, counters, stored, dropped, spoiled, evicted, rfl⟩ :=
        persisted.frame
      refine ⟨_, [], rfl, by simp [setThread], ?_, ?_⟩
      · simpa [Activity.weight, setThread] using less
      · simpa [Activity.carrying, filed, setThread] using fewer
  | spooled persisted =>
      obtain ⟨less, fewer⟩ := persisted.spends enough
      obtain ⟨files, names, counters, stored, dropped, spoiled, evicted, rfl⟩ :=
        persisted.frame
      refine ⟨_, [], rfl, by simp [endSend, setThread], ?_, ?_⟩
      · simpa [Activity.weight, endSend, setThread] using less
      · simpa [Activity.carrying, endSend, setThread] using fewer
  | clone sender =>
      exact ⟨_, [], rfl, by simp [setThread], by simp
        [Activity.weight, setThread],
        by simp [Activity.carrying, setThread]⟩
  | taken sender | unheard gone | timeout =>
      rw [endFlush_eq]
      refine ⟨_, [], rfl, by simp, ?_, ?_⟩ <;>
        split <;> simp [Activity.weight, Activity.carrying]
  | post alive =>
      refine ⟨_, [Message.flush state.acks], rfl, rfl, ?_, ?_⟩
      · simp only [Activity.weight, Message.weight, setThread, List.map_cons,
          List.map_nil, List.sum_cons, List.sum_nil]
        omega
      · simp [Activity.carrying, Message.id?, setThread]
  | acknowledge acking =>
      rw [endFlush_eq]
      refine ⟨_, [], rfl, by simp, ?_, ?_⟩ <;>
        split <;> simp [Activity.weight, Activity.carrying, acking,
          Phase.weight,
          Phase.carrying]
  | take free =>
      exact ⟨_, [], rfl, by simp [setThread], by simp
        [Activity.weight, setThread],
        by simp [Activity.carrying, setThread]⟩
  | close =>
      exact ⟨_, [], rfl, by simp [setThread], by simp
        [Activity.weight, setThread],
        by simp [Activity.carrying, setThread]⟩
  | closed unlocked taken | join finished =>
      exact ⟨_, [], rfl, by simp [endShutdown, confirm, setThread],
        by simp [Activity.weight, endShutdown, confirm, setThread],
        by simp [Activity.carrying, endShutdown, confirm, setThread]⟩

theorem ThreadMove.effort_lt {settings : Settings} {index : Nat}
    {activity : Activity} {action : ThreadAction} {state after : State}
    {room : Nat} (own : action.isCall = false)
    (found : state.threads[index]? = some activity)
    (move : ThreadMove settings index state activity action after)
    (enough : state.files.length ≤ room) :
    after.effortIn room < state.effortIn room ∧ after.room ≤ state.room := by
  obtain ⟨new, posted, threads, queue, less, fewer⟩ := move.spends own enough
  have weights :=
    Library.Pool.sum_map_set (Activity.weight room) new found
  have carried := Library.Pool.sum_map_set
    (fun activity => activity.carrying.length) new found
  constructor
  · simp only [effortIn, threads, queue, List.map_append, List.sum_append]
    omega
  · simp only [State.room, channel, threads, queue, List.filterMap_append,
      List.length_append]
    omega

theorem unlinkReplayed_shrinks (state : State) (path : String) (fate : Fate)
    (removed : Bool) :
    ∃ files replayed discarded,
      state.unlinkReplayed path fate removed =
          { state with
            files := files, replayed := replayed, discarded := discarded } ∧
        files.length ≤ state.files.length := by
  unfold unlinkReplayed
  split
  · cases fate <;>
      exact ⟨removeFile state.files path, _, _, rfl, length_removeFile_le _ _⟩
  · exact ⟨_, _, _, rfl, Nat.le_refl _⟩

/-- What a step of the worker costs, as for a thread; it takes messages off the
channel. -/
theorem WorkerMove.spends {settings : Settings} {phase : Phase}
    {action : WorkerAction} {state after : State} {room : Nat}
    (move : WorkerMove settings state phase action after)
    (enough : state.files.length ≤ room) :
    after.threads = state.threads ∧
      (after.queue.map (Message.weight room)).sum + after.worker.weight room <
        (state.queue.map (Message.weight room)).sum + phase.weight room ∧
      after.files.length + after.channel.length + after.worker.carrying.length ≤
        state.files.length + state.channel.length + phase.carrying.length := by
  have listing := length_spoolFiles_le state.files
  cases move with
  | built possible =>
      rcases possible with rfl | rfl <;>
        simp [Phase.weight, Phase.carrying, channel]
  | unbuilt | replayPanicked | deliverPanicked =>
      refine ⟨rfl, ?_, ?_⟩
      · simp only [perish, die, Phase.weight, List.map_nil, List.sum_nil]
        omega
      · simp only [perish, die, channel, Phase.carrying, List.filterMap_nil,
          List.length_nil]
        omega
  | list =>
      refine ⟨rfl, ?_, by simp [Phase.carrying, channel]⟩
      simp only [Phase.weight]
      omega
  | @remove path paths fate removed =>
      obtain ⟨files, replayed, discarded, same, fewer⟩ :=
        state.unlinkReplayed_shrinks path fate removed
      rw [same]
      refine ⟨rfl, by simp [Phase.weight], ?_⟩
      simpa [Phase.carrying, channel] using fewer
  | receive queued =>
      refine ⟨rfl, ?_, ?_⟩
      · simp only [queued, Phase.weight, Message.weight, List.map_cons,
          List.sum_cons]
        omega
      · simp only [channel, queued, Phase.carrying, List.filterMap_cons,
          Message.id?, List.length_cons, List.length_nil]
        omega
  | receiveFlush queued =>
      refine ⟨rfl, ?_, ?_⟩
      · simp only [queued, Phase.weight, Message.weight, List.map_cons,
          List.sum_cons]
        omega
      · simp only [channel, queued, Phase.carrying, List.filterMap_cons,
          Message.id?, List.length_nil]
        omega
  | exit queued closed uncloned =>
      exact ⟨rfl, by simp [Phase.weight], by simp [Phase.carrying, channel]⟩
  | undelivered =>
      exact ⟨rfl, by simp [delivered, Phase.weight, PersistStage.weight],
        by simp [delivered, channel, Phase.carrying, PersistStage.carrying]⟩
  | persisting persisted =>
      have filed := persisted.carrying_next
      obtain ⟨less, fewer⟩ := persisted.spends enough
      obtain ⟨files, names, counters, stored, dropped, spoiled, evicted, rfl⟩ :=
        persisted.frame
      refine ⟨rfl, ?_, ?_⟩
      · simpa [Phase.weight] using less
      · simp only [channel, Phase.carrying, filed, List.length_nil]
        simp only at fewer
        omega
  | persisted persisted =>
      obtain ⟨less, fewer⟩ := persisted.spends enough
      obtain ⟨files, names, counters, stored, dropped, spoiled, evicted, rfl⟩ :=
        persisted.frame
      refine ⟨rfl, ?_, ?_⟩
      · simpa [Phase.weight] using less
      · simp only [channel, Phase.carrying, List.length_nil]
        simp only at fewer
        omega
  | _ =>
      exact ⟨rfl, by simp [delivered, Phase.weight, Nat.mul_add],
        by simp [delivered, channel, Phase.carrying]⟩

/-- Files of envelopes on their way can only be made by steps that were counted
in the room before. -/
theorem effort_lt_of_step {settings : Settings} {state after : State}
    {label : Label} (own : label.isOwn = true)
    (moved : step settings state label = some after) :
    after.effort < state.effort := by
  have enough : state.files.length ≤ state.room := by
    unfold room
    omega
  have lowered : after.effortIn state.room < state.effort ∧
      after.room ≤ state.room := by
    rcases step_cases moved with
      ⟨index, activity, action, rfl, found, move⟩ | ⟨action, rfl, move⟩
    · have uncalled : action.isCall = false := by
        simpa [Label.isOwn] using own
      exact move.effort_lt uncalled found enough
    · obtain ⟨threads, less, fewer⟩ := move.spends enough
      constructor
      · simp only [effort, effortIn, threads]
        omega
      · simp only [room, threads]
        omega
  exact Nat.lt_of_le_of_lt (effortIn_mono lowered.2 after) lowered.1

end State

def PersistStage.Configured (settings : Settings) : PersistStage → Prop
  | .start => True
  | _ => settings.spool.isSome

def Activity.Viable (settings : Settings) (senderOpen : Bool) : Activity → Prop
  | .spooling _ stage => stage.Configured settings
  | .closing _ _ => senderOpen = false
  | .joining _ _ => senderOpen = false
  | _ => True

def Phase.Viable (settings : Settings) : Phase → Prop
  | .persisting _ stage => stage.Configured settings
  | _ => True

namespace State

structure Viable (settings : Settings) (state : State) : Prop where
  threads : ∀ activity ∈ state.threads,
    activity.Viable settings state.senderOpen
  worker : state.worker.Viable settings

theorem PersistMove.configured {settings : Settings} {parcel : Parcel}
    {action : PersistAction} {stage next : PersistStage} {state after : State}
    (move : PersistMove settings parcel state action stage (some next) after)
    (configured : stage.Configured settings) : next.Configured settings := by
  cases move with
  | created spooled => exact spooled
  | written | listed | evicted => exact configured

/-- The thread's next activity is viable, and a taken sender stays taken. -/
theorem ThreadMove.viable {settings : Settings} {index : Nat}
    {activity : Activity} {action : ThreadAction} {state after : State}
    (move : ThreadMove settings index state activity action after)
    (viable : activity.Viable settings state.senderOpen) :
    ∃ new, after.threads = state.threads.set index new ∧
      new.Viable settings after.senderOpen ∧
      (after.senderOpen = state.senderOpen ∨ after.senderOpen = false) ∧
      (after.worker = state.worker ∨ after.worker = .idle) := by
  cases move with
  | refused => exact ⟨_, rfl, trivial, .inl rfl, .inl rfl⟩
  | spooling persisted =>
      have configured := persisted.configured viable
      obtain ⟨files, names, counters, stored, dropped, spoiled, evicted, rfl⟩ :=
        persisted.frame
      exact ⟨_, rfl, configured, .inl rfl, .inl rfl⟩
  | spooled persisted =>
      obtain ⟨files, names, counters, stored, dropped, spoiled, evicted, rfl⟩ :=
        persisted.frame
      exact ⟨_, rfl, trivial, .inl rfl, .inl rfl⟩
  | taken sender | unheard gone | timeout =>
      rw [endFlush_eq]
      refine ⟨_, rfl, ?_, .inl rfl, .inl rfl⟩
      split <;> trivial
  | acknowledge acking =>
      rw [endFlush_eq]
      refine ⟨_, rfl, ?_, .inl rfl, .inr rfl⟩
      split <;> trivial
  | take free => exact ⟨_, rfl, rfl, .inr rfl, .inl rfl⟩
  | close => exact ⟨_, rfl, viable, .inl rfl, .inl rfl⟩
  | _ => exact ⟨_, rfl, trivial, .inl rfl, .inl rfl⟩

theorem WorkerMove.viable {settings : Settings} {phase : Phase}
    {action : WorkerAction} {state after : State}
    (move : WorkerMove settings state phase action after)
    (viable : phase.Viable settings) :
    after.worker.Viable settings ∧ after.threads = state.threads ∧
      after.senderOpen = state.senderOpen := by
  cases move with
  | built possible =>
      rcases possible with rfl | rfl <;> exact ⟨trivial, rfl, rfl⟩
  | @remove path paths fate removed =>
      obtain ⟨files, replayed, discarded, same, -⟩ :=
        state.unlinkReplayed_shrinks path fate removed
      rw [same]
      exact ⟨trivial, rfl, rfl⟩
  | persisting persisted =>
      have configured := persisted.configured viable
      obtain ⟨files, names, counters, stored, dropped, spoiled, evicted, rfl⟩ :=
        persisted.frame
      exact ⟨configured, rfl, rfl⟩
  | persisted persisted =>
      obtain ⟨files, names, counters, stored, dropped, spoiled, evicted, rfl⟩ :=
        persisted.frame
      exact ⟨trivial, rfl, rfl⟩
  | _ => exact ⟨trivial, rfl, rfl⟩

end State

theorem Activity.Viable.closed {settings : Settings} {senderOpen : Bool}
    {activity : Activity} (viable : activity.Viable settings senderOpen) :
    activity.Viable settings false := by
  cases activity with
  | closing | joining => rfl
  | spooling => exact viable
  | _ => trivial

theorem viable_of_reachable {settings : Settings} {state : State}
    (reached : (machine settings).Reachable state) : state.Viable settings := by
  apply reached.induct
  · rintro state ⟨calls, directory, spawned, -, -, rfl⟩
    constructor
    · intro activity member
      rw [List.eq_of_mem_replicate member]
      trivial
    · cases spawned <;> trivial
  · intro before label after viable _ moved
    rcases step_cases moved with
      ⟨index, activity, action, rfl, found, move⟩ | ⟨action, rfl, move⟩
    · obtain ⟨new, threads, newViable, sender, worker⟩ :=
        move.viable (viable.threads activity (List.mem_of_getElem? found))
      constructor
      · intro other member
        rw [threads] at member
        rcases List.mem_or_eq_of_mem_set member with old | rfl
        · rcases sender with same | closed
          · rw [same]
            exact viable.threads other old
          · rw [closed]
            exact (viable.threads other old).closed
        · exact newViable
      · rcases worker with same | idle
        · rw [same]
          exact viable.worker
        · rw [idle]
          trivial
    · obtain ⟨worker, threads, sender⟩ := move.viable viable.worker
      constructor
      · rw [threads, sender]
        exact viable.threads
      · exact worker

namespace State

/-- The transport can make a step of its own in which no delivery panics. -/
abbrev Stirs (settings : Settings) (state : State) : Prop :=
  (machine settings).Stirs (moves settings) state

private theorem stirs_of_thread {settings : Settings} {state : State}
    {index : Nat} {activity : Activity} (action : ThreadAction)
    (found : state.threads[index]? = some activity)
    (own : action.isCall = false)
    (possible : (threadStep settings index state activity action).isSome) :
    state.Stirs settings := by
  refine ⟨.thread index action, ?_, ?_⟩
  · simp [moves, panics, dies, Label.isOwn, own]
  · simpa only [machine, step, found, Option.bind_some] using possible

private theorem stirs_of_worker {settings : Settings} {state : State}
    (action : WorkerAction) (calm : state.panics settings (.worker action) = false)
    (possible : (workerStep settings state state.worker action).isSome) :
    state.Stirs settings := by
  refine ⟨.worker action, ?_, possible⟩
  rw [moves, calm]
  rfl

theorem attempts_unanswered (category : DataCategory) (limiter : RateLimiter)
    (left : Nat) (counters : TransportCounters) :
    (attempts category (answeringEach []) limiter left counters).isSome := by
  induction left generalizing counters with
  | zero =>
      rw [attempts]
      rfl
  | succ left induction =>
      rw [attempts]
      exact Option.isSome_map.trans (induction counters.retried)

/-- A delivery that no one answers does not panic. -/
theorem deliver_unanswered (codec : Codec) (envelope : Envelope)
    (limiter : RateLimiter) (counters : TransportCounters)
    (checkedAt : Instant) :
    (Allstak.deliver codec envelope limiter counters checkedAt
      (answeringEach [])).isSome := by
  unfold Allstak.deliver
  split
  · rfl
  · cases codec.toVec envelope.body with
    | none => rfl
    | some raw => exact attempts_unanswered _ _ _ _

theorem persistStep_possible {settings : Settings} {stage : PersistStage}
    (parcel : Parcel) (state : State)
    (configured : stage.Configured settings) :
    ∃ action, (persistStep settings parcel stage action state).isSome := by
  cases stage with
  | start =>
      refine ⟨.begin false none, ?_⟩
      unfold persistStep
      cases settings.spool <;> simp
  | writing path content => exact ⟨.write none, rfl⟩
  | limiting =>
      refine ⟨.list, ?_⟩
      rw [persistStep, Option.isSome_map]
      exact configured
  | evicting paths =>
      cases paths with
      | nil => exact ⟨.finish, rfl⟩
      | cons path paths => exact ⟨.evict true, rfl⟩

/-- Whoever holds the sender lock can go on. -/
theorem stirs_of_locked {settings : Settings} {state : State}
    (viable : state.Viable settings) (locked : state.senderLocked = true) :
    state.Stirs settings := by
  obtain ⟨activity, member, holds⟩ := List.any_eq_true.mp locked
  obtain ⟨index, found⟩ := List.mem_iff_getElem?.mp member
  cases activity with
  | offering parcel =>
      apply stirs_of_thread (.offer false) found rfl
      rw [threadStep]
      split <;> rfl
  | counting parcel => exact stirs_of_thread .count found rfl rfl
  | spooling parcel stage =>
      obtain ⟨action, possible⟩ :=
        persistStep_possible parcel state (viable.threads _ member)
      apply stirs_of_thread (.spool action) found rfl
      rw [threadStep, Option.isSome_map]
      exact possible
  | _ => cases holds

/-- A worker that neither waits nor has ended can go on, unless it answers a
flush that can still give up waiting. -/
theorem stirs_of_working {settings : Settings} {state : State}
    (viable : state.Viable settings) (working : state.worker.isIdle = false)
    (running : state.worker.isOver = false) : state.Stirs settings := by
  have configured := viable.worker
  cases phase : state.worker with
  | idle | exited | gone =>
      simp [phase, Phase.isIdle, Phase.isOver] at working running
  | starting =>
      apply stirs_of_worker (.build true) rfl
      rw [phase]
      rfl
  | listing =>
      apply stirs_of_worker .list rfl
      rw [phase]
      rfl
  | draining paths =>
      apply stirs_of_worker .load rfl
      rw [phase]
      cases paths with
      | nil => rfl
      | cons path paths =>
          rw [workerStep]
          split <;> rfl
  | replaying path paths envelope =>
      have calm := deliver_unanswered settings.codec envelope state.limiter
        state.counters sampleInstant
      apply stirs_of_worker (.replay sampleInstant (answeringEach []))
      · simp only [panics, dies, phase, Option.isNone_eq_false_iff]
        exact calm
      · rw [phase, workerStep]
        split
        · rfl
        · dsimp only
          split <;> rfl
  | removing path paths fate =>
      apply stirs_of_worker (.remove true) rfl
      rw [phase]
      rfl
  | received parcel =>
      apply stirs_of_worker .uncount rfl
      rw [phase]
      rfl
  | delivering parcel =>
      have calm := deliver_unanswered settings.codec parcel.envelope
        state.limiter state.counters sampleInstant
      apply stirs_of_worker (.deliver sampleInstant (answeringEach []))
      · simp only [panics, dies, phase, Option.isNone_eq_false_iff]
        exact calm
      · rw [phase, workerStep]
        split
        · rfl
        · dsimp only
          split <;> rfl
  | persisting parcel stage =>
      rw [phase] at configured
      obtain ⟨action, possible⟩ := persistStep_possible parcel state configured
      apply stirs_of_worker (.persist action) rfl
      rw [phase, workerStep, Option.isSome_map]
      exact possible
  | acking ack =>
      cases awaited : state.threads.any (Activity.awaits ack) with
      | true =>
          obtain ⟨activity, member, awaits⟩ := List.any_eq_true.mp awaited
          obtain ⟨index, found⟩ := List.mem_iff_getElem?.mp member
          cases activity with
          | awaiting call other =>
              exact stirs_of_thread .timeout found rfl rfl
          | _ => cases awaits
      | false =>
          apply stirs_of_worker .abandon rfl
          simp [phase, workerStep, awaited]

theorem stirs_of_queued {settings : Settings} {state : State}
    (idle : state.worker = .idle) (queued : state.queue ≠ []) :
    state.Stirs settings := by
  apply stirs_of_worker .receive rfl
  rw [idle, workerStep]
  split
  · rfl
  · rfl
  · rename_i empty
    exact absurd empty queued

/-- A clone of the sender is held by a flush, which posts its marker as soon as
the channel is empty and may stop waiting at any time. -/
theorem stirs_of_cloned {settings : Settings} {state : State}
    (closing : state.Closing) (empty : state.queue = [])
    (quiet : state.worker = .idle ∨ state.worker.isOver = true)
    (cloned : state.senderCloned = true) : state.Stirs settings := by
  obtain ⟨activity, member, holds⟩ := List.any_eq_true.mp cloned
  obtain ⟨index, found⟩ := List.mem_iff_getElem?.mp member
  cases activity with
  | posting call =>
      apply stirs_of_thread .post found rfl
      rw [threadStep]
      rcases quiet with idle | finished
      · have room : state.hasRoom settings true = true := by
          unfold hasRoom
          split
          · simp [idle, Phase.isIdle, empty]
          · rw [empty]
            simp
            omega
        simp [idle, Phase.isGone, room]
      · cases phase : state.worker with
        | gone => rfl
        | exited =>
            have uncloned := (closing.disconnected phase).2
            rw [cloned] at uncloned
            cases uncloned
        | _ => simp [phase, Phase.isOver] at finished
  | awaiting call ack => exact stirs_of_thread .timeout found rfl rfl
  | _ => cases holds

private theorem stirs_of_disconnected {settings : Settings} {state : State}
    (idle : state.worker = .idle) (empty : state.queue = [])
    (closed : state.senderOpen = false) (uncloned : state.senderCloned =
      false) :
    state.Stirs settings := by
  apply stirs_of_worker .receive rfl
  simp [idle, workerStep, empty, closed, uncloned]

private theorem stirs_of_finished {settings : Settings} {state : State}
    {index : Nat} {drained : Bool} {before : List Nat}
    (found : state.threads[index]? = some (.joining drained before))
    (finished : state.worker.isOver = true) : state.Stirs settings := by
  apply stirs_of_thread .join found rfl
  rw [threadStep, if_pos finished]
  rfl

/-- A call under way goes on when nobody holds a lock it needs and the worker
waits or has ended. -/
theorem stirs_of_called {settings : Settings} {state : State}
    {activity : Activity} (viable : state.Viable settings)
    (unlocked : state.senderLocked = false)
    (uncloned : state.senderCloned = false)
    (waiting : state.worker = .idle ∧ state.senderOpen = true ∨
      state.worker.isOver = true)
    (member : activity ∈ state.threads) (called : activity ≠ .idle) :
    state.Stirs settings := by
  obtain ⟨index, found⟩ := List.mem_iff_getElem?.mp member
  have ended : state.senderOpen = false → state.worker.isOver = true := by
    intro closed
    rcases waiting with ⟨-, opened⟩ | finished
    · rw [closed] at opened
      cases opened
    · exact finished
  have unheld := List.any_eq_false.mp unlocked activity member
  have unshared := List.any_eq_false.mp uncloned activity member
  cases activity with
  | idle => exact absurd rfl called
  | offering | counting | spooling => exact absurd rfl unheld
  | posting | awaiting => exact absurd rfl unshared
  | locking parcel =>
      apply stirs_of_thread .lock found rfl
      simp [threadStep, unlocked]
  | flushing call =>
      apply stirs_of_thread .clone found rfl
      simp only [threadStep, unlocked, Bool.false_eq_true, if_false]
      split <;> rfl
  | taking drained before =>
      apply stirs_of_thread .take found rfl
      simp [threadStep, unlocked]
  | closing drained before =>
      cases locked : state.handleLocked with
      | true =>
          obtain ⟨other, among, holds⟩ := List.any_eq_true.mp locked
          obtain ⟨place, atPlace⟩ := List.mem_iff_getElem?.mp among
          cases other with
          | joining =>
              exact stirs_of_finished atPlace (ended (viable.threads _ among))
          | _ => cases holds
      | false =>
          apply stirs_of_thread .close found rfl
          simp only [threadStep, locked, Bool.false_eq_true, if_false]
          split <;> rfl
  | joining drained before =>
      exact stirs_of_finished found (ended (viable.threads _ member))

/-- No party waits for another for ever: where nothing can move, the transport
is at rest. -/
theorem stirs_of_unrest {settings : Settings} {state : State}
    (viable : state.Viable settings) (closing : state.Closing)
    (unrest : ¬ state.Quiescent) : state.Stirs settings := by
  by_contra still
  have unlocked : state.senderLocked = false := by
    cases locked : state.senderLocked with
    | true => exact absurd (stirs_of_locked viable locked) still
    | false => rfl
  have quiet : state.worker = .idle ∨ state.worker.isOver = true := by
    by_contra busy
    rw [not_or] at busy
    apply still
    apply stirs_of_working viable _ (by simpa using busy.2)
    cases phase : state.worker with
    | idle => exact absurd phase busy.1
    | _ => rfl
  have empty : state.queue = [] := by
    by_contra queued
    rcases quiet with idle | finished
    · exact still (stirs_of_queued idle queued)
    · exact queued (closing.emptied finished)
  have uncloned : state.senderCloned = false := by
    cases cloned : state.senderCloned with
    | true => exact absurd (stirs_of_cloned closing empty quiet cloned) still
    | false => rfl
  have waiting : state.worker = .idle ∧ state.senderOpen = true ∨
      state.worker.isOver = true := by
    rcases quiet with idle | finished
    · cases opened : state.senderOpen with
      | true => exact .inl ⟨idle, rfl⟩
      | false =>
          exact absurd (stirs_of_disconnected idle empty opened uncloned) still
    · exact .inr finished
  apply unrest
  refine ⟨?_, empty, waiting⟩
  intro activity member
  by_contra called
  exact still (stirs_of_called viable unlocked uncloned waiting member called)

/-- At rest the transport waits for a call. -/
theorem Quiescent.still {settings : Settings} {state : State}
    (resting : state.Quiescent) : ¬ state.Stirs settings := by
  rintro ⟨label, moving, possible⟩
  have own := isOwn_of_moves moving
  obtain ⟨after, moved⟩ := Option.isSome_iff_exists.mp possible
  rcases step_cases moved with
    ⟨index, activity, action, rfl, found, move⟩ | ⟨action, rfl, move⟩
  · have idle := resting.returned activity (List.mem_of_getElem? found)
    subst idle
    cases move <;> cases own
  · rcases resting.waiting with ⟨idle, opened⟩ | finished
    · rw [idle] at move
      cases move with
      | receive queued | receiveFlush queued =>
          rw [resting.emptied] at queued
          cases queued
      | exit empty closed uncloned =>
          rw [opened] at closed
          cases closed
    · have running := move.ending.1
      rw [finished] at running
      cases running

/-- At rest nothing is on its way. -/
theorem Quiescent.inFlight {state : State} (resting : state.Quiescent) :
    state.inFlight = [] := by
  have threads : state.holding .handover = [] := by
    apply List.flatMap_eq_nil_iff.mpr
    intro activity member
    rw [resting.returned activity member]
    rfl
  have worker : state.holding .worker = [] := by
    rcases resting.waiting with ⟨idle, -⟩ | finished
    · change state.worker.hands = []
      rw [idle]
      rfl
    · exact hands_eq_nil_of_isOver finished
  have channel : state.holding .channel = [] := by
    change state.channel = []
    rw [State.channel, resting.emptied]
    rfl
  rw [State.inFlight, threads, worker, channel]
  rfl

theorem PersistMove.sent {settings : Settings} {parcel : Parcel}
    {action : PersistAction} {stage : PersistStage}
    {next : Option PersistStage} {state after : State}
    (move : PersistMove settings parcel state action stage next after) :
    after.sent = state.sent := by
  obtain ⟨files, names, counters, stored, dropped, spoiled, evicted, rfl⟩ :=
    move.frame
  rfl

/-- The transport sends nothing of its own. -/
theorem sent_of_step {settings : Settings} {state after : State}
    {label : Label} (own : label.isOwn = true)
    (moved : step settings state label = some after) :
    after.sent = state.sent := by
  rcases step_cases moved with
    ⟨index, activity, action, rfl, found, move⟩ | ⟨action, rfl, move⟩
  · cases move with
    | send | flush | shutdown => cases own
    | spooling persisted | spooled persisted => exact persisted.sent
    | taken | unheard | acknowledge | timeout => exact sent_endFlush _ _ _ _
    | _ => rfl
  · exact (move.custody 0 rfl).2

end State

theorem ranked (settings : Settings) (sent : Nat) :
    (machine settings).Ranked (State.moves settings)
      (fun state => (machine settings).Reachable state ∧ state.sent = sent)
      State.effort where
  kept _ _ _ known moving moved :=
    ⟨.step known.1 trivial moved,
      (State.sent_of_step (State.isOwn_of_moves moving) moved).trans known.2⟩
  lowered _ _ _ _ moving moved :=
    State.effort_lt_of_step (State.isOwn_of_moves moving) moved

/-- Left alone, in runs in which no delivery panics, the transport stops after at
most `effort` steps, in whatever order its parties move.  It stops exactly where
every call has returned and nothing is queued; then every envelope sent has been
answered off the channel or stored or dropped, or was in the channel of a worker
that could not be built. -/
theorem comes_to_rest (settings : Settings) (state : State)
    (reached : (machine settings).Reach
      (fun before label => before.panics settings label = false) state) :
    (∀ labels after,
        (machine settings).execWhere (State.moves settings) state labels =
          some after →
        labels.length ≤ state.effort ∧
          (after.Quiescent ↔ ¬ after.Stirs settings) ∧
          (after.Quiescent →
            (after.answered ++ after.stored ++ after.dropped ++
              after.vanished).Perm (List.range state.sent))) ∧
      ∃ labels after,
        (machine settings).execWhere (State.moves settings) state labels =
          some after ∧
        after.Quiescent := by
  have measured := ranked settings state.sent
  have known : (machine settings).Reachable state ∧ state.sent = state.sent :=
    ⟨reached.reachable, rfl⟩
  have stirring : ∀ state', (machine settings).Reachable state' ∧
      state'.sent = state.sent → ¬ state'.Quiescent → state'.Stirs settings :=
    fun _ known unrest =>
      State.stirs_of_unrest (viable_of_reachable known.1)
        (closing_of_reachable known.1) unrest
  constructor
  · intro labels after run
    have paid := measured.length_le known run
    have known := measured.known_of_exec known run
    refine ⟨by omega, ?_, ?_⟩
    · constructor
      · exact State.Quiescent.still
      · intro still
        by_contra unrest
        exact still (stirring after known unrest)
    · intro resting
      have places := places_perm known.1
      rw [resting.inFlight, known.2] at places
      exact places
  · exact measured.exec_to_rest stirring known

/-- One envelope on its way in, followed to where it ends up. -/
theorem comes_to_rest_sent :
    ∃ state after : State, state.effort = 18 ∧ after.Quiescent ∧
      (after.answered ++ after.stored ++ after.dropped ++ after.vanished).Perm
        [0] := by
  have run : (step (unspooled 1) oneThread
      (.thread 0 (.send sampleEnvelope))).map
        (fun state => (state.effort, state.sent)) = some (18, 1) := by decide
  obtain ⟨state, executed, seen⟩ := Option.map_eq_some_iff.mp run
  simp only [Prod.mk.injEq] at seen
  have calm : oneThread.panics (unspooled 1)
      (.thread 0 (.send sampleEnvelope)) = false := rfl
  have reached : (machine (unspooled 1)).Reach
      (fun before label => before.panics (unspooled 1) label = false) state :=
    .step (.start oneThread_starts) calm executed
  obtain ⟨along, labels, after, settles, resting⟩ :=
    comes_to_rest (unspooled 1) state reached
  have places := (along labels after settles).2.2 resting
  rw [seen.2] at places
  exact ⟨state, after, seen.1, resting, places⟩

end Transport

end Allstak
