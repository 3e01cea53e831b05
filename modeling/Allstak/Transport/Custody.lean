import Allstak.Library.Pool
import Allstak.Transport.Moves

/-!
# Where an envelope is

The places an envelope sent through the transport can be in, and the count of
its occurrences over all of them.  No step changes the count of an envelope
that was sent before it, so every envelope is in one place, once.
-/

namespace Allstak

namespace Transport

/-- The envelope a thread is handing over inside `send_envelope`.  Once the
channel has it, only the gauge is left to count. -/
def Activity.handing : Activity → List Nat
  | .locking parcel => [parcel.id]
  | .offering parcel => [parcel.id]
  | .spooling parcel _ => [parcel.id]
  | _ => []

inductive Place where
  | handover
  | channel
  | worker
  | answered
  | stored
  | dropped
  deriving DecidableEq

namespace State

def holding (state : State) : Place → List Nat
  | .handover => state.threads.flatMap Activity.handing
  | .channel => state.channel
  | .worker => state.worker.hands
  | .answered => state.answered
  | .stored => state.stored
  | .dropped => state.dropped

/-- Occurrences of the envelope over all places, the lost ones included. -/
def custody (state : State) (id : Nat) : Nat :=
  (state.holding .handover).count id + (state.holding .channel).count id +
    (state.holding .worker).count id + (state.holding .answered).count id +
    (state.holding .stored).count id + (state.holding .dropped).count id +
    state.vanished.count id

/-- The envelope is in one more place once `persist_or_drop` is done. -/
theorem PersistMove.custody {settings : Settings} {parcel : Parcel}
    {action : PersistAction} {stage : PersistStage}
    {next : Option PersistStage} {state after : State} (id : Nat)
    (move : PersistMove settings parcel state action stage next after) :
    after.custody id =
      state.custody id + if next.isNone then [parcel.id].count id else 0 := by
  cases move with
  | refused =>
      simp [State.custody, holding, drop, channel, List.count_append]
      omega
  | created => rfl
  | written => rfl
  | spoiled =>
      simp [State.custody, holding, drop, spoilFile, writeFile, channel,
        List.count_append]
      omega
  | listed => rfl
  | evicted =>
      rw [evictFile]
      split <;> rfl
  | stored =>
      simp [State.custody, holding, store, channel, List.count_append]
      omega

@[simp] theorem sent_endFlush (state : State) (index : Nat) (call : FlushCall)
    (drained : Bool) : (state.endFlush index call drained).sent = state.sent := by
  rw [endFlush]
  split <;> rfl

private theorem custody_setThread (state : State) {index : Nat} {old : Activity}
    (new : Activity) (id : Nat) (found : state.threads[index]? = some old) :
    (state.setThread index new).custody id + old.handing.count id =
      state.custody id + new.handing.count id := by
  have moved := Library.Pool.count_flatMap_set Activity.handing new id found
  simp only [custody, holding, setThread, channel] at moved ⊢
  omega

/-- A thread goes on with what it hands over. -/
theorem custody_setThread_same {state : State} {index : Nat}
    {old new : Activity} {id : Nat} (found : state.threads[index]? = some old)
    (same : new.handing = old.handing) :
    (state.setThread index new).custody id = state.custody id := by
  have moved := custody_setThread state new id found
  rw [same] at moved
  exact Nat.add_right_cancel moved

/-- Returning from a flush moves no envelope. -/
theorem custody_endFlush (state : State) {index : Nat} {old : Activity}
    (call : FlushCall) (drained : Bool) (id : Nat)
    (found : state.threads[index]? = some old) (empty : old.handing = []) :
    (state.endFlush index call drained).custody id = state.custody id := by
  rw [endFlush]
  split
  · exact custody_setThread_same found empty.symm
  · exact @custody_setThread_same (state.confirm drained call.before) index _
      .idle id found empty.symm

private theorem custody_endShutdown (state : State) {index : Nat}
    {old : Activity} (drained : Bool) (before : List Nat) (id : Nat)
    (found : state.threads[index]? = some old) (empty : old.handing = []) :
    (state.endShutdown index drained before).custody id = state.custody id :=
  @custody_setThread_same (state.confirm drained before) index _ .idle id found
    empty.symm

/-- A thread adds the envelope it begins to send; every other envelope only
moves. -/
theorem ThreadMove.custody {settings : Settings} {index : Nat}
    {activity : Activity} {action : ThreadAction} {state after : State}
    (id : Nat) (found : state.threads[index]? = some activity)
    (move : ThreadMove settings index state activity action after) :
    after.custody id + (List.range state.sent).count id =
      state.custody id + (List.range after.sent).count id := by
  cases move with
  | @send envelope =>
      have moved := Library.Pool.count_flatMap_set Activity.handing
        (.locking { id := state.sent, envelope }) id found
      simp only [State.custody, holding, setThread, channel, Activity.handing,
        List.count_nil, List.range_succ, List.count_append] at moved ⊢
      omega
  | lock | refused | flush | shutdown | clone | take | close =>
      exact congrArg (· + (List.range state.sent).count id)
        (custody_setThread_same found rfl)
  | @accepted parcel parked sender alive =>
      have moved := Library.Pool.count_flatMap_set Activity.handing
        (.counting parcel) id found
      simp only [State.custody, holding, setThread, channel, Activity.handing,
        List.filterMap_append, List.count_append, List.filterMap_cons,
        List.filterMap_nil, Message.id?, List.count_nil] at moved ⊢
      omega
  | @count parcel =>
      have moved := Library.Pool.count_flatMap_set Activity.handing .idle id found
      simp only [State.custody, holding, setThread, endSend, channel,
        Activity.handing, List.count_nil] at moved ⊢
      omega
  | @spooling parcel stage next action after persisted =>
      have kept := persisted.custody id
      obtain ⟨files, names, counters, stored, dropped, spoiled, evicted, rfl⟩ :=
        persisted.frame
      have moved := Library.Pool.count_flatMap_set Activity.handing
        (.spooling parcel next) id found
      simp only [State.custody, holding, setThread, channel, Activity.handing,
        Option.isNone_some, Bool.false_eq_true, if_false] at moved kept ⊢
      omega
  | @spooled parcel stage action after persisted =>
      have kept := persisted.custody id
      obtain ⟨files, names, counters, stored, dropped, spoiled, evicted, rfl⟩ :=
        persisted.frame
      have moved := Library.Pool.count_flatMap_set Activity.handing .idle id found
      simp only [State.custody, holding, setThread, endSend, channel,
        Activity.handing, Option.isNone_none, if_true, List.count_nil]
        at moved kept ⊢
      omega
  | @taken call sender | @unheard call gone =>
      rw [custody_endFlush state call true id found rfl, sent_endFlush]
  | @post call alive =>
      have moved := Library.Pool.count_flatMap_set Activity.handing
        (.awaiting call state.acks) id found
      simp only [State.custody, holding, setThread, channel, Activity.handing,
        List.filterMap_append, List.count_append, List.filterMap_cons,
        List.filterMap_nil, Message.id?, List.count_nil] at moved ⊢
      omega
  | @acknowledge call ack acking =>
      have emptied : ({ state with worker := Phase.idle } : State).custody id =
          state.custody id := by
        simp only [State.custody, holding, channel, acking, Phase.hands]
      rw [custody_endFlush { state with worker := .idle } call true id found rfl,
        sent_endFlush, emptied]
  | @timeout call ack =>
      rw [custody_endFlush state call false id found rfl, sent_endFlush]
  | @closed drained before free taken | @join drained before finished =>
      rw [custody_endShutdown state drained before id found rfl]
      rfl

/-- A panic loses what the worker holds and what waits in the channel. -/
theorem custody_die (state : State) (id : Nat) :
    state.die.custody id = state.custody id := by
  simp only [State.custody, holding, die, channel, Phase.hands,
    List.filterMap_nil, List.count_nil, List.count_append]
  omega

/-- The worker sends nothing, and moves what it takes off the channel. -/
theorem WorkerMove.custody {settings : Settings} {phase : Phase}
    {action : WorkerAction} {state after : State} (id : Nat)
    (current : state.worker = phase)
    (move : WorkerMove settings state phase action after) :
    after.custody id = state.custody id ∧ after.sent = state.sent := by
  cases move with
  | built possible =>
      refine ⟨?_, rfl⟩
      rcases possible with rfl | rfl <;>
        simp only [State.custody, holding, channel, current, Phase.hands]
  | unbuilt => exact ⟨custody_die state id, rfl⟩
  | replayPanicked => exact ⟨custody_die state id, rfl⟩
  | deliverPanicked => exact ⟨custody_die state id, rfl⟩
  | remove =>
      unfold unlinkReplayed
      refine ⟨?_, by split <;> [split; skip] <;> rfl⟩
      split <;> [split; skip] <;>
        simp only [State.custody, holding, channel, current, Phase.hands]
  | @receive parcel rest queued =>
      refine ⟨?_, rfl⟩
      have taken : (parcel.id :: rest.filterMap Message.id?).count id =
          [parcel.id].count id + (rest.filterMap Message.id?).count id := by
        rw [← List.count_append, List.singleton_append]
      simp only [State.custody, holding, channel, current, queued, Phase.hands,
        List.filterMap_cons, Message.id?, List.count_nil]
      omega
  | @receiveFlush ack rest queued =>
      refine ⟨?_, rfl⟩
      simp only [State.custody, holding, channel, current, queued, Phase.hands,
        List.filterMap_cons, Message.id?]
  | @answered parcel checkedAt exchanges delivery delivered outcome
  | @failed parcel checkedAt exchanges delivery delivered outcome =>
      refine ⟨?_, rfl⟩
      simp only [State.custody, holding, channel, State.delivered, current,
        Phase.hands, List.count_append, List.count_nil]
      omega
  | @persisting parcel stage next action after persisted =>
      have kept := persisted.custody id
      obtain ⟨files, names, counters, stored, dropped, spoiled, evicted, rfl⟩ :=
        persisted.frame
      refine ⟨?_, rfl⟩
      simp only [State.custody, holding, channel, current, Phase.hands,
        Option.isNone_some, Bool.false_eq_true, if_false] at kept ⊢
      omega
  | @persisted parcel stage action after persisted =>
      have kept := persisted.custody id
      obtain ⟨files, names, counters, stored, dropped, spoiled, evicted, rfl⟩ :=
        persisted.frame
      refine ⟨?_, rfl⟩
      simp only [State.custody, holding, channel, current, Phase.hands,
        Option.isNone_none, if_true, List.count_nil] at kept ⊢
      omega
  | _ =>
      refine ⟨?_, rfl⟩
      simp only [State.custody, holding, channel, State.delivered, current,
        Phase.hands]

end State

end Transport

end Allstak
