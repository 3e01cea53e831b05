import Allstak.Transport.Custody

/-!
# Where an envelope's record is

The ledger counts the envelopes the transport answers for, those found in the
spool included, over everything that can stand for one of them: the parties'
hands, the channel, the files of the spool and the records of what left them.
From the moment its file is created an envelope is represented by the file.
-/

namespace Allstak

namespace Transport

/-- Before its file exists, the envelope itself. -/
def PersistStage.carrying (parcel : Parcel) : PersistStage → List Item
  | .start => [.sent parcel.id]
  | _ => []

def Activity.carrying : Activity → List Item
  | .locking parcel => [.sent parcel.id]
  | .offering parcel => [.sent parcel.id]
  | .spooling parcel stage => stage.carrying parcel
  | _ => []

def Phase.carrying : Phase → List Item
  | .received parcel => [.sent parcel.id]
  | .delivering parcel => [.sent parcel.id]
  | .persisting parcel stage => stage.carrying parcel
  | _ => []

namespace State

/-- Occurrences of the envelope in the ledger. -/
def ledger (state : State) (item : Item) : Nat :=
  (state.threads.flatMap Activity.carrying).count item +
    (state.channel.map Item.sent).count item +
    state.worker.carrying.count item +
    (state.answered.map Item.sent).count item +
    (state.dropped.map Item.sent).count item +
    (state.files.map File.item).count item +
    state.evicted.count item + state.replayed.count item +
    state.discarded.count item + (state.vanished.map Item.sent).count item

/-- Every envelope sent or found is due once; a write that fails leaves a file
beside the drop it counts. -/
def due (state : State) (item : Item) : Nat :=
  ((List.range state.sent).map Item.sent).count item +
    ((List.range state.found).map Item.found).count item +
    (state.spoiled.map Item.sent).count item

theorem count_removeFile (directory : List File) (path : String) (item : Item) :
    ((removeFile directory path).map File.item).count item +
        ((directory.filter fun file => file.name = path).map
          File.item).count item =
      (directory.map File.item).count item := by
  induction directory with
  | nil => rfl
  | cons file files induction =>
      unfold removeFile at induction ⊢
      by_cases named : file.name = path
      · simp only [List.filter_cons, named, ne_eq, not_true_eq_false,
          decide_false, Bool.false_eq_true, if_false, decide_true, if_true,
          List.map_cons, List.count_cons] at induction ⊢
        omega
      · simp only [List.filter_cons, named, ne_eq, not_false_eq_true,
          decide_true, if_true, decide_false, Bool.false_eq_true, if_false,
          List.map_cons, List.count_cons] at induction ⊢
        omega

theorem items_updateFile (directory : List File) (path : String)
    (update : File → File) (kept : ∀ file, (update file).item = file.item) :
    (updateFile directory path update).map File.item =
      directory.map File.item := by
  rw [updateFile]
  rw [List.map_map]
  apply List.map_congr_left
  intro file _
  simp only [Function.comp_apply]
  split <;> simp [kept]

theorem PersistMove.ledger {settings : Settings} {parcel : Parcel}
    {action : PersistAction} {stage : PersistStage}
    {next : Option PersistStage} {state after : State} (item : Item)
    (move : PersistMove settings parcel state action stage next after) :
    after.ledger item + state.due item =
      state.ledger item + after.due item +
        (stage.carrying parcel).count item := by
  cases move with
  | refused =>
      simp only [State.ledger, due, drop, channel, PersistStage.carrying,
        List.map_append, List.map_cons, List.map_nil, List.count_append]
      omega
  | created =>
      simp only [State.ledger, due, createFile, channel, PersistStage.carrying,
        List.map_append, List.map_cons, List.map_nil, List.count_append]
      omega
  | @written path content =>
      have items := items_updateFile state.files path
        (fun file => { file with content }) fun _ => rfl
      simp only [State.ledger, due, writeFile, channel, PersistStage.carrying,
        items, List.count_nil]
      omega
  | @spoiled path content length =>
      have items := items_updateFile state.files path
        (fun file => { file with content := content.take length }) fun _ => rfl
      simp only [State.ledger, due, spoilFile, writeFile, drop, channel,
        PersistStage.carrying, items, List.map_append, List.map_cons,
        List.map_nil, List.count_append, List.count_nil]
      omega
  | listed =>
      simp only [PersistStage.carrying, List.count_nil]
      omega
  | @evicted path paths removed =>
      have counted := count_removeFile state.files path item
      rw [evictFile]
      split
      · simp only [State.ledger, due, channel, itemsAt, PersistStage.carrying,
          List.count_append, List.count_nil]
        omega
      · simp only [PersistStage.carrying, List.count_nil]
        omega
  | stored =>
      simp only [State.ledger, due, store, channel, PersistStage.carrying,
        List.count_nil]
      omega

/-- Once begun, `persist_or_drop` never returns to its start. -/
theorem PersistMove.carrying_next {settings : Settings} {parcel : Parcel}
    {action : PersistAction} {stage next : PersistStage} {state after : State}
    (move : PersistMove settings parcel state action stage (some next) after) :
    next.carrying parcel = [] := by
  cases move <;> rfl

private theorem ledger_setThread (state : State) {index : Nat} {old : Activity}
    (new : Activity) (item : Item) (found : state.threads[index]? = some old) :
    (state.setThread index new).ledger item + old.carrying.count item =
      state.ledger item + new.carrying.count item := by
  have moved := Library.Pool.count_flatMap_set Activity.carrying new item found
  simp only [ledger, setThread, channel] at moved ⊢
  omega

/-- A thread goes on with what it carries. -/
theorem ledger_setThread_same {state : State} {index : Nat}
    {old new : Activity} {item : Item}
    (found : state.threads[index]? = some old)
    (same : new.carrying = old.carrying) :
    (state.setThread index new).ledger item = state.ledger item := by
  have moved := ledger_setThread state new item found
  rw [same] at moved
  exact Nat.add_right_cancel moved

/-- Returning from a flush moves no envelope. -/
theorem ledger_endFlush (state : State) {index : Nat} {old : Activity}
    (call : FlushCall) (drained : Bool) (item : Item)
    (found : state.threads[index]? = some old) (empty : old.carrying = []) :
    (state.endFlush index call drained).ledger item = state.ledger item := by
  rw [endFlush]
  split
  · exact ledger_setThread_same found empty.symm
  · exact @ledger_setThread_same (state.confirm drained call.before) index _
      .idle item found empty.symm

private theorem ledger_endShutdown (state : State) {index : Nat}
    {old : Activity} (drained : Bool) (before : List Nat) (item : Item)
    (found : state.threads[index]? = some old) (empty : old.carrying = []) :
    (state.endShutdown index drained before).ledger item = state.ledger item :=
  @ledger_setThread_same (state.confirm drained before) index _ .idle item
    found empty.symm

@[simp] theorem due_endFlush (state : State) (index : Nat) (call : FlushCall)
    (drained : Bool) (item : Item) :
    (state.endFlush index call drained).due item = state.due item := by
  rw [endFlush]
  split <;> rfl

theorem ThreadMove.ledger {settings : Settings} {index : Nat}
    {activity : Activity} {action : ThreadAction} {state after : State}
    (item : Item) (found : state.threads[index]? = some activity)
    (move : ThreadMove settings index state activity action after) :
    after.ledger item + state.due item = state.ledger item + after.due item := by
  cases move with
  | @send envelope =>
      have moved := Library.Pool.count_flatMap_set Activity.carrying
        (.locking { id := state.sent, envelope }) item found
      simp only [State.ledger, due, setThread, channel, Activity.carrying,
        List.count_nil, List.range_succ, List.map_append, List.map_cons,
        List.map_nil, List.count_append] at moved ⊢
      omega
  | lock | refused | flush | shutdown | clone | take | close =>
      exact congrArg (· + state.due item) (ledger_setThread_same found rfl)
  | @accepted parcel parked sender alive =>
      have moved := Library.Pool.count_flatMap_set Activity.carrying
        (.counting parcel) item found
      simp only [State.ledger, due, setThread, channel, Activity.carrying,
        List.filterMap_append, List.map_append, List.count_append,
        List.filterMap_cons, List.filterMap_nil, Message.id?, List.map_cons,
        List.map_nil, List.count_nil] at moved ⊢
      omega
  | @count parcel =>
      have moved := Library.Pool.count_flatMap_set Activity.carrying .idle item
        found
      simp only [State.ledger, due, setThread, endSend, channel,
        Activity.carrying, List.count_nil] at moved ⊢
      omega
  | @spooling parcel stage next action middle persisted =>
      have kept := persisted.ledger item
      have filed := persisted.carrying_next
      have middleFound : middle.threads[index]? = some (.spooling parcel stage) := by
        rw [persisted.parties.1, found]
      have moved := ledger_setThread middle (.spooling parcel next) item middleFound
      simp only [Activity.carrying, filed, List.count_nil] at moved
      change _ + state.due item = state.ledger item + middle.due item
      omega
  | @spooled parcel stage action middle persisted =>
      have kept := persisted.ledger item
      have middleFound : middle.threads[index]? = some (.spooling parcel stage) := by
        rw [persisted.parties.1, found]
      have moved := ledger_setThread
        { middle with returned := middle.returned ++ [parcel.id] } .idle item
        middleFound
      have same :
          ({ middle with returned := middle.returned ++ [parcel.id] } :
            State).ledger item = middle.ledger item := rfl
      simp only [Activity.carrying, List.count_nil, same] at moved
      change (setThread _ index .idle).ledger item + state.due item =
        state.ledger item + middle.due item
      omega
  | @taken call sender | @unheard call gone =>
      rw [ledger_endFlush state call true item found rfl, due_endFlush]
  | @post call alive =>
      have moved := Library.Pool.count_flatMap_set Activity.carrying
        (.awaiting call state.acks) item found
      simp only [State.ledger, due, setThread, channel, Activity.carrying,
        List.filterMap_append, List.map_append, List.count_append,
        List.filterMap_cons, List.filterMap_nil, Message.id?, List.map_nil,
        List.count_nil] at moved ⊢
      omega
  | @acknowledge call ack acking =>
      have emptied : ({ state with worker := Phase.idle } : State).ledger item =
          state.ledger item := by
        simp only [State.ledger, channel, acking, Phase.carrying]
      rw [ledger_endFlush { state with worker := .idle } call true item found rfl,
        due_endFlush, emptied]
      rfl
  | @timeout call ack =>
      rw [ledger_endFlush state call false item found rfl, due_endFlush]
  | @closed drained before free taken | @join drained before finished =>
      rw [ledger_endShutdown state drained before item found rfl]
      rfl

private theorem ledger_die {state : State} (item : Item)
    (carried : state.worker.carrying = state.worker.hands.map Item.sent) :
    state.die.ledger item = state.ledger item := by
  have gone : Phase.carrying .gone = [] := rfl
  simp only [State.ledger, die, channel, gone, carried, List.filterMap_nil,
    List.map_nil, List.count_nil, List.map_append, List.count_append]
  omega

theorem WorkerMove.ledger {settings : Settings} {phase : Phase}
    {action : WorkerAction} {state after : State} (item : Item)
    (current : state.worker = phase)
    (move : WorkerMove settings state phase action after) :
    after.ledger item + state.due item = state.ledger item + after.due item := by
  cases move with
  | built possible =>
      rcases possible with rfl | rfl <;>
        simp only [State.ledger, due, channel, current, Phase.carrying]
  | unbuilt | replayPanicked | deliverPanicked =>
      have kept := ledger_die item (current ▸ rfl :
        state.worker.carrying = state.worker.hands.map Item.sent)
      exact congrArg (· + state.due item) kept
  | @remove path paths fate removed =>
      have counted := count_removeFile state.files path item
      unfold unlinkReplayed
      split
      · split <;>
          simp only [State.ledger, due, channel, itemsAt, current,
            Phase.carrying, List.count_append] <;> omega
      · simp only [State.ledger, due, channel, current, Phase.carrying]
  | @receive parcel rest queued =>
      have taken :
          (Item.sent parcel.id ::
              (rest.filterMap Message.id?).map Item.sent).count item =
            [Item.sent parcel.id].count item +
              ((rest.filterMap Message.id?).map Item.sent).count item := by
        rw [← List.count_append, List.singleton_append]
      simp only [State.ledger, due, channel, current, queued, Phase.carrying,
        List.filterMap_cons, Message.id?, List.map_cons, List.count_nil]
      omega
  | @receiveFlush ack rest queued =>
      simp only [State.ledger, due, channel, current, queued, Phase.carrying,
        List.filterMap_cons, Message.id?]
  | @answered parcel checkedAt exchanges delivery delivered outcome
  | @failed parcel checkedAt exchanges delivery delivered outcome =>
      simp only [State.ledger, due, channel, State.delivered, current,
        Phase.carrying, List.map_append, List.map_cons, List.map_nil,
        List.count_append, List.count_nil]
      omega
  | @persisting parcel stage next action middle persisted =>
      have kept := persisted.ledger item
      have filed := persisted.carrying_next
      have same := persisted.parties.2
      simp only [State.ledger, due, channel, same, current, Phase.carrying, filed,
        List.count_nil] at kept ⊢
      omega
  | @persisted parcel stage action middle persisted =>
      have kept := persisted.ledger item
      have same := persisted.parties.2
      simp only [State.ledger, due, channel, same, current, Phase.carrying,
        List.count_nil] at kept ⊢
      omega
  | _ =>
      simp only [State.ledger, due, channel, State.delivered, current,
        Phase.carrying, PersistStage.carrying]

end State

end Transport

end Allstak
