import Allstak.Transport.Closing
import Allstak.Transport.Ledger

/-!
# Conservation of envelopes

Every envelope given to `send_envelope` is in exactly one place, in every state
of every run with a living worker.  An envelope the spool accepted has left the
transport's hands: its file stays until the limits, or the replay of a worker
that listed it, remove it.
-/

namespace Allstak

namespace Transport

namespace State

/-- What became of the files of the spool: still there, removed by the limits,
or removed by a replay. -/
def spoolRecord (state : State) : List Item :=
  state.files.map File.item ++ state.evicted ++ state.replayed ++ state.discarded

/-- What every state keeps, besides the two counts. -/
structure Recorded (state : State) : Prop where
  fifo : state.worker.isGone = false →
    state.enqueued = state.dequeued ++ state.channel
  present : state.worker.isGone = false → state.vanished = []
  spoiled : ∀ id, state.spoiled.count id ≤ state.dropped.count id
  counted : state.counters.eventsDropped =
    state.dropped.length + state.replayDrops

theorem PersistMove.recorded {settings : Settings} {parcel : Parcel}
    {action : PersistAction} {stage : PersistStage}
    {next : Option PersistStage} {state after : State}
    (move : PersistMove settings parcel state action stage next after)
    (recorded : state.Recorded) : after.Recorded := by
  obtain ⟨fifo, present, spoiled, counted⟩ := recorded
  cases move with
  | refused =>
      refine ⟨fifo, present, fun id => ?_, ?_⟩
      · have earlier := spoiled id
        simp only [drop, List.count_append]
        omega
      · simp only [drop, TransportCounters.dropped, List.length_append,
          List.length_singleton, counted]
        omega
  | spoiled =>
      refine ⟨fifo, present, fun id => ?_, ?_⟩
      · have earlier := spoiled id
        simp only [drop, spoilFile, writeFile, List.count_append]
        omega
      · simp only [drop, spoilFile, writeFile, TransportCounters.dropped,
          List.length_append, List.length_singleton, counted]
        omega
  | evicted =>
      rw [evictFile]
      split <;> exact ⟨fifo, present, spoiled, counted⟩
  | _ => exact ⟨fifo, present, spoiled, counted⟩

theorem ThreadMove.recorded {settings : Settings} {index : Nat}
    {activity : Activity} {action : ThreadAction} {state after : State}
    (move : ThreadMove settings index state activity action after)
    (recorded : state.Recorded) : after.Recorded := by
  obtain ⟨fifo, present, spoiled, counted⟩ := recorded
  cases move with
  | @accepted parcel parked sender alive =>
      refine ⟨fun _ => ?_, present, spoiled, counted⟩
      simp only [setThread, channel, fifo alive, List.filterMap_append,
        List.filterMap_cons, List.filterMap_nil, Message.id?, List.append_assoc]
  | post alive =>
      refine ⟨fun _ => ?_, present, spoiled, counted⟩
      simp only [setThread, channel, fifo alive, List.filterMap_append,
        List.filterMap_cons, List.filterMap_nil, Message.id?, List.append_nil]
  | spooling persisted | spooled persisted =>
      have kept := persisted.recorded ⟨fifo, present, spoiled, counted⟩
      exact ⟨kept.fifo, kept.present, kept.spoiled, kept.counted⟩
  | taken sender | unheard gone | timeout =>
      rw [endFlush_eq]
      exact ⟨fifo, present, spoiled, counted⟩
  | acknowledge acking =>
      rw [endFlush_eq]
      have alive : state.worker.isGone = false := by
        rw [acking]
        rfl
      exact ⟨fun _ => fifo alive, fun _ => present alive, spoiled, counted⟩
  | _ => exact ⟨fifo, present, spoiled, counted⟩

/-- A delivery that panics has counted no drop. -/
theorem perish_eventsDropped (state : State) (codec : Codec)
    (envelope : Envelope) (exchanges : Nat → Exchange) :
    (state.perish codec envelope exchanges).counters.eventsDropped =
      state.counters.eventsDropped :=
  deliverCutShort_untouched (fun _ => rfl)
    TransportCounters.prepared_eventsDropped codec envelope state.counters
    exchanges

theorem WorkerMove.recorded {settings : Settings} {phase : Phase}
    {action : WorkerAction} {state after : State}
    (current : state.worker = phase)
    (move : WorkerMove settings state phase action after)
    (recorded : state.Recorded) : after.Recorded := by
  obtain ⟨fifo, present, spoiled, counted⟩ := recorded
  have running : state.worker.isGone = false := current ▸ move.alive
  have ordered := fifo running
  have whole := present running
  cases move with
  | unbuilt => exact ⟨fun alive => Bool.noConfusion alive,
      fun alive => Bool.noConfusion alive, spoiled, counted⟩
  | replayPanicked | deliverPanicked =>
      exact ⟨fun alive => Bool.noConfusion alive,
        fun alive => Bool.noConfusion alive, spoiled,
        (perish_eventsDropped ..).trans counted⟩
  | unreadable =>
      refine ⟨fun _ => ordered, fun _ => whole, spoiled, ?_⟩
      simp only [TransportCounters.dropped, counted]
      omega
  | @replayed path paths envelope checkedAt exchanges delivery delivered outcome =>
      have dropped := deliver_eventsDropped delivered
      simp only [outcome, reduceCtorEq, if_false, counted] at dropped
      exact ⟨fun _ => ordered, fun _ => whole, spoiled, dropped⟩
  | @replayFailed path paths envelope checkedAt exchanges delivery delivered
      outcome =>
      have dropped := deliver_eventsDropped delivered
      simp only [outcome, if_true, counted] at dropped
      refine ⟨fun _ => ordered, fun _ => whole, spoiled, ?_⟩
      simp only [TransportCounters.dropped, State.delivered, dropped]
      omega
  | @replayStopped path paths envelope checkedAt exchanges delivery delivered
      outcome =>
      have dropped := deliver_eventsDropped delivered
      simp only [outcome, reduceCtorEq, if_false, counted] at dropped
      exact ⟨fun _ => ordered, fun _ => whole, spoiled, dropped⟩
  | remove =>
      unfold unlinkReplayed
      split <;> [split; skip] <;> exact ⟨fun _ => ordered, fun _ => whole, spoiled, counted⟩
  | @receive parcel rest queued =>
      refine ⟨fun _ => ?_, fun _ => whole, spoiled, counted⟩
      simp only [channel, queued, List.filterMap_cons, Message.id?] at ordered ⊢
      rw [ordered, List.append_assoc, List.singleton_append]
  | @receiveFlush ack rest queued =>
      refine ⟨fun _ => ?_, fun _ => whole, spoiled, counted⟩
      simp only [channel, queued, List.filterMap_cons, Message.id?] at ordered ⊢
      exact ordered
  | @answered parcel checkedAt exchanges delivery delivered outcome =>
      have dropped := deliver_eventsDropped delivered
      simp only [outcome, reduceCtorEq, if_false, counted] at dropped
      exact ⟨fun _ => ordered, fun _ => whole, spoiled, dropped⟩
  | @failed parcel checkedAt exchanges delivery delivered outcome =>
      have dropped := deliver_eventsDropped delivered
      simp only [outcome, if_true, counted] at dropped
      refine ⟨fun _ => ordered, fun _ => whole, fun id => ?_, ?_⟩
      · have earlier := spoiled id
        simp only [State.delivered, List.count_append]
        omega
      · simp only [State.delivered, dropped, List.length_append,
          List.length_singleton]
        omega
  | @undelivered parcel checkedAt exchanges delivery delivered outcome =>
      have dropped := deliver_eventsDropped delivered
      simp only [outcome, reduceCtorEq, if_false, counted] at dropped
      exact ⟨fun _ => ordered, fun _ => whole, spoiled, dropped⟩
  | persisting persisted =>
      have kept := persisted.recorded ⟨fifo, present, spoiled, counted⟩
      have alive := persisted.parties.2 ▸ running
      exact ⟨fun _ => kept.fifo alive, fun _ => kept.present alive, kept.spoiled,
        kept.counted⟩
  | persisted persisted =>
      have kept := persisted.recorded ⟨fifo, present, spoiled, counted⟩
      have alive := persisted.parties.2 ▸ running
      exact ⟨fun _ => kept.fifo alive, fun _ => kept.present alive, kept.spoiled,
        kept.counted⟩
  | _ => exact ⟨fun _ => ordered, fun _ => whole, spoiled, counted⟩

end State

section

variable {settings : Settings} {state : State}

theorem custody_eq (reached : (machine settings).Reachable state) (id : Nat) :
    state.custody id = (List.range state.sent).count id := by
  refine reached.induct
    (motive := fun state =>
      state.custody id = (List.range state.sent).count id) ?_ ?_
  · rintro state ⟨calls, directory, spawned, -, -, rfl⟩
    have idle : (List.replicate calls Activity.idle).flatMap
        Activity.handing = [] := Library.Pool.flatMap_replicate calls rfl
    cases spawned <;>
      simp [State.custody, State.holding, State.channel, Phase.hands, idle]
  · intro before label after kept _ moved
    rcases step_cases moved with
      ⟨index, activity, action, rfl, found, move⟩ | ⟨action, rfl, move⟩
    · have conserved := move.custody id found
      omega
    · obtain ⟨conserved, sent⟩ := move.custody id rfl
      rw [conserved, sent, kept]

theorem ledger_eq (reached : (machine settings).Reachable state) (item : Item) :
    state.ledger item = state.due item := by
  refine reached.induct
    (motive := fun state => state.ledger item = state.due item) ?_ ?_
  · rintro state ⟨calls, directory, spawned, -, items, rfl⟩
    have idle : (List.replicate calls Activity.idle).flatMap
        Activity.carrying = [] := Library.Pool.flatMap_replicate calls rfl
    cases spawned <;>
      simp [State.ledger, State.due, State.channel, Phase.carrying, idle, items]
  · intro before label after kept _ moved
    rcases step_cases moved with
      ⟨index, activity, action, rfl, found, move⟩ | ⟨action, rfl, move⟩
    · have conserved := move.ledger item found
      omega
    · have conserved := move.ledger item rfl
      omega

theorem recorded_of_reachable (reached : (machine settings).Reachable state) :
    state.Recorded := by
  apply reached.induct
  · rintro state ⟨calls, directory, spawned, -, -, rfl⟩
    exact ⟨fun _ => rfl, fun _ => rfl, fun _ => Nat.le_refl 0, rfl⟩
  · intro before label after recorded _ moved
    rcases step_cases moved with
      ⟨index, activity, action, rfl, found, move⟩ | ⟨action, rfl, move⟩
    · exact move.recorded recorded
    · exact move.recorded rfl recorded

private theorem count_range_of_lt {bound id : Nat} (small : id < bound) :
    (List.range bound).count id = 1 :=
  List.count_eq_one_of_mem List.nodup_range (List.mem_range.mpr small)

/-- Counts that sum to one are one at a single place. -/
theorem exists_place_of_sum (counts : Place → Nat)
    (total : counts .handover + counts .channel + counts .worker +
      counts .answered + counts .stored + counts .dropped = 1) :
    ∃ place, counts place = 1 ∧
      ∀ other, other ≠ place → counts other = 0 := by
  have single : counts .handover = 1 ∨ counts .channel = 1 ∨ counts .worker = 1 ∨
      counts .answered = 1 ∨ counts .stored = 1 ∨ counts .dropped = 1 := by
    omega
  rcases single with one | one | one | one | one | one
  all_goals
    refine ⟨_, one, fun other different => ?_⟩
    cases other <;> first | omega | exact absurd rfl different

theorem custody_place (reached : (machine settings).Reachable state)
    (alive : state.worker.isGone = false) {id : Nat} (sent : id < state.sent) :
    ∃ place, (state.holding place).count id = 1 ∧
      ∀ other, other ≠ place → id ∉ state.holding other := by
  have total := custody_eq reached id
  rw [count_range_of_lt sent, State.custody,
    (recorded_of_reachable reached).present alive] at total
  obtain ⟨place, one, none⟩ := exists_place_of_sum
    (fun place => (state.holding place).count id) total
  exact ⟨place, one, fun other different =>
    List.count_eq_zero.mp (none other different)⟩

/-- What a party carries for the ledger it holds in its hands. -/
theorem carrying_le_handing (threads : List Activity) (id : Nat) :
    (threads.flatMap Activity.carrying).count (.sent id) ≤
      (threads.flatMap Activity.handing).count id := by
  induction threads with
  | nil => exact Nat.le_refl 0
  | cons activity threads induction =>
      have one : activity.carrying.count (.sent id) ≤ activity.handing.count id := by
        cases activity with
        | spooling parcel stage =>
            cases stage <;>
              simp [Activity.carrying, PersistStage.carrying, Activity.handing,
                List.count_singleton]
        | _ =>
            simp [Activity.carrying, Activity.handing, List.count_singleton]
      simp only [List.flatMap_cons, List.count_append]
      omega

private theorem Phase.carrying_le_hands (phase : Phase) (id : Nat) :
    phase.carrying.count (.sent id) ≤ phase.hands.count id := by
  cases phase with
  | persisting parcel stage =>
      cases stage <;>
        simp [Phase.carrying, PersistStage.carrying, Phase.hands,
          List.count_singleton]
  | _ => simp [Phase.carrying, Phase.hands, List.count_singleton]

private theorem count_map_sent (ids : List Nat) (id : Nat) :
    (ids.map Item.sent).count (.sent id) = ids.count id :=
  List.count_map_of_injective ids Item.sent (fun _ _ => Item.sent.inj) id

/-- An envelope the spool accepted is recorded once, in a file of the spool or
among the files that were removed. -/
theorem spoolRecord_of_stored (reached : (machine settings).Reachable state)
    {id : Nat} (stored : id ∈ state.stored) :
    state.spoolRecord.count (.sent id) = 1 := by
  have kept : 0 < state.stored.count id := List.count_pos_iff.mpr stored
  have custody := custody_eq reached id
  have small : id < state.sent := by
    refine List.mem_range.mp (List.count_pos_iff.mp ?_)
    rw [← custody]
    simp only [State.custody, State.holding]
    omega
  have ledger := ledger_eq reached (.sent id)
  have handing := carrying_le_handing state.threads id
  have hands := Phase.carrying_le_hands state.worker id
  have spoiled := (recorded_of_reachable reached).spoiled id
  have unfound : ((List.range state.found).map Item.found).count (.sent id) = 0 := by
    apply List.count_eq_zero.mpr
    intro member
    obtain ⟨index, -, same⟩ := List.mem_map.mp member
    cases same
  simp only [State.custody, State.holding, count_range_of_lt small] at custody
  simp only [State.ledger, State.due, count_map_sent, unfound,
    count_range_of_lt small] at ledger
  simp only [State.spoolRecord, List.count_append]
  omega

/-- Unless the limits removed its file, the file of an accepted envelope is there
or was removed by a replay. -/
theorem spooled_of_stored (reached : (machine settings).Reachable state)
    {id : Nat} (stored : id ∈ state.stored)
    (unevicted : .sent id ∉ state.evicted) :
    (state.files.map File.item ++ state.replayed ++
      state.discarded).count (.sent id) = 1 := by
  have recorded := spoolRecord_of_stored reached stored
  have none := List.count_eq_zero.mpr unevicted
  simp only [State.spoolRecord, List.count_append] at recorded ⊢
  omega

/-- Conservation, with the order of the channel, the count of drops, the end of
a shutdown and the whereabouts of stored envelopes. -/
theorem envelope_conservation (settings : Settings) (state : State)
    (reached : (machine settings).Reachable state)
    (alive : state.worker.isGone = false) :
    (∀ id < state.sent, ∃ place, (state.holding place).count id = 1 ∧
        ∀ other, other ≠ place → id ∉ state.holding other) ∧
      state.counters.eventsDropped = state.dropped.length + state.replayDrops ∧
      state.enqueued = state.dequeued ++ state.channel ∧
      (state.handle = false → state.handleLocked = false →
        state.channel = []) ∧
      ∀ id ∈ state.stored, .sent id ∉ state.evicted →
        (state.files.map File.item ++ state.replayed ++
          state.discarded).count (.sent id) = 1 := by
  have recorded := recorded_of_reachable reached
  have closing := closing_of_reachable reached
  refine ⟨fun id sent => custody_place reached alive sent, recorded.counted,
    recorded.fifo alive, ?_, fun id => spooled_of_stored reached⟩
  intro taken unlocked
  rcases closing.joined taken with locked | finished
  · rw [unlocked] at locked
    cases locked
  · rw [State.channel, closing.emptied finished]
    rfl

end

def sampleEnvelope : Envelope :=
  { path := "/ingest/v1/logs", category := .log, body := .null }

def asciiBytes (text : String) : Bytes :=
  text.toList.map fun character => UInt8.ofNat character.toNat

def sampleFile : Bytes :=
  asciiBytes
    "\x7b\"path\":\"/ingest/v1/logs\",\"category\":\"log\",\"body\":null\x7d"

/-- The JSON library on the sample envelope. -/
def sampleCodec : Codec where
  toVec
    | .null => some (asciiBytes "null")
    | _ => none
  gzip _ := none
  persistedToVec
    | { path := "/ingest/v1/logs", category := "log", body := .null } =>
        some sampleFile
    | _ => none
  persistedFromSlice bytes :=
    if bytes = sampleFile then some sampleEnvelope.persisted else none

/-- A rendezvous channel and a spool with these limits. -/
def rendezvous (maxEvents maxBytes : Nat) : Settings :=
  { codec := sampleCodec
    spool := some (.fromOptions maxEvents maxBytes)
    transportQueueSize := 0 }

def sampleInstant : Instant := { nanos := 0, representable := by decide }

/-- Every attempt is answered with this status. -/
def answering (status : Nat) : Nat → Exchange := fun _ =>
  { startedAt := sampleInstant
    response := some { status }
    handledAt := sampleInstant }

def oneThread : State := { threads := [.idle] }

theorem oneThread_starts : Starts oneThread :=
  ⟨1, [], true, List.nodup_nil, rfl, rfl⟩

/-- The worker is still starting, so the envelope overflows into the spool. -/
def overflow : List Label :=
  [.thread 0 (.send sampleEnvelope), .thread 0 .lock, .thread 0 (.offer false),
    .thread 0 (.spool (.begin true (some (1700000000000, 7)))),
    .thread 0 (.spool (.write none)), .thread 0 (.spool .list)]

/-- The envelopes whose files the worker is sending again. -/
def State.inReplay (state : State) : List Item :=
  match state.worker with
  | .replaying path _ _ => state.itemsAt path
  | _ => []

/-- The statuses the server answered. -/
def State.answers (state : State) : List (Option Nat) :=
  state.posts.map fun post => post.exchange.response.map Response.status

/-- The starting worker takes the stored envelope into its hands, and when it was
answered 2xx its file is still stored. -/
theorem stored_in_two_places :
    (∃ state, (machine (rendezvous 10 1000)).Reachable state ∧
        state.worker.isGone = false ∧ 0 ∈ state.stored ∧
        .sent 0 ∈ state.files.map File.item ∧ .sent 0 ∈ state.inReplay) ∧
      ∃ state, (machine (rendezvous 10 1000)).Reachable state ∧
        state.worker.isGone = false ∧ 0 ∈ state.stored ∧
        .sent 0 ∈ state.files.map File.item ∧
        state.answers = [some 200] := by
  constructor
  · have run :
        ((machine (rendezvous 10 1000)).exec oneThread
          (overflow ++
            [.thread 0 (.spool .finish), .worker (.build true), .worker .list,
              .worker .load])).map
            (fun state =>
              (state.worker.isGone, state.stored, state.files.map File.item,
                state.inReplay)) =
          some (false, [0], [.sent 0], [.sent 0]) := by decide
    obtain ⟨state, executed, seen⟩ := Option.map_eq_some_iff.mp run
    simp only [Prod.mk.injEq] at seen
    obtain ⟨alive, stored, files, replay⟩ := seen
    exact ⟨state, Library.Machine.reachable_of_exec oneThread_starts executed,
      alive, by simp [stored], by simp [files], by simp [replay]⟩
  · have run :
        ((machine (rendezvous 10 1000)).exec oneThread
          (overflow ++
            [.thread 0 (.spool .finish), .worker (.build true), .worker .list,
              .worker .load,
              .worker (.replay sampleInstant (answering 200))])).map
            (fun state =>
              (state.worker.isGone, state.stored, state.files.map File.item,
                state.answers)) =
          some (false, [0], [.sent 0], [some 200]) := by decide +kernel
    obtain ⟨state, executed, seen⟩ := Option.map_eq_some_iff.mp run
    simp only [Prod.mk.injEq] at seen
    obtain ⟨alive, stored, files, answers⟩ := seen
    exact ⟨state, Library.Machine.reachable_of_exec oneThread_starts executed,
      alive, by simp [stored], by simp [files], answers⟩

/-- The conservation of a run in which the spool keeps the envelope. -/
theorem envelope_conservation_overflow :
    ∃ state, (machine (rendezvous 10 1000)).Reachable state ∧ state.sent = 1 ∧
      (∀ id < state.sent, ∃ place, (state.holding place).count id = 1 ∧
        ∀ other, other ≠ place → id ∉ state.holding other) ∧
      state.counters.eventsDropped = state.dropped.length + state.replayDrops ∧
      state.enqueued = state.dequeued ++ state.channel ∧
      (state.handle = false → state.handleLocked = false →
        state.channel = []) ∧
      ∀ id ∈ state.stored, .sent id ∉ state.evicted →
        (state.files.map File.item ++ state.replayed ++
          state.discarded).count (.sent id) = 1 := by
  have run :
      ((machine (rendezvous 10 1000)).exec oneThread
        (overflow ++ [.thread 0 (.spool .finish)])).map
          (fun state => (state.worker.isGone, state.sent)) =
        some (false, 1) := by decide
  obtain ⟨state, executed, seen⟩ := Option.map_eq_some_iff.mp run
  simp only [Prod.mk.injEq] at seen
  have reached := Library.Machine.reachable_of_exec oneThread_starts executed
  exact ⟨state, reached, seen.2,
    envelope_conservation (rendezvous 10 1000) state reached seen.1⟩

end Transport

end Allstak
