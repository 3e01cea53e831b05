import Allstak.Transport.Diagnostics

/-!
# The order of deliveries

One channel and one worker: envelopes are taken off in the order in which they
were put in.  So of two that were answered off the channel, the one whose send
had returned before the other one's began was answered first, whatever threads
the two were on; and what is sent once a shutdown has taken the sender is never
taken off the channel.  A file is outside this order: the drain posts what it
lists.
-/

namespace Allstak

namespace Transport

/-- The envelope of the `send_envelope` a thread is in. -/
def Activity.calling : Activity → List Nat
  | .locking parcel => [parcel.id]
  | .offering parcel => [parcel.id]
  | .counting parcel => [parcel.id]
  | .spooling parcel _ => [parcel.id]
  | _ => []

namespace State

def handed (state : State) : List Nat :=
  state.threads.flatMap Activity.handing

structure Sequenced (state : State) : Prop where
  called : ∀ id, state.returned.count id +
      (state.threads.flatMap Activity.calling).count id =
    (List.range state.sent).count id
  fresh : ∀ id, state.enqueued.count id + state.handed.count id ≤
    (List.range state.sent).count id
  taken : state.dequeued <+: state.enqueued
  kept : (state.answered ++ state.worker.hands).Sublist state.dequeued
  lost : ∀ id ∈ state.vanished, id ∈ state.enqueued

/-- What a thread changes of what the worker records: nothing. -/
structure Unheard (state after : State) : Prop where
  dequeued : after.dequeued = state.dequeued
  answered : after.answered = state.answered
  vanished : after.vanished = state.vanished
  posts : after.posts = state.posts
  hands : after.worker.hands = state.worker.hands

/-- A thread puts an envelope in the channel or returns with it, and comes to
have a new one only by a call. -/
theorem ThreadMove.sends {settings : Settings} {index : Nat}
    {activity : Activity} {action : ThreadAction} {state after : State}
    (move : ThreadMove settings index state activity action after) :
    Unheard state after ∧
      ∃ new entered done, after.threads = state.threads.set index new ∧
        after.enqueued = state.enqueued ++ entered ∧
        after.returned = state.returned ++ done ∧
        (entered = [] ∨
          entered = activity.handing ∧ new.handing = [] ∧
            state.senderOpen = true) ∧
        (new.handing = [] ∨ new.handing = activity.handing ∨
          activity.handing = [] ∧ new.handing = [state.sent] ∧
            after.sent = state.sent + 1) ∧
        (after.sent = state.sent ∧
            done ++ new.calling = activity.calling ∨
          after.sent = state.sent + 1 ∧ done = [] ∧
            new.calling = [state.sent] ∧ activity.calling = []) := by
  cases move with
  | @accepted parcel parked sender alive =>
      refine ⟨⟨rfl, rfl, rfl, rfl, rfl⟩, _, [parcel.id], [], rfl, rfl, ?_⟩
      simp [Activity.handing, Activity.calling, setThread, sender]
  | post alive =>
      refine ⟨⟨rfl, rfl, rfl, rfl, rfl⟩, _, [], [], rfl, ?_⟩
      simp [Activity.handing, Activity.calling, setThread]
  | spooling persisted =>
      obtain ⟨files, names, counters, stored, dropped, spoiled, evicted, rfl⟩ :=
        persisted.frame
      refine ⟨⟨rfl, rfl, rfl, rfl, rfl⟩, _, [], [], rfl, ?_⟩
      simp [Activity.handing, Activity.calling, setThread]
  | @spooled parcel stage action middle persisted =>
      obtain ⟨files, names, counters, stored, dropped, spoiled, evicted, rfl⟩ :=
        persisted.frame
      refine ⟨⟨rfl, rfl, rfl, rfl, rfl⟩, _, [], [parcel.id], rfl, ?_⟩
      simp [Activity.handing, Activity.calling, endSend, setThread]
  | @count parcel =>
      refine ⟨⟨rfl, rfl, rfl, rfl, rfl⟩, _, [], [parcel.id], rfl, ?_⟩
      simp [Activity.handing, Activity.calling, endSend, setThread]
  | taken sender | unheard gone | timeout =>
      rw [endFlush_eq]
      refine ⟨⟨rfl, rfl, rfl, rfl, rfl⟩, _, [], [], rfl, by simp, by simp, ?_⟩
      split <;> simp [Activity.handing, Activity.calling]
  | acknowledge acking =>
      rw [endFlush_eq]
      refine ⟨⟨rfl, rfl, rfl, rfl, ?_⟩, _, [], [], rfl, by simp, by simp, ?_⟩
      · rw [acking]
        rfl
      · split <;> simp [Activity.handing, Activity.calling]
  | closed unlocked taken | join finished =>
      refine ⟨⟨rfl, rfl, rfl, rfl, rfl⟩, _, [], [], rfl, ?_⟩
      simp [Activity.handing, Activity.calling, endShutdown, confirm, setThread]
  | _ =>
      refine ⟨⟨rfl, rfl, rfl, rfl, rfl⟩, _, [], [], rfl, ?_⟩
      simp [Activity.handing, Activity.calling, setThread]

theorem ThreadMove.sequenced {settings : Settings} {index : Nat}
    {activity : Activity} {action : ThreadAction} {state after : State}
    (found : state.threads[index]? = some activity)
    (move : ThreadMove settings index state activity action after)
    (sequenced : state.Sequenced) : after.Sequenced := by
  obtain ⟨unheard, new, entered, done, threads, enqueued, returned, enters,
    hands, calls⟩ := move.sends
  constructor
  · intro id
    have before := sequenced.called id
    have moved := Library.Pool.count_flatMap_set Activity.calling new id found
    rw [threads, returned, List.count_append]
    rcases calls with ⟨sent, calling⟩ | ⟨sent, rfl, calling, idle⟩
    · rw [← calling, List.count_append] at moved
      rw [sent]
      omega
    · rw [calling, idle] at moved
      rw [sent, List.range_succ, List.count_append]
      simp only [List.count_nil] at moved ⊢
      omega
  · intro id
    have before := sequenced.fresh id
    have moved := Library.Pool.count_flatMap_set Activity.handing new id found
    have more : (List.range state.sent).count id ≤
        (List.range after.sent).count id := by
      rcases calls with ⟨sent, -⟩ | ⟨sent, -⟩
      · rw [sent]
      · rw [sent, List.range_succ, List.count_append]
        exact Nat.le_add_right _ _
    unfold handed at before ⊢
    rw [threads, enqueued, List.count_append]
    rcases enters with rfl | ⟨rfl, emptied, -⟩
    · rcases hands with emptied | same | ⟨idle, handing, sent⟩
      · rw [emptied] at moved
        simp only [List.count_nil] at moved ⊢
        omega
      · rw [same] at moved
        simp only [List.count_nil]
        omega
      · rw [idle, handing] at moved
        rw [sent, List.range_succ, List.count_append]
        simp only [List.count_nil] at moved ⊢
        omega
    · rw [emptied, List.count_nil] at moved
      omega
  · rw [unheard.dequeued, enqueued]
    exact sequenced.taken.trans (List.prefix_append _ _)
  · rw [unheard.dequeued, unheard.answered, unheard.hands]
    exact sequenced.kept
  · intro id lost
    rw [unheard.vanished] at lost
    rw [enqueued]
    exact List.mem_append_left _ (sequenced.lost id lost)

/-- The worker leaves the calls alone; it takes envelopes off the front of the
channel, and answers only the one it has. -/
theorem WorkerMove.takes {settings : Settings} {phase : Phase}
    {action : WorkerAction} {state after : State}
    (move : WorkerMove settings state phase action after) :
    (after.threads = state.threads ∧ after.enqueued = state.enqueued ∧
        after.returned = state.returned ∧ after.sent = state.sent ∧
        after.senderOpen = state.senderOpen) ∧
      ((∃ parcel rest, state.queue = .send parcel :: rest ∧ phase = .idle ∧
          after.dequeued = state.dequeued ++ [parcel.id] ∧
          after.answered ++ after.worker.hands =
            state.answered ++ [parcel.id] ∧
          after.vanished = state.vanished) ∨
        after.dequeued = state.dequeued ∧
          (after.answered ++ after.worker.hands).Sublist
            (state.answered ++ phase.hands) ∧
          (after.vanished = state.vanished ∨
            after.vanished =
              state.vanished ++ (state.worker.hands ++ state.channel))) := by
  cases move with
  | built possible =>
      refine ⟨⟨rfl, rfl, rfl, rfl, rfl⟩, .inr ⟨rfl, ?_, .inl rfl⟩⟩
      rcases possible with rfl | rfl <;> simp [Phase.hands]
  | unbuilt | replayPanicked | deliverPanicked =>
      refine ⟨⟨rfl, rfl, rfl, rfl, rfl⟩, .inr ⟨rfl, ?_, .inr rfl⟩⟩
      simp [perish, die, Phase.hands]
  | @receive parcel rest queued =>
      exact ⟨⟨rfl, rfl, rfl, rfl, rfl⟩,
        .inl ⟨parcel, rest, queued, rfl, rfl, rfl, rfl⟩⟩
  | remove =>
      unfold unlinkReplayed
      split <;> [split; skip] <;>
        exact ⟨⟨rfl, rfl, rfl, rfl, rfl⟩, .inr ⟨rfl, by simp [Phase.hands],
          .inl rfl⟩⟩
  | persisting persisted | persisted persisted =>
      obtain ⟨files, names, counters, stored, dropped, spoiled, evicted, rfl⟩ :=
        persisted.frame
      exact ⟨⟨rfl, rfl, rfl, rfl, rfl⟩, .inr ⟨rfl, by simp [Phase.hands],
        .inl rfl⟩⟩
  | _ =>
      exact ⟨⟨rfl, rfl, rfl, rfl, rfl⟩,
        .inr ⟨rfl, by simp [delivered, Phase.hands], .inl rfl⟩⟩

theorem WorkerMove.sequenced {settings : Settings} {phase : Phase}
    {action : WorkerAction} {state after : State}
    (current : state.worker = phase)
    (move : WorkerMove settings state phase action after)
    (recorded : state.Recorded) (sequenced : state.Sequenced) : after.Sequenced := by
  have alive : state.worker.isGone = false := by
    have running := move.ending.1
    rw [current]
    cases phase with
    | gone => cases running
    | _ => rfl
  have queued := recorded.fifo alive
  obtain ⟨⟨threads, enqueued, returned, sent, -⟩, takes⟩ := move.takes
  constructor
  · rw [threads, returned, sent]
    exact sequenced.called
  · unfold handed
    rw [threads, enqueued, sent]
    exact sequenced.fresh
  · rw [enqueued]
    rcases takes with ⟨parcel, rest, queue, -, dequeued, -⟩ | ⟨dequeued, -⟩
    · refine ⟨rest.filterMap Message.id?, ?_⟩
      rw [dequeued, queued, channel, queue]
      simp [Message.id?]
    · rw [dequeued]
      exact sequenced.taken
  · have kept := sequenced.kept
    rcases takes with ⟨parcel, rest, -, idle, dequeued, answered, -⟩ |
      ⟨dequeued, fewer, -⟩
    · rw [dequeued, answered]
      have answeredBefore : state.answered.Sublist state.dequeued :=
        (List.sublist_append_left _ _).trans kept
      exact answeredBefore.append (List.Sublist.refl _)
    · rw [dequeued]
      rw [current] at kept
      exact fewer.trans kept
  · intro id lost
    rw [enqueued]
    rcases takes with ⟨parcel, rest, -, -, -, -, vanished⟩ |
      ⟨-, -, vanished | vanished⟩
    · exact sequenced.lost id (vanished ▸ lost)
    · exact sequenced.lost id (vanished ▸ lost)
    · rw [vanished, List.mem_append, List.mem_append] at lost
      rcases lost with earlier | held | waiting
      · exact sequenced.lost id earlier
      · apply sequenced.taken.subset
        apply sequenced.kept.subset
        exact List.mem_append_right _ held
      · rw [queued]
        exact List.mem_append_right _ waiting

end State

theorem sequenced_of_reachable {settings : Settings} {state : State}
    (reached : (machine settings).Reachable state) : state.Sequenced := by
  apply reached.invariant fun _ reached => recorded_of_reachable reached
  · rintro state ⟨calls, directory, spawned, -, -, rfl⟩
    have idle (held : Activity → List Nat) (nothing : held .idle = []) :
        (List.replicate calls Activity.idle).flatMap held = [] :=
      Library.Pool.flatMap_replicate calls nothing
    constructor
    · simp [idle Activity.calling rfl]
    · simp [State.handed, idle Activity.handing rfl]
    · exact List.prefix_rfl
    · cases spawned <;> simp [Phase.hands]
    · simp
  · intro before label after recorded sequenced _ moved
    rcases step_cases moved with
      ⟨index, activity, action, rfl, found, move⟩ | ⟨action, rfl, move⟩
    · exact move.sequenced found sequenced
    · exact move.sequenced rfl recorded sequenced

namespace State

/-- What enters the channel was in the hands of a thread, or is sent later. -/
structure Advances (state after : State) : Prop where
  sent : state.sent ≤ after.sent
  closed : state.senderOpen = false → after.senderOpen = false
  handed : ∀ id ∈ after.handed, id ∈ state.handed ∨ state.sent ≤ id
  entered : ∃ entered, after.enqueued = state.enqueued ++ entered ∧
    (∀ id ∈ entered, id ∈ state.handed ∨ state.sent ≤ id) ∧
    (state.senderOpen = false → entered = [])
  silent : state.worker.isOver = true →
    after.worker.isOver = true ∧ after.posts = state.posts

theorem ThreadMove.advances {settings : Settings} {index : Nat}
    {activity : Activity} {action : ThreadAction} {state after : State}
    (found : state.threads[index]? = some activity)
    (move : ThreadMove settings index state activity action after) :
    state.Advances after := by
  obtain ⟨unheard, new, entered, done, threads, enqueued, -, enters, hands,
    calls⟩ := move.sends
  have member (id : Nat) (handing : id ∈ activity.handing) :
      id ∈ state.handed :=
    List.mem_flatMap.mpr ⟨activity, List.mem_of_getElem? found, handing⟩
  constructor
  · rcases calls with ⟨sent, -⟩ | ⟨sent, -⟩ <;> omega
  · intro closed
    cases opened : after.senderOpen with
    | false => rfl
    | true =>
        rw [move.queue.2 opened] at closed
        cases closed
  · intro id held
    unfold State.handed at held
    rw [threads] at held
    obtain ⟨party, inPool, handing⟩ := List.mem_flatMap.mp held
    rcases List.mem_or_eq_of_mem_set inPool with old | rfl
    · exact .inl (List.mem_flatMap.mpr ⟨party, old, handing⟩)
    · rcases hands with emptied | same | ⟨-, fresh, -⟩
      · rw [emptied] at handing
        cases handing
      · exact .inl (member id (same ▸ handing))
      · rw [fresh, List.mem_singleton] at handing
        exact .inr (Nat.le_of_eq handing.symm)
  · refine ⟨entered, enqueued, ?_, ?_⟩
    · intro id present
      rcases enters with rfl | ⟨rfl, -⟩
      · cases present
      · exact .inl (member id present)
    · intro closed
      rcases enters with none | ⟨-, -, opened⟩
      · exact none
      · rw [closed] at opened
        cases opened
  · intro finished
    refine ⟨?_, unheard.posts⟩
    rcases move.worker with same | ⟨⟨ack, acking⟩, -⟩
    · rw [same]
      exact finished
    · rw [acking] at finished
      cases finished

theorem WorkerMove.advances {settings : Settings} {action : WorkerAction}
    {state after : State}
    (move : WorkerMove settings state state.worker action after) :
    state.Advances after := by
  obtain ⟨⟨threads, enqueued, -, sent, sender⟩, -⟩ := move.takes
  constructor
  · rw [sent]
  · rw [sender]
    exact id
  · intro id held
    unfold State.handed at held
    rw [threads] at held
    exact .inl held
  · exact ⟨[], by simp [enqueued], by simp, fun _ => rfl⟩
  · intro finished
    have running := move.ending.1
    rw [finished] at running
    cases running

theorem Advances.refl (state : State) : state.Advances state where
  sent := Nat.le_refl _
  closed := id
  handed _ held := .inl held
  entered := ⟨[], by simp, by simp, fun _ => rfl⟩
  silent finished := ⟨finished, rfl⟩

theorem Advances.trans {state middle after : State}
    (first : state.Advances middle) (second : middle.Advances after) :
    state.Advances after := by
  have earlier (id : Nat) (later : id ∈ middle.handed ∨ middle.sent ≤ id) :
      id ∈ state.handed ∨ state.sent ≤ id := by
    rcases later with held | unsent
    · exact first.handed id held
    · exact .inr (Nat.le_trans first.sent unsent)
  constructor
  · exact Nat.le_trans first.sent second.sent
  · exact fun closed => second.closed (first.closed closed)
  · exact fun id held => earlier id (second.handed id held)
  · obtain ⟨front, enqueued, known, none⟩ := first.entered
    obtain ⟨back, enqueuedLater, knownLater, noneLater⟩ := second.entered
    refine ⟨front ++ back, ?_, ?_, ?_⟩
    · rw [enqueuedLater, enqueued, List.append_assoc]
    · intro id present
      rcases List.mem_append.mp present with inFront | inBack
      · exact known id inFront
      · exact earlier id (knownLater id inBack)
    · intro closed
      rw [none closed, noneLater (first.closed closed)]
      rfl
  · intro finished
    obtain ⟨still, posts⟩ := first.silent finished
    obtain ⟨stillLater, postsLater⟩ := second.silent still
    exact ⟨stillLater, postsLater.trans posts⟩

end State

theorem advances_of_exec {settings : Settings} {state after : State}
    {labels : List Label}
    (run : (machine settings).exec state labels = some after) :
    state.Advances after := by
  induction labels generalizing state with
  | nil =>
      cases run
      exact .refl _
  | cons label labels induction =>
      obtain ⟨middle, moved, later⟩ := Option.bind_eq_some_iff.mp run
      have first : state.Advances middle := by
        rcases step_cases moved with
          ⟨index, activity, action, rfl, found, move⟩ | ⟨action, rfl, move⟩
        · exact move.advances found
        · exact move.advances
      exact first.trans (induction later)

/-- Of two values of a list without repetitions, the one further to the front
is further to the front in every sublist. -/
theorem idxOf_lt_of_sublist {front back part : List Nat} {first later : Nat}
    (once : (front ++ back).Nodup) (sub : part.Sublist (front ++ back))
    (inFront : first ∈ front) (inBack : later ∈ back) (has : first ∈ part)
    (hasLater : later ∈ part) : part.idxOf first < part.idxOf later := by
  have apart := List.disjoint_of_nodup_append once
  obtain ⟨left, right, rfl, subFront, subBack⟩ := List.sublist_append_iff.mp sub
  have inLeft : first ∈ left := by
    rcases List.mem_append.mp has with inside | outside
    · exact inside
    · exact absurd (subBack.subset outside) (apart inFront)
  have outside : later ∉ left := fun inside =>
    apart (subFront.subset inside) inBack
  rw [List.idxOf_append_of_mem inLeft, List.idxOf_append_of_notMem outside]
  have bounded := List.idxOf_lt_length_of_mem inLeft
  omega

namespace State

private theorem Sequenced.enqueued_nodup {state : State}
    (sequenced : state.Sequenced) :
    state.enqueued.Nodup := by
  apply List.nodup_iff_count_le_one.mpr
  intro id
  have fresh := sequenced.fresh id
  have once : (List.range state.sent).count id ≤ 1 :=
    List.nodup_iff_count_le_one.mp List.nodup_range id
  omega

private theorem Sequenced.lt_sent {state : State} (sequenced : state.Sequenced)
    {id : Nat} (entered : id ∈ state.enqueued) : id < state.sent := by
  have fresh := sequenced.fresh id
  have counted := List.count_pos_iff.mpr entered
  exact List.mem_range.mp (List.count_pos_iff.mp (by omega))

/-- The envelope of a call that returned is in no thread's hands any more. -/
theorem Sequenced.not_handed {state : State} (sequenced : state.Sequenced) {id : Nat}
    (returned : id ∈ state.returned) : id ∉ state.handed := by
  intro held
  obtain ⟨activity, member, handing⟩ := List.mem_flatMap.mp held
  have calling : id ∈ activity.calling := by
    cases activity <;> simp_all [Activity.handing, Activity.calling]
  have called := sequenced.called id
  have once : (List.range state.sent).count id ≤ 1 :=
    List.nodup_iff_count_le_one.mp List.nodup_range id
  have counted := List.count_pos_iff.mpr returned
  have inCall := List.count_pos_iff.mpr
    (List.mem_flatMap.mpr ⟨activity, member, calling⟩)
  omega

private theorem Sequenced.returned_lt {state : State}
    (sequenced : state.Sequenced) {id : Nat}
    (returned : id ∈ state.returned) : id < state.sent := by
  have called := sequenced.called id
  have counted := List.count_pos_iff.mpr returned
  exact List.mem_range.mp (List.count_pos_iff.mp (by omega))

end State

/-- Off the channel the server answers in the order of the calls: an envelope
whose send had returned when another was sent is answered before it, if both
are. -/
theorem answered_in_call_order (settings : Settings) (state after : State)
    (labels : List Label) (reached : (machine settings).Reachable state)
    (run : (machine settings).exec state labels = some after)
    (first later : Nat) (returned : first ∈ state.returned)
    (unsent : state.sent ≤ later) (answered : first ∈ after.answered)
    (laterAnswered : later ∈ after.answered) :
    after.answered.idxOf first < after.answered.idxOf later := by
  have before := sequenced_of_reachable reached
  have now := sequenced_of_reachable
    (reached.execWhere (fun _ _ _ => trivial) run)
  obtain ⟨entered, enqueued, known, -⟩ := (advances_of_exec run).entered
  have sub : after.answered.Sublist (state.enqueued ++ entered) := by
    rw [← enqueued]
    exact ((List.sublist_append_left _ _).trans now.kept).trans
      now.taken.sublist
  have once : (state.enqueued ++ entered).Nodup := enqueued ▸ now.enqueued_nodup
  have inFront : first ∈ state.enqueued := by
    rcases List.mem_append.mp (sub.subset answered) with inside | outside
    · exact inside
    · rcases known first outside with held | fresh
      · exact absurd held (before.not_handed returned)
      · exact absurd (before.returned_lt returned) (Nat.not_lt.mpr fresh)
  have inBack : later ∈ entered := by
    rcases List.mem_append.mp (sub.subset laterAnswered) with inside | outside
    · exact absurd (before.lt_sent inside) (Nat.not_lt.mpr unsent)
    · exact outside
  exact idxOf_lt_of_sublist once sub inFront inBack answered laterAnswered

/-- Two envelopes sent in turn by one thread, and answered off the channel. -/
theorem answered_in_call_order_twice :
    ∃ after : State, after.answered.length = 2 ∧
      after.answered.idxOf 0 < after.answered.idxOf 1 := by
  let sends : List Label :=
    [.thread 0 (.send sampleEnvelope), .thread 0 .lock,
      .thread 0 (.offer false), .thread 0 .count]
  let answers : List Label :=
    [.worker .receive, .worker .uncount,
      .worker (.deliver sampleInstant (answering 200))]
  have run : ((machine (unspooled 1)).exec oneThread
      (sends ++ [.worker (.build true)])).map (fun state =>
        (state.returned, state.sent)) = some ([0], 1) := by decide
  have more : (((machine (unspooled 1)).exec oneThread
      (sends ++ [.worker (.build true)])).bind fun state =>
        (machine (unspooled 1)).exec state (answers ++ sends ++ answers)).map
          State.answered = some [0, 1] := by decide +kernel
  obtain ⟨state, executed, seen⟩ := Option.map_eq_some_iff.mp run
  simp only [Prod.mk.injEq] at seen
  rw [executed, Option.bind_some] at more
  obtain ⟨after, later, answered⟩ := Option.map_eq_some_iff.mp more
  have reached := Library.Machine.reachable_of_exec oneThread_starts executed
  refine ⟨after, by rw [answered]; rfl, ?_⟩
  apply answered_in_call_order (unspooled 1) state after _ reached later 0 1
  · rw [seen.1]
    exact List.mem_singleton.mpr rfl
  · rw [seen.2]
  · simp [answered]
  · simp [answered]

/-- What never entered the channel never got to the worker. -/
theorem Sequenced.unsettled {settings : Settings} {state : State} {id : Nat}
    (reached : (machine settings).Reachable state)
    (unentered : id ∉ state.enqueued) :
    id ∉ state.answered ∧ id ∉ state.channel ∧ id ∉ state.worker.hands ∧
      id ∉ state.vanished := by
  have sequenced := sequenced_of_reachable reached
  have taken (inHands : id ∈ state.answered ++ state.worker.hands) :
      id ∈ state.enqueued :=
    sequenced.taken.subset (sequenced.kept.subset inHands)
  refine ⟨?_, ?_, ?_, ?_⟩
  · exact fun answered => unentered (taken (List.mem_append_left _ answered))
  · intro waiting
    cases gone : state.worker.isGone with
    | true =>
        have finished : state.worker.isOver = true := by
          cases phase : state.worker <;> simp_all [Phase.isOver, Phase.isGone]
        have empty := (closing_of_reachable reached).emptied finished
        rw [State.channel, empty] at waiting
        cases waiting
    | false =>
        apply unentered
        rw [(recorded_of_reachable reached).fifo gone]
        exact List.mem_append_right _ waiting
  · exact fun held => unentered (taken (List.mem_append_right _ held))
  · exact fun lost => unentered (sequenced.lost id lost)

/-- Once a shutdown has taken the sender, nothing enters the channel.  What is
sent later is never taken off it, nor answered as something off it: it is stored
or dropped by the time its send returns.  After the worker has ended no request
is made. -/
theorem sent_after_shutdown (settings : Settings) (state after : State)
    (labels : List Label) (reached : (machine settings).Reachable state)
    (run : (machine settings).exec state labels = some after)
    (closed : state.senderOpen = false) :
    after.enqueued = state.enqueued ∧
      (∀ id, state.sent ≤ id →
        id ∉ after.answered ∧ id ∉ after.dequeued ∧
          (id ∈ after.returned → id ∈ after.stored ∨ id ∈ after.dropped)) ∧
      (state.worker.isOver = true → after.posts = state.posts) := by
  have before := sequenced_of_reachable reached
  have reachedAfter : (machine settings).Reachable after :=
    reached.execWhere (fun _ _ _ => trivial) run
  have now := sequenced_of_reachable reachedAfter
  have advances := advances_of_exec run
  obtain ⟨entered, enqueued, -, none⟩ := advances.entered
  have same : after.enqueued = state.enqueued := by
    rw [enqueued, none closed, List.append_nil]
  refine ⟨same, ?_, fun finished => (advances.silent finished).2⟩
  intro id unsent
  have unentered : id ∉ after.enqueued := by
    rw [same]
    exact fun inside => absurd (before.lt_sent inside) (Nat.not_lt.mpr unsent)
  obtain ⟨unanswered, unqueued, unheld, kept⟩ :=
    Sequenced.unsettled reachedAfter unentered
  refine ⟨unanswered, fun taken => unentered (now.taken.subset taken), ?_⟩
  intro returned
  have place := (places_perm reachedAfter).mem_iff.mpr
    (List.mem_range.mpr (now.returned_lt returned))
  have unhanded := now.not_handed returned
  simp only [State.inFlight, List.mem_append] at place
  rcases place with
    (((((handed | waiting) | held) | answered) | stored) | dropped) | lost
  · exact absurd handed unhanded
  · exact absurd waiting unqueued
  · exact absurd held unheld
  · exact absurd answered unanswered
  · exact .inl stored
  · exact .inr dropped
  · exact absurd lost kept

/-- An envelope sent after a shutdown of a transport without a spool. -/
theorem sent_after_shutdown_dropped :
    ∃ state after : State, after.returned = [0] ∧ after.answered = [] ∧
      after.posts = state.posts ∧ 0 ∈ after.stored ++ after.dropped := by
  have run : ((machine (unspooled 1)).exec oneThread
      [.thread 0 .shutdown, .worker (.build false), .thread 0 .clone,
        .thread 0 .post, .thread 0 .take]).map (fun state =>
        (state.senderOpen, state.sent, state.worker.isOver)) =
      some (false, 0, true) := by decide
  have more : (((machine (unspooled 1)).exec oneThread
      [.thread 0 .shutdown, .worker (.build false), .thread 0 .clone,
        .thread 0 .post, .thread 0 .take]).bind fun state =>
      (machine (unspooled 1)).exec state
        [.thread 0 .close, .thread 0 .join, .thread 0 (.send sampleEnvelope),
          .thread 0 .lock, .thread 0 (.offer false),
          .thread 0 (.spool (.begin true none))]).map (fun state =>
        (state.returned, state.answered)) = some ([0], []) := by decide
  obtain ⟨state, executed, seen⟩ := Option.map_eq_some_iff.mp run
  simp only [Prod.mk.injEq] at seen
  rw [executed, Option.bind_some] at more
  obtain ⟨after, later, shown⟩ := Option.map_eq_some_iff.mp more
  simp only [Prod.mk.injEq] at shown
  have reached := Library.Machine.reachable_of_exec oneThread_starts executed
  obtain ⟨-, fates, silent⟩ :=
    sent_after_shutdown (unspooled 1) state after _ reached later seen.1
  refine ⟨state, after, shown.1, shown.2, silent seen.2.2, ?_⟩
  apply List.mem_append.mpr
  apply (fates 0 (by omega)).2.2
  rw [shown.1]
  exact List.mem_singleton.mpr rfl

end Transport

end Allstak
