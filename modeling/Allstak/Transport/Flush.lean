import Allstak.Transport.Closing
import Allstak.Transport.Conservation

/-!
# What a flush may say

`flush` and `shutdown` answer `true` on several paths.  The marker that the
worker acknowledges is behind every envelope whose send had returned, so that
path tells the truth.  A taken sender and a dead worker answer `true` at once;
they tell the truth when nothing is left in the channel or with the worker.
-/

namespace Allstak

namespace Transport

namespace State

/-- The envelopes the channel or the worker still has. -/
def backlog (state : State) : List Nat := state.worker.hands ++ state.channel

/-- The envelopes accepted by the server, stored, or counted as dropped. -/
def settled (state : State) : List Nat :=
  state.answered ++ state.stored ++ state.dropped

/-- The step ends the worker outside its loop: the runtime or the HTTP client
cannot be built, or the delivery panics. -/
def Dies (settings : Settings) (state : State) : Label → Prop
  | .worker (.build succeeds) => succeeds = false
  | .worker (.replay checkedAt exchanges) =>
      ∃ path paths envelope, state.worker = .replaying path paths envelope ∧
        Allstak.deliver settings.codec envelope state.limiter state.counters
          checkedAt exchanges = none
  | .worker (.deliver checkedAt exchanges) =>
      ∃ parcel, state.worker = .delivering parcel ∧
        Allstak.deliver settings.codec parcel.envelope state.limiter
          state.counters checkedAt exchanges = none
  | _ => False

/-- A plain flush finds the sender taken. -/
def FindsTaken (state : State) : Label → Prop
  | .thread index .clone =>
      state.senderOpen = false ∧
        ∃ before, state.threads[index]? =
          some (.flushing { before, stopping := false })
  | _ => False

/-- A dying worker and a flush that finds the sender taken leave no envelope
behind. -/
def Caught (settings : Settings) (state : State) (label : Label) : Prop :=
  state.Dies settings label ∨ state.FindsTaken label → state.backlog = []

end State

/-- The envelopes a thread knows to have been enqueued or settled. -/
def Activity.relied : Activity → List Nat
  | .counting parcel => [parcel.id]
  | .flushing call => call.before
  | .posting call => call.before
  | .awaiting call _ => call.before
  | .taking _ before => before
  | .closing _ before => before
  | .joining _ before => before
  | _ => []

/-- The envelopes in the channel before the marker. -/
def ahead (ack : Nat) : List Message → List Nat
  | [] => []
  | .send parcel :: rest => parcel.id :: ahead ack rest
  | .flush other :: rest => if other = ack then [] else ahead ack rest

theorem ahead_append_of_mem {ack : Nat} {queue : List Message}
    (posted : Message.flush ack ∈ queue) (more : List Message) :
    ahead ack (queue ++ more) = ahead ack queue := by
  induction queue with
  | nil => simp at posted
  | cons message rest induction =>
      cases message with
      | send parcel =>
          have later : Message.flush ack ∈ rest := by simpa using posted
          simp only [List.cons_append, ahead, induction later]
      | flush other =>
          by_cases same : other = ack
          · simp [ahead, same]
          · have later : Message.flush ack ∈ rest := by
              simpa [Ne.symm same] using posted
            simp only [List.cons_append, ahead, same, if_false, induction later]

/-- A marker posted last has the whole channel ahead of it. -/
theorem ahead_append_flush {ack : Nat} {queue : List Message}
    (fresh : Message.flush ack ∉ queue) :
    ahead ack (queue ++ [.flush ack]) = queue.filterMap Message.id? := by
  induction queue with
  | nil => simp [ahead]
  | cons message rest induction =>
      have later : Message.flush ack ∉ rest := fun member =>
        fresh (List.mem_cons_of_mem _ member)
      cases message with
      | send parcel =>
          simp only [List.cons_append, ahead, induction later,
            List.filterMap_cons, Message.id?]
      | flush other =>
          have different : other ≠ ack := by
            rintro rfl
            exact fresh List.mem_cons_self
          simp only [List.cons_append, ahead, different, if_false,
            induction later, List.filterMap_cons, Message.id?]

namespace State

/-- The invariant behind every truthful answer. -/
structure Truthful (state : State) : Prop where
  /-- What callers rely on is settled or still on its way. -/
  relied : ∀ id, (id ∈ state.returned ∨
      ∃ activity ∈ state.threads, id ∈ activity.relied) →
    id ∈ state.settled ∨ id ∈ state.backlog
  /-- What an awaited marker has not passed is ahead of it. -/
  posted : ∀ call ack, .awaiting call ack ∈ state.threads →
    .flush ack ∈ state.queue → ∀ id ∈ call.before,
      id ∈ state.settled ∨ id ∈ state.worker.hands ∨
        id ∈ ahead ack state.queue
  reached : ∀ call ack, .awaiting call ack ∈ state.threads →
    state.worker = .acking ack → ∀ id ∈ call.before, id ∈ state.settled
  fresh : ∀ ack, (.flush ack ∈ state.queue ∨ state.worker = .acking ack ∨
    ∃ call, .awaiting call ack ∈ state.threads) → ack < state.acks
  confirmed : ∀ id ∈ state.confirmed, id ∈ state.settled

/-- `persist_or_drop` settles its envelope when it is done. -/
theorem PersistMove.settled {settings : Settings} {parcel : Parcel}
    {action : PersistAction} {stage : PersistStage}
    {next : Option PersistStage} {state after : State}
    (move : PersistMove settings parcel state action stage next after) :
    state.settled ⊆ after.settled ∧
      (next = none → parcel.id ∈ after.settled) := by
  cases move with
  | refused =>
      simp only [State.settled, drop, List.subset_def, List.mem_append]
      grind
  | spoiled =>
      simp only [State.settled, drop, spoilFile, writeFile, List.subset_def,
        List.mem_append]
      grind
  | stored =>
      simp only [State.settled, store, List.subset_def, List.mem_append]
      grind
  | evicted =>
      rw [evictFile]
      split <;> simp [State.settled]
  | _ => simp [State.settled, createFile, writeFile]

/-- A thread settles envelopes, or leaves the record of them alone. -/
theorem ThreadMove.settled {settings : Settings} {index : Nat}
    {activity : Activity} {action : ThreadAction} {state after : State}
    (move : ThreadMove settings index state activity action after) :
    state.settled ⊆ after.settled := by
  cases move with
  | spooling persisted => exact persisted.settled.1
  | spooled persisted => exact persisted.settled.1
  | taken sender =>
      rw [endFlush_eq]
      exact List.Subset.refl _
  | unheard gone =>
      rw [endFlush_eq]
      exact List.Subset.refl _
  | timeout =>
      rw [endFlush_eq]
      exact List.Subset.refl _
  | acknowledge acking =>
      rw [endFlush_eq]
      exact List.Subset.refl _
  | _ => exact List.Subset.refl _

theorem ThreadMove.backlog {settings : Settings} {index : Nat}
    {activity : Activity} {action : ThreadAction} {state after : State}
    (move : ThreadMove settings index state activity action after) :
    after.worker.hands = state.worker.hands ∧ state.channel ⊆ after.channel := by
  cases move with
  | spooling persisted | spooled persisted =>
      obtain ⟨files, names, counters, stored, dropped, spoiled, evicted, rfl⟩ :=
        persisted.frame
      exact ⟨rfl, List.Subset.refl _⟩
  | accepted sender alive | post alive =>
      refine ⟨rfl, ?_⟩
      simp [channel, setThread, List.filterMap_append]
  | taken sender | unheard gone | timeout =>
      rw [endFlush_eq]
      exact ⟨rfl, List.Subset.refl _⟩
  | acknowledge acking =>
      rw [endFlush_eq]
      refine ⟨?_, List.Subset.refl _⟩
      rw [acking]
      rfl
  | _ => exact ⟨rfl, List.Subset.refl _⟩

/-- What a thread newly relies on has returned, was relied on before, or has
just been settled or enqueued. -/
theorem ThreadMove.relied {settings : Settings} {index : Nat}
    {activity : Activity} {action : ThreadAction} {state after : State}
    (move : ThreadMove settings index state activity action after) :
    ∃ new, after.threads = state.threads.set index new ∧
      ∀ id, id ∈ after.returned ∨ id ∈ new.relied →
        id ∈ state.returned ∨ id ∈ activity.relied ∨ id ∈ after.settled ∨
          id ∈ after.channel := by
  cases move with
  | spooling persisted =>
      obtain ⟨files, names, counters, stored, dropped, spoiled, evicted, rfl⟩ :=
        persisted.frame
      refine ⟨_, rfl, fun id known => ?_⟩
      rcases known with earlier | new
      · exact .inl earlier
      · cases new
  | @spooled parcel stage action middle persisted =>
      have done := persisted.settled.2 rfl
      obtain ⟨files, names, counters, stored, dropped, spoiled, evicted, rfl⟩ :=
        persisted.frame
      refine ⟨_, rfl, fun id known => ?_⟩
      simp only [endSend, setThread, List.mem_append, List.mem_singleton,
        Activity.relied, List.not_mem_nil, or_false] at known
      rcases known with earlier | rfl
      · exact .inl earlier
      · exact .inr (.inr (.inl done))
  | @accepted parcel parked sender alive =>
      refine ⟨_, rfl, fun id known => ?_⟩
      simp only [setThread, Activity.relied, List.mem_singleton] at known
      rcases known with earlier | rfl
      · exact .inl earlier
      · right; right; right
        simp [channel, setThread, List.filterMap_append, Message.id?]
  | @count parcel =>
      refine ⟨_, rfl, fun id known => ?_⟩
      simp only [endSend, setThread, List.mem_append, Activity.relied,
        List.not_mem_nil, or_false] at known
      rcases known with earlier | counted
      · exact .inl earlier
      · exact .inr (.inl counted)
  | taken sender | unheard gone | timeout | acknowledge acking =>
      rw [endFlush_eq]
      refine ⟨_, rfl, fun id known => ?_⟩
      rcases known with earlier | new
      · exact .inl earlier
      · refine .inr (.inl ?_)
        split at new <;> simp_all [Activity.relied]
  | _ =>
      exact ⟨_, rfl, by
        simp +contextual [Activity.relied, setThread, endShutdown, confirm, or_imp]⟩

/-- A marker is new when it is posted; the other steps post none. -/
theorem ThreadMove.marks {settings : Settings} {index : Nat}
    {activity : Activity} {action : ThreadAction} {state after : State}
    (move : ThreadMove settings index state activity action after) :
    (∃ new, after.threads = state.threads.set index new ∧
        (∀ call ack, new ≠ .awaiting call ack) ∧ after.acks = state.acks ∧
        (after.queue = state.queue ∨
          ∃ parcel, after.queue = state.queue ++ [.send parcel]) ∧
        (after.worker = state.worker ∨ after.worker = .idle)) ∨
      ∃ call, activity = .posting call ∧
        after.threads = state.threads.set index (.awaiting call state.acks) ∧
        after.acks = state.acks + 1 ∧
        after.queue = state.queue ++ [.flush state.acks] ∧
        after.worker = state.worker := by
  cases move with
  | spooling persisted =>
      obtain ⟨files, names, counters, stored, dropped, spoiled, evicted, rfl⟩ :=
        persisted.frame
      exact .inl ⟨_, rfl, by simp [setThread]⟩
  | spooled persisted =>
      obtain ⟨files, names, counters, stored, dropped, spoiled, evicted, rfl⟩ :=
        persisted.frame
      exact .inl ⟨_, rfl, by simp [setThread, endSend]⟩
  | @accepted parcel parked sender alive =>
      exact .inl ⟨_, rfl, by simp, rfl, .inr ⟨parcel, rfl⟩, .inl rfl⟩
  | @post call alive => exact .inr ⟨call, rfl, rfl, rfl, rfl, rfl⟩
  | taken sender | unheard gone | timeout =>
      rw [endFlush_eq]
      exact .inl ⟨_, rfl, by intro call ack; split <;> simp, rfl, .inl rfl, .inl rfl⟩
  | acknowledge acking =>
      rw [endFlush_eq]
      exact .inl ⟨_, rfl, by intro call ack; split <;> simp, rfl, .inl rfl, .inr rfl⟩
  | _ =>
      exact .inl ⟨_, rfl, by simp [setThread, endSend, endShutdown, confirm]⟩

/-- The paths on which a caller is told `true`. -/
theorem ThreadMove.confirmed {settings : Settings} {index : Nat}
    {activity : Activity} {action : ThreadAction} {state after : State}
    (found : state.threads[index]? = some activity)
    (move : ThreadMove settings index state activity action after) :
    ∀ id ∈ after.confirmed, id ∈ state.confirmed ∨
      (∃ call ack, activity = .awaiting call ack ∧
        state.worker = .acking ack ∧ id ∈ call.before) ∨
      id ∈ activity.relied ∧
        (state.FindsTaken (.thread index action) ∨
          state.worker.isOver = true ∨
          state.handleLocked = false ∧ state.handle = false) := by
  cases move with
  | spooling persisted | spooled persisted =>
      obtain ⟨files, names, counters, stored, dropped, spoiled, evicted, rfl⟩ :=
        persisted.frame
      exact fun id member => .inl member
  | @taken call sender =>
      rw [endFlush_eq]
      obtain ⟨before, stopping⟩ := call
      intro id member
      cases stopping with
      | true => exact .inl (by simpa using member)
      | false =>
          simp only [Bool.false_eq_true, if_false, if_true, List.mem_append] at member
          rcases member with earlier | new
          · exact .inl earlier
          · exact .inr (.inr ⟨new, .inl ⟨sender, before, found⟩⟩)
  | @unheard call gone =>
      rw [endFlush_eq]
      intro id member
      have finished : state.worker.isOver = true := by
        cases phase : state.worker <;> simp_all [Phase.isGone, Phase.isOver]
      simp only [List.mem_append] at member
      rcases member with earlier | new
      · exact .inl earlier
      · refine .inr (.inr ⟨?_, .inr (.inl finished)⟩)
        split at new <;> simp_all [Activity.relied]
  | timeout =>
      rw [endFlush_eq]
      intro id member
      exact .inl (by simpa using member)
  | @acknowledge call ack acking =>
      rw [endFlush_eq]
      intro id member
      simp only [List.mem_append] at member
      rcases member with earlier | new
      · exact .inl earlier
      · refine .inr (.inl ⟨call, ack, rfl, acking, ?_⟩)
        split at new <;> simp_all
  | @closed drained before unlocked taken =>
      intro id member
      simp only [endShutdown, confirm, setThread, List.mem_append] at member
      rcases member with earlier | new
      · exact .inl earlier
      · refine .inr (.inr ⟨?_, .inr (.inr ⟨unlocked, taken⟩)⟩)
        split at new <;> simp_all [Activity.relied]
  | @join drained before finished =>
      intro id member
      simp only [endShutdown, confirm, setThread, List.mem_append] at member
      rcases member with earlier | new
      · exact .inl earlier
      · refine .inr (.inr ⟨?_, .inr (.inl finished)⟩)
        split at new <;> simp_all [Activity.relied]
  | _ => exact fun id member => .inl member

theorem hands_eq_nil_of_isOver {phase : Phase} (finished : phase.isOver = true) :
    phase.hands = [] := by
  cases phase <;> first | rfl | cases finished

/-- A worker that is over has nothing left. -/
theorem Closing.backlog {state : State} (closing : state.Closing)
    (finished : state.worker.isOver = true) : state.backlog = [] := by
  simp [State.backlog, channel, hands_eq_nil_of_isOver finished, closing.emptied finished]

/-- A thread that posts no marker awaits no new one. -/
theorem awaiting_of_set {threads : List Activity} {index : Nat} {new : Activity}
    (plain : ∀ call ack, new ≠ .awaiting call ack) {call : FlushCall} {ack : Nat}
    (awaiting : .awaiting call ack ∈ threads.set index new) :
    .awaiting call ack ∈ threads := by
  rcases List.mem_or_eq_of_mem_set awaiting with old | same
  · exact old
  · exact absurd same.symm (plain call ack)

/-- A marker in a channel that got at most an envelope was there before, with
the same ahead of it. -/
theorem posted_before {queue after : List Message} {ack : Nat}
    (appended : after = queue ∨ ∃ parcel, after = queue ++ [.send parcel])
    (posted : Message.flush ack ∈ after) :
    Message.flush ack ∈ queue ∧ ahead ack after = ahead ack queue := by
  rcases appended with rfl | ⟨parcel, rfl⟩
  · exact ⟨posted, rfl⟩
  · have earlier : Message.flush ack ∈ queue := by simpa using posted
    exact ⟨earlier, ahead_append_of_mem earlier _⟩

section

variable {settings : Settings} {index : Nat} {activity : Activity}
  {action : ThreadAction} {state after : State}

/-- What is settled or on its way stays so. -/
theorem ThreadMove.known
    (move : ThreadMove settings index state activity action after) {id : Nat}
    (known : id ∈ state.settled ∨ id ∈ state.backlog) :
    id ∈ after.settled ∨ id ∈ after.backlog := by
  obtain ⟨hands, channel⟩ := move.backlog
  rcases known with done | waiting
  · exact .inl (move.settled done)
  · right
    rcases List.mem_append.mp waiting with held | queued
    · exact List.mem_append_left _ (hands ▸ held)
    · exact List.mem_append_right _ (channel queued)

theorem ThreadMove.relied_known
    (found : state.threads[index]? = some activity)
    (move : ThreadMove settings index state activity action after)
    (truthful : state.Truthful) {id : Nat}
    (relied : id ∈ after.returned ∨
      ∃ other ∈ after.threads, id ∈ other.relied) :
    id ∈ after.settled ∨ id ∈ after.backlog := by
  obtain ⟨new, threads, known⟩ := move.relied
  have member := List.mem_of_getElem? found
  have sources : (id ∈ after.returned ∨ id ∈ new.relied) ∨
      ∃ other ∈ state.threads, id ∈ other.relied := by
    rcases relied with returned | ⟨other, present, relies⟩
    · exact .inl (.inl returned)
    · rw [threads] at present
      rcases List.mem_or_eq_of_mem_set present with old | rfl
      · exact .inr ⟨other, old, relies⟩
      · exact .inl (.inr relies)
  rcases sources with fresh | old
  · rcases known id fresh with returned | relies | done | queued
    · exact move.known (truthful.relied id (.inl returned))
    · exact move.known (truthful.relied id (.inr ⟨activity, member, relies⟩))
    · exact .inl done
    · exact .inr (List.mem_append_right _ queued)
  · exact move.known (truthful.relied id (.inr old))

/-- A new marker has everything its caller relies on ahead of it; an old one
keeps what it had. -/
theorem ThreadMove.posted_known
    (found : state.threads[index]? = some activity)
    (move : ThreadMove settings index state activity action after)
    (truthful : state.Truthful) {call : FlushCall} {ack id : Nat}
    (awaiting : .awaiting call ack ∈ after.threads)
    (posted : .flush ack ∈ after.queue) (before : id ∈ call.before) :
    id ∈ after.settled ∨ id ∈ after.worker.hands ∨ id ∈ ahead ack after.queue := by
  have settled := move.settled
  obtain ⟨hands, -⟩ := move.backlog
  rcases move.marks with
    ⟨new, threads, plain, -, queue, -⟩ | ⟨poster, posting, threads, -, queue, -⟩
  · have old := awaiting_of_set plain (threads ▸ awaiting)
    obtain ⟨earlier, order⟩ := posted_before queue posted
    rcases truthful.posted call ack old earlier id before with
      done | held | waiting
    · exact .inl (settled done)
    · exact .inr (.inl (hands ▸ held))
    · exact .inr (.inr (order ▸ waiting))
  · rw [threads] at awaiting
    rcases List.mem_or_eq_of_mem_set awaiting with old | same
    · have older : ack < state.acks :=
        truthful.fresh ack (.inr (.inr ⟨call, old⟩))
      have earlier : Message.flush ack ∈ state.queue := by
        rw [queue] at posted
        rcases List.mem_append.mp posted with earlier | last
        · exact earlier
        · simp only [List.mem_singleton, Message.flush.injEq] at last
          omega
      rw [queue, ahead_append_of_mem earlier]
      rcases truthful.posted call ack old earlier id before with
        done | held | waiting
      · exact .inl (settled done)
      · exact .inr (.inl (hands ▸ held))
      · exact .inr (.inr waiting)
    · simp only [Activity.awaiting.injEq] at same
      obtain ⟨rfl, rfl⟩ := same
      have unposted : Message.flush state.acks ∉ state.queue := fun early =>
        absurd (truthful.fresh _ (.inl early)) (Nat.lt_irrefl _)
      rw [queue, ahead_append_flush unposted]
      have member := List.mem_of_getElem? found
      have relies : id ∈ activity.relied := posting ▸ before
      rcases truthful.relied id (.inr ⟨activity, member, relies⟩) with
        done | waiting
      · exact .inl (settled done)
      · rcases List.mem_append.mp waiting with held | queued
        · exact .inr (.inl (hands ▸ held))
        · exact .inr (.inr queued)

theorem ThreadMove.reached_known
    (move : ThreadMove settings index state activity action after)
    (truthful : state.Truthful) {call : FlushCall} {ack id : Nat}
    (awaiting : .awaiting call ack ∈ after.threads)
    (acking : after.worker = .acking ack) (before : id ∈ call.before) :
    id ∈ after.settled := by
  have settled := move.settled
  rcases move.marks with
    ⟨new, threads, plain, -, -, worker⟩ | ⟨poster, posting, threads, -, -, worker⟩
  · have old := awaiting_of_set plain (threads ▸ awaiting)
    rcases worker with same | idle
    · exact settled (truthful.reached call ack old (same ▸ acking) id before)
    · rw [idle] at acking
      cases acking
  · rw [worker] at acking
    rw [threads] at awaiting
    rcases List.mem_or_eq_of_mem_set awaiting with old | same
    · exact settled (truthful.reached call ack old acking id before)
    · simp only [Activity.awaiting.injEq] at same
      obtain ⟨rfl, rfl⟩ := same
      exact absurd (truthful.fresh _ (.inr (.inl acking))) (Nat.lt_irrefl _)

theorem ThreadMove.fresh_known
    (move : ThreadMove settings index state activity action after)
    (truthful : state.Truthful) {ack : Nat}
    (marked : .flush ack ∈ after.queue ∨ after.worker = .acking ack ∨
      ∃ call, .awaiting call ack ∈ after.threads) :
    ack < after.acks := by
  rcases move.marks with
    ⟨new, threads, plain, acks, queue, worker⟩ |
      ⟨poster, posting, threads, acks, queue, worker⟩
  · rw [acks]
    apply truthful.fresh ack
    rcases marked with posted | acking | ⟨call, awaiting⟩
    · exact .inl (posted_before queue posted).1
    · rcases worker with same | idle
      · exact .inr (.inl (same ▸ acking))
      · rw [idle] at acking
        cases acking
    · exact .inr (.inr ⟨call, awaiting_of_set plain (threads ▸ awaiting)⟩)
  · rw [acks]
    have either : ack = state.acks ∨ (.flush ack ∈ state.queue ∨
        state.worker = .acking ack ∨
          ∃ call, .awaiting call ack ∈ state.threads) := by
      rcases marked with posted | acking | ⟨call, awaiting⟩
      · rw [queue] at posted
        rcases List.mem_append.mp posted with earlier | last
        · exact .inr (.inl earlier)
        · simp only [List.mem_singleton, Message.flush.injEq] at last
          exact .inl last
      · exact .inr (.inr (.inl (worker ▸ acking)))
      · rw [threads] at awaiting
        rcases List.mem_or_eq_of_mem_set awaiting with old | same
        · exact .inr (.inr (.inr ⟨call, old⟩))
        · simp only [Activity.awaiting.injEq] at same
          exact .inl same.2
    rcases either with rfl | earlier
    · exact Nat.lt_succ_self _
    · exact Nat.lt_succ_of_lt (truthful.fresh ack earlier)

/-- A caller is told `true` by an acknowledged marker, or where nothing is
left. -/
theorem ThreadMove.confirmed_known
    (found : state.threads[index]? = some activity)
    (move : ThreadMove settings index state activity action after)
    (closing : state.Closing)
    (caught : state.FindsTaken (.thread index action) → state.backlog = [])
    (truthful : state.Truthful) {id : Nat} (told : id ∈ after.confirmed) :
    id ∈ after.settled := by
  have settled := move.settled
  have member := List.mem_of_getElem? found
  rcases move.confirmed found id told with
    earlier | ⟨call, ack, rfl, acking, before⟩ | ⟨relies, reason⟩
  · exact settled (truthful.confirmed id earlier)
  · exact settled (truthful.reached call ack member acking id before)
  · have empty : state.backlog = [] := by
      rcases reason with taken | finished | ⟨unlocked, taken⟩
      · exact caught taken
      · exact closing.backlog finished
      · rcases closing.joined taken with locked | finished
        · rw [unlocked] at locked
          cases locked
        · exact closing.backlog finished
    rcases truthful.relied id (.inr ⟨activity, member, relies⟩) with
      done | waiting
    · exact settled done
    · rw [empty] at waiting
      cases waiting

theorem ThreadMove.truthful
    (found : state.threads[index]? = some activity)
    (move : ThreadMove settings index state activity action after)
    (closing : state.Closing)
    (caught : state.FindsTaken (.thread index action) → state.backlog = [])
    (truthful : state.Truthful) : after.Truthful := by
  constructor
  · intro id relied
    exact move.relied_known found truthful relied
  · intro call ack awaiting posted id before
    exact move.posted_known found truthful awaiting posted before
  · intro call ack awaiting acking id before
    exact move.reached_known truthful awaiting acking before
  · intro ack marked
    exact move.fresh_known truthful marked
  · intro id told
    exact move.confirmed_known found closing caught truthful told

end

/-- What the worker does with the head of the channel and with what it holds.
It dies with a backlog only where it panics or was not built. -/
theorem WorkerMove.progress {settings : Settings} {phase : Phase}
    {action : WorkerAction} {state after : State}
    (current : state.worker = phase)
    (move : WorkerMove settings state phase action after) :
    state.settled ⊆ after.settled ∧
      (after.queue = state.queue ∧ (∀ ack, after.worker ≠ .acking ack) ∧
          (∀ id ∈ phase.hands, id ∈ after.settled ∨ id ∈ after.worker.hands) ∨
        (∃ parcel rest, state.queue = .send parcel :: rest ∧ after.queue = rest ∧
          phase.hands = [] ∧ after.worker = .received parcel) ∨
        (∃ ack rest, state.queue = .flush ack :: rest ∧ after.queue = rest ∧
          phase.hands = [] ∧ after.worker = .acking ack) ∨
        state.Dies settings (.worker action) ∧
          ∃ counters posts, after = { state.die with counters, posts }) := by
  cases move with
  | built possible =>
      rcases possible with rfl | rfl <;>
        exact ⟨List.Subset.refl _, .inl ⟨rfl, by simp, by simp [Phase.hands]⟩⟩
  | unbuilt => exact ⟨List.Subset.refl _, .inr (.inr (.inr ⟨rfl, _, _, rfl⟩))⟩
  | replayPanicked panicked =>
      exact ⟨List.Subset.refl _,
        .inr (.inr (.inr ⟨⟨_, _, _, current, panicked⟩, _, _, rfl⟩))⟩
  | deliverPanicked panicked =>
      exact ⟨List.Subset.refl _,
        .inr (.inr (.inr ⟨⟨_, current, panicked⟩, _, _, rfl⟩))⟩
  | remove =>
      unfold unlinkReplayed
      split <;> [split; skip] <;>
        exact ⟨List.Subset.refl _, .inl ⟨rfl, by simp, by simp [Phase.hands]⟩⟩
  | @receive parcel rest queued =>
      exact ⟨List.Subset.refl _, .inr (.inl ⟨parcel, rest, queued, rfl, rfl, rfl⟩)⟩
  | @receiveFlush ack rest queued =>
      exact ⟨List.Subset.refl _,
        .inr (.inr (.inl ⟨ack, rest, queued, rfl, rfl, rfl⟩))⟩
  | answered delivered outcome | failed delivered outcome =>
      refine ⟨?_, .inl ⟨rfl, by simp, ?_⟩⟩
      · simp only [State.settled, State.delivered, List.subset_def,
          List.mem_append]
        grind
      · simp [Phase.hands, State.settled]
  | persisting persisted =>
      refine ⟨persisted.settled.1, .inl ⟨?_, by simp, by simp [Phase.hands]⟩⟩
      obtain ⟨files, names, counters, stored, dropped, spoiled, evicted, rfl⟩ :=
        persisted.frame
      rfl
  | persisted persisted =>
      refine ⟨persisted.settled.1, .inl ⟨?_, by simp, ?_⟩⟩
      · obtain ⟨files, names, counters, stored, dropped, spoiled, evicted, rfl⟩ :=
          persisted.frame
        rfl
      · intro id held
        simp only [Phase.hands, List.mem_singleton] at held
        exact .inl (held ▸ persisted.settled.2 rfl)
  | _ =>
      exact ⟨List.Subset.refl _, .inl ⟨rfl, by simp, by simp [Phase.hands]⟩⟩

/-- The worker changes none of what callers know. -/
theorem WorkerMove.callers {settings : Settings} {phase : Phase}
    {action : WorkerAction} {state after : State}
    (move : WorkerMove settings state phase action after) :
    after.threads = state.threads ∧ after.returned = state.returned ∧
      after.acks = state.acks ∧ after.confirmed = state.confirmed := by
  cases move with
  | remove =>
      unfold unlinkReplayed
      split <;> [split; skip] <;> exact ⟨rfl, rfl, rfl, rfl⟩
  | persisting persisted | persisted persisted =>
      obtain ⟨files, names, counters, stored, dropped, spoiled, evicted, rfl⟩ :=
        persisted.frame
      exact ⟨rfl, rfl, rfl, rfl⟩
  | _ => exact ⟨rfl, rfl, rfl, rfl⟩

section

variable {settings : Settings} {phase : Phase} {action : WorkerAction}
  {state after : State}

theorem WorkerMove.relied_known (current : state.worker = phase)
    (move : WorkerMove settings state phase action after)
    (caught : state.Dies settings (.worker action) → state.backlog = [])
    {id : Nat} (known : id ∈ state.settled ∨ id ∈ state.backlog) :
    id ∈ after.settled ∨ id ∈ after.backlog := by
  obtain ⟨settled, progress⟩ := move.progress current
  rcases known with done | waiting
  · exact .inl (settled done)
  · rw [State.backlog, channel, List.mem_append]
    rcases progress with
      ⟨queue, -, held⟩ | ⟨parcel, rest, queue, left, empty, worker⟩ |
        ⟨ack, rest, queue, left, empty, worker⟩ | ⟨dies, _, _, rfl⟩
    · rcases List.mem_append.mp waiting with holds | queued
      · rcases held id (current ▸ holds) with done | still
        · exact .inl done
        · exact .inr (.inl still)
      · rw [channel] at queued
        exact .inr (.inr (queue ▸ queued))
    · rw [State.backlog, current, empty, channel, queue] at waiting
      rw [left, worker]
      right
      simpa [Phase.hands, Message.id?] using waiting
    · rw [State.backlog, current, empty, channel, queue] at waiting
      rw [left, worker]
      right
      simpa [Phase.hands, Message.id?] using waiting
    · rw [caught dies] at waiting
      cases waiting

/-- What is ahead of a marker only leaves for the worker's hands. -/
theorem WorkerMove.posted_known (current : state.worker = phase)
    (move : WorkerMove settings state phase action after)
    (truthful : state.Truthful) {call : FlushCall} {ack id : Nat}
    (awaiting : .awaiting call ack ∈ state.threads)
    (posted : .flush ack ∈ after.queue) (before : id ∈ call.before) :
    id ∈ after.settled ∨ id ∈ after.worker.hands ∨ id ∈ ahead ack after.queue := by
  obtain ⟨settled, progress⟩ := move.progress current
  have earlier : Message.flush ack ∈ state.queue := by
    rcases progress with
      ⟨queue, -, -⟩ | ⟨parcel, rest, queue, left, -, -⟩ |
        ⟨other, rest, queue, left, -, -⟩ | ⟨dies, _, _, rfl⟩
    · exact queue ▸ posted
    · rw [queue]
      exact List.mem_cons_of_mem _ (left ▸ posted)
    · rw [queue]
      exact List.mem_cons_of_mem _ (left ▸ posted)
    · cases posted
  rcases truthful.posted call ack awaiting earlier id before with
    done | holds | waiting
  · exact .inl (settled done)
  · rcases progress with
      ⟨-, -, held⟩ | ⟨_, _, _, _, empty, _⟩ | ⟨_, _, _, _, empty, _⟩ |
      ⟨_, _, _, rfl⟩
    · rcases held id (current ▸ holds) with done | still
      · exact .inl done
      · exact .inr (.inl still)
    · rw [current, empty] at holds
      cases holds
    · rw [current, empty] at holds
      cases holds
    · cases posted
  · rcases progress with
      ⟨queue, -, -⟩ | ⟨parcel, rest, queue, left, -, worker⟩ |
        ⟨other, rest, queue, left, -, -⟩ | ⟨dies, _, _, rfl⟩
    · rw [queue]
      exact .inr (.inr waiting)
    · rw [queue, ahead] at waiting
      rw [left, worker]
      rcases List.mem_cons.mp waiting with first | later
      · exact .inr (.inl (List.mem_singleton.mpr first))
      · exact .inr (.inr later)
    · rw [queue, ahead] at waiting
      rw [left]
      split at waiting
      · cases waiting
      · exact .inr (.inr waiting)
    · cases posted

/-- The marker the worker takes was at the head, with nothing ahead of it. -/
theorem WorkerMove.reached_known (current : state.worker = phase)
    (move : WorkerMove settings state phase action after)
    (truthful : state.Truthful) {call : FlushCall} {ack id : Nat}
    (awaiting : .awaiting call ack ∈ state.threads)
    (acking : after.worker = .acking ack) (before : id ∈ call.before) :
    id ∈ after.settled := by
  obtain ⟨settled, progress⟩ := move.progress current
  rcases progress with
    ⟨-, plain, -⟩ | ⟨parcel, rest, -, -, -, worker⟩ |
      ⟨other, rest, queue, left, empty, worker⟩ | ⟨dies, _, _, rfl⟩
  · exact absurd acking (plain ack)
  · rw [worker] at acking
    cases acking
  · rw [worker, Phase.acking.injEq] at acking
    subst acking
    have posted : Message.flush other ∈ state.queue := by
      rw [queue]
      exact List.mem_cons_self
    rcases truthful.posted call other awaiting posted id before with
      done | holds | waiting
    · exact settled done
    · rw [current, empty] at holds
      cases holds
    · rw [queue, ahead, if_pos rfl] at waiting
      cases waiting
  · cases acking

/-- The worker makes no marker. -/
theorem WorkerMove.marked_before (current : state.worker = phase)
    (move : WorkerMove settings state phase action after) {ack : Nat}
    (marked : .flush ack ∈ after.queue ∨ after.worker = .acking ack) :
    .flush ack ∈ state.queue := by
  obtain ⟨-, progress⟩ := move.progress current
  rcases progress with
    ⟨queue, plain, -⟩ | ⟨parcel, rest, queue, left, -, worker⟩ |
      ⟨other, rest, queue, left, -, worker⟩ | ⟨dies, _, _, rfl⟩
  · rcases marked with posted | acking
    · exact queue ▸ posted
    · exact absurd acking (plain ack)
  · rw [queue]
    rcases marked with posted | acking
    · exact List.mem_cons_of_mem _ (left ▸ posted)
    · rw [worker] at acking
      cases acking
  · rw [queue]
    rcases marked with posted | acking
    · exact List.mem_cons_of_mem _ (left ▸ posted)
    · rw [worker, Phase.acking.injEq] at acking
      rw [acking]
      exact List.mem_cons_self
  · rcases marked with posted | acking
    · cases posted
    · cases acking

theorem WorkerMove.truthful (current : state.worker = phase)
    (move : WorkerMove settings state phase action after)
    (caught : state.Dies settings (.worker action) → state.backlog = [])
    (truthful : state.Truthful) : after.Truthful := by
  obtain ⟨threads, returned, acks, confirmed⟩ := move.callers
  constructor
  · intro id relied
    rw [threads, returned] at relied
    exact move.relied_known current caught (truthful.relied id relied)
  · intro call ack awaiting posted id before
    rw [threads] at awaiting
    exact move.posted_known current truthful awaiting posted before
  · intro call ack awaiting acking id before
    rw [threads] at awaiting
    exact move.reached_known current truthful awaiting acking before
  · intro ack marked
    rw [acks]
    rw [threads] at marked
    apply truthful.fresh ack
    rcases marked with posted | acking | awaiting
    · exact .inl (move.marked_before current (.inl posted))
    · exact .inl (move.marked_before current (.inr acking))
    · exact .inr (.inr awaiting)
  · intro id told
    rw [confirmed] at told
    exact (move.progress current).1 (truthful.confirmed id told)

end

end State

section

variable {settings : Settings} {state : State}

theorem truthful_of_reach
    (reached : (machine settings).Reach (State.Caught settings) state) :
    state.Truthful := by
  refine reached.invariant
    (fun _ earlier => closing_of_reachable earlier.reachable) ?_ ?_
  · rintro state ⟨calls, directory, spawned, -, -, rfl⟩
    have plain : ∀ activity ∈ List.replicate calls Activity.idle,
        activity = .idle := fun activity => List.eq_of_mem_replicate
    constructor
    · rintro id (returned | ⟨activity, member, relied⟩)
      · cases returned
      · rw [plain activity member] at relied
        cases relied
    · intro call ack awaiting posted
      cases posted
    · intro call ack awaiting
      cases plain _ awaiting
    · rintro ack (posted | acking | ⟨call, awaiting⟩)
      · cases posted
      · cases spawned <;> cases acking
      · cases plain _ awaiting
    · intro id told
      cases told
  · intro before label after closing truthful caught moved
    rcases step_cases moved with
      ⟨index, activity, action, rfl, found, move⟩ | ⟨action, rfl, move⟩
    · exact move.truthful found closing (fun taken => caught (.inr taken)) truthful
    · exact move.truthful rfl (fun dies => caught (.inl dies)) truthful

/-- In every run in which a dying worker, and a plain flush that finds the
sender taken, leave no envelope behind: an envelope whose send had returned
before the call of a flush or shutdown that answered `true` has left the
channel, and the worker has finished with it. -/
theorem confirmed_settled (settings : Settings) (state : State)
    (reached : (machine settings).Reach (State.Caught settings) state) :
    ∀ id ∈ state.confirmed, id ∉ state.channel ∧ id ∉ state.worker.hands ∧
      (id ∈ state.answered ∨ id ∈ state.stored ∨ id ∈ state.dropped) := by
  intro id told
  have done := (truthful_of_reach reached).confirmed id told
  have total := custody_eq reached.reachable id
  have once : (List.range state.sent).count id ≤ 1 :=
    List.nodup_iff_count_le_one.mp List.nodup_range id
  rw [State.settled, List.append_assoc, List.mem_append, List.mem_append] at done
  have counted : 0 < state.answered.count id + state.stored.count id +
      state.dropped.count id := by
    rcases done with answered | stored | dropped
    · have := List.count_pos_iff.mpr answered
      omega
    · have := List.count_pos_iff.mpr stored
      omega
    · have := List.count_pos_iff.mpr dropped
      omega
  simp only [State.custody, State.holding] at total
  refine ⟨List.count_eq_zero.mp (by omega), List.count_eq_zero.mp (by omega), done⟩

end

/-- A channel of this size and no offline queue. -/
def unspooled (transportQueueSize : Nat) : Settings :=
  { codec := sampleCodec, spool := none, transportQueueSize }

def twoThreads : State := { threads := [.idle, .idle] }

theorem twoThreads_starts : Starts twoThreads :=
  ⟨2, [], true, List.nodup_nil, rfl, rfl⟩

/-- The second thread shuts down while the worker is still starting; then the
first one's flush answers `true` with its own envelope in the channel. -/
theorem takenFlush_lies :
    ∃ state, (machine (unspooled 2)).Reachable state ∧ 0 ∈ state.confirmed ∧
      0 ∈ state.channel := by
  have run :
      ((machine (unspooled 2)).exec twoThreads
        [.thread 0 (.send sampleEnvelope), .thread 0 .lock,
          .thread 0 (.offer false), .thread 0 .count, .thread 1 .shutdown,
          .thread 1 .clone, .thread 1 .post, .thread 1 .timeout,
          .thread 1 .take, .thread 0 .flush, .thread 0 .clone]).map
          (fun state => (state.confirmed, state.channel)) =
        some ([0], [0]) := by decide
  obtain ⟨state, executed, seen⟩ := Option.map_eq_some_iff.mp run
  simp only [Prod.mk.injEq] at seen
  exact ⟨state, Library.Machine.reachable_of_exec twoThreads_starts executed,
    by simp [seen.1], by simp [seen.2]⟩

/-- The sender is there and the worker does not end in this step. -/
def undisturbed (state : State) : Label → Bool
  | .worker (.build succeeds) => succeeds
  | .worker (.replay _ _) => false
  | .worker (.deliver _ _) => false
  | _ => state.senderOpen

theorem caught_of_undisturbed {settings : Settings} (state : State)
    (label : Label) (passed : undisturbed state label = true) :
    state.Caught settings label := by
  rintro (dies | taken)
  · cases label with
    | thread index action => cases dies
    | worker action =>
        cases action <;> simp_all [State.Dies, undisturbed]
  · cases label with
    | thread index action =>
        cases action <;> simp_all [State.FindsTaken, undisturbed]
    | worker action => cases taken

/-- An acknowledged flush after an envelope that found no room. -/
theorem confirmed_settled_acknowledged :
    ∃ state : State, 0 ∈ state.confirmed ∧
      ∀ id ∈ state.confirmed, id ∉ state.channel ∧ id ∉ state.worker.hands ∧
        (id ∈ state.answered ∨ id ∈ state.stored ∨ id ∈ state.dropped) := by
  have run :
      ((machine (unspooled 1)).execWhere undisturbed twoThreads
        [.thread 1 .flush, .thread 1 .clone, .thread 1 .post,
          .thread 0 (.send sampleEnvelope), .thread 0 .lock,
          .thread 0 (.offer false), .thread 0 (.spool (.begin true none)),
          .worker (.build true), .worker .receive, .thread 1 .acknowledge,
          .thread 1 .flush, .thread 1 .clone, .thread 1 .post,
          .worker .receive, .thread 1 .acknowledge]).map State.confirmed =
        some [0] := by decide
  obtain ⟨state, executed, seen⟩ := Option.map_eq_some_iff.mp run
  exact ⟨state, by simp [seen],
    confirmed_settled (unspooled 1) state
      ((Library.Machine.Reach.start twoThreads_starts).execWhere
        caught_of_undisturbed executed)⟩

end Transport

end Allstak
