import Allstak.Library.Pool
import Allstak.Transport.Moves

/-!
# Shutting down

The worker ends only with an empty channel, stays ended, and is joined by the
one thread that took its handle.
-/

namespace Allstak

namespace Transport

namespace State

/-- What closing the transport means in a state. -/
structure Closing (state : State) : Prop where
  joined : state.handle = false →
    state.handleLocked = true ∨ state.worker.isOver = true
  emptied : state.worker.isOver = true → state.queue = []
  disconnected : state.worker = .exited →
    state.senderOpen = false ∧ state.senderCloned = false

/-- The thread's next activity: it comes to hold a clone only from the open
sender, and lets go of the handle only when the worker is over. -/
theorem ThreadMove.threads {settings : Settings} {index : Nat}
    {activity : Activity} {action : ThreadAction} {state after : State}
    (move : ThreadMove settings index state activity action after) :
    ∃ new, after.threads = state.threads.set index new ∧
      (new.holdsClone = true →
        activity.holdsClone = true ∨ state.senderOpen = true) ∧
      (activity.holdsHandle = true → state.worker.isOver = true) ∧
      (after.handle = state.handle ∨ new.holdsHandle = true) := by
  cases move with
  | spooling persisted =>
      obtain ⟨files, names, counters, stored, dropped, spoiled, evicted, rfl⟩ :=
        persisted.frame
      exact ⟨_, rfl, by simp [Activity.holdsClone, Activity.holdsHandle, setThread]⟩
  | spooled persisted =>
      obtain ⟨files, names, counters, stored, dropped, spoiled, evicted, rfl⟩ :=
        persisted.frame
      exact ⟨_, rfl, by
        simp [Activity.holdsClone, Activity.holdsHandle, endSend, setThread]⟩
  | taken sender | unheard gone | acknowledge acking | timeout =>
      rw [endFlush_eq]
      refine ⟨_, rfl, ?_⟩
      split <;> simp [Activity.holdsClone, Activity.holdsHandle]
  | closed unlocked taken =>
      exact ⟨_, rfl, by simp [Activity.holdsClone, Activity.holdsHandle, endShutdown,
        confirm, setThread]⟩
  | join finished =>
      exact ⟨_, rfl, by simp [Activity.holdsClone, Activity.holdsHandle, endShutdown,
        confirm, setThread, finished]⟩
  | clone sender =>
      exact ⟨_, rfl, by
        simp [Activity.holdsClone, Activity.holdsHandle, setThread, sender]⟩
  | _ =>
      exact ⟨_, rfl, by
        simp [Activity.holdsClone, Activity.holdsHandle, setThread, endSend]⟩

/-- A thread leaves the worker alone, except to take its acknowledgement. -/
theorem ThreadMove.worker {settings : Settings} {index : Nat}
    {activity : Activity} {action : ThreadAction} {state after : State}
    (move : ThreadMove settings index state activity action after) :
    after.worker = state.worker ∨
      (∃ ack, state.worker = .acking ack) ∧ after.worker = .idle := by
  cases move with
  | spooling persisted | spooled persisted =>
      obtain ⟨files, names, counters, stored, dropped, spoiled, evicted, rfl⟩ :=
        persisted.frame
      exact .inl rfl
  | taken sender | unheard gone | timeout =>
      rw [endFlush_eq]
      exact .inl rfl
  | @acknowledge call ack acking =>
      rw [endFlush_eq]
      exact .inr ⟨⟨ack, acking⟩, rfl⟩
  | _ => exact .inl rfl

/-- The channel grows only through the open sender or a clone of it, and not
once the receiver is dropped. -/
theorem ThreadMove.queue {settings : Settings} {index : Nat}
    {activity : Activity} {action : ThreadAction} {state after : State}
    (move : ThreadMove settings index state activity action after) :
    (after.queue = state.queue ∨
        state.worker.isGone = false ∧
          (state.senderOpen = true ∨ activity.holdsClone = true)) ∧
      (after.senderOpen = true → state.senderOpen = true) := by
  cases move with
  | spooling persisted | spooled persisted =>
      obtain ⟨files, names, counters, stored, dropped, spoiled, evicted, rfl⟩ :=
        persisted.frame
      exact ⟨.inl rfl, id⟩
  | accepted sender alive => exact ⟨.inr ⟨alive, .inl sender⟩, id⟩
  | post alive => exact ⟨.inr ⟨alive, .inr rfl⟩, id⟩
  | taken sender | unheard gone | timeout | acknowledge acking =>
      rw [endFlush_eq]
      exact ⟨.inl rfl, id⟩
  | take free => exact ⟨.inl rfl, fun opened => Bool.noConfusion opened⟩
  | _ => exact ⟨.inl rfl, id⟩

theorem ThreadMove.closing {settings : Settings} {index : Nat}
    {activity : Activity} {action : ThreadAction} {state after : State}
    (found : state.threads[index]? = some activity)
    (move : ThreadMove settings index state activity action after)
    (closing : state.Closing) : after.Closing := by
  obtain ⟨new, threads, cloned, released, handle⟩ := move.threads
  have worker := move.worker
  obtain ⟨queue, sender⟩ := move.queue
  have finished : after.worker.isOver = state.worker.isOver := by
    rcases worker with same | ⟨⟨ack, acking⟩, idle⟩
    · rw [same]
    · rw [acking, idle]
      rfl
  constructor
  · intro taken
    rw [finished]
    rcases handle with same | locks
    · rcases closing.joined (same ▸ taken) with locked | ended
      · cases holds : activity.holdsHandle with
        | true => exact .inr (released holds)
        | false =>
            left
            unfold handleLocked at locked ⊢
            rw [threads]
            exact Library.Pool.any_set_of_lacks new found holds locked
      · exact .inr ended
    · left
      rw [handleLocked]
      rw [threads]
      refine List.any_eq_true.mpr ⟨new, ?_, locks⟩
      have inside : index < state.threads.length :=
        (List.getElem?_eq_some_iff.mp found).1
      exact List.mem_iff_getElem?.mpr ⟨index, by simp [inside]⟩
  · intro ended
    rw [finished] at ended
    have empty := closing.emptied ended
    rcases queue with same | ⟨alive, writer⟩
    · rw [same, empty]
    · have exited : state.worker = .exited := by
        cases phase : state.worker <;> simp_all [Phase.isOver, Phase.isGone]
      obtain ⟨closed, uncloned⟩ := closing.disconnected exited
      rcases writer with opened | clone
      · rw [closed] at opened
        cases opened
      · have none := List.any_eq_false.mp uncloned activity
          (List.mem_of_getElem? found)
        exact absurd clone none
  · intro exited
    have before : state.worker = .exited := by
      rcases worker with same | ⟨-, idle⟩
      · rw [← same, exited]
      · rw [idle] at exited
        cases exited
    obtain ⟨closed, uncloned⟩ := closing.disconnected before
    constructor
    · cases opened : after.senderOpen with
      | false => rfl
      | true =>
          have earlier := sender opened
          rw [closed] at earlier
          cases earlier
    · rw [senderCloned]
      rw [threads]
      apply Library.Pool.any_set_eq_false uncloned
      cases clone : new.holdsClone with
      | false => rfl
      | true =>
          rcases cloned clone with had | opened
          · have none := List.any_eq_false.mp uncloned activity
              (List.mem_of_getElem? found)
            exact absurd had none
          · rw [closed] at opened
            cases opened

/-- A worker that moves is there. -/
theorem WorkerMove.alive {settings : Settings} {phase : Phase}
    {action : WorkerAction} {state after : State}
    (move : WorkerMove settings state phase action after) :
    phase.isGone = false := by
  cases move <;> rfl

/-- A worker that moves is not over yet, and ends with an empty channel. -/
theorem WorkerMove.ending {settings : Settings} {phase : Phase}
    {action : WorkerAction} {state after : State}
    (move : WorkerMove settings state phase action after) :
    phase.isOver = false ∧
      after.threads = state.threads ∧ after.handle = state.handle ∧
      (after.worker.isOver = true → after.queue = []) ∧
      (after.worker = .exited →
        after.senderOpen = false ∧ state.senderCloned = false) := by
  cases move with
  | built possible =>
      rcases possible with rfl | rfl <;> simp [Phase.isOver]
  | unbuilt => simp [Phase.isOver, die]
  | replayPanicked => simp [Phase.isOver, perish, die]
  | deliverPanicked => simp [Phase.isOver, perish, die]
  | exit queued closed uncloned => simp [Phase.isOver, queued, closed, uncloned]
  | remove =>
      unfold unlinkReplayed
      split <;> [split; skip] <;> simp [Phase.isOver]
  | persisting persisted | persisted persisted =>
      obtain ⟨files, names, counters, stored, dropped, spoiled, evicted, rfl⟩ :=
        persisted.frame
      simp [Phase.isOver]
  | _ => simp [Phase.isOver, State.delivered]

theorem WorkerMove.closing {settings : Settings} {phase : Phase}
    {action : WorkerAction} {state after : State}
    (current : state.worker = phase)
    (move : WorkerMove settings state phase action after)
    (closing : state.Closing) : after.Closing := by
  obtain ⟨running, threads, handle, emptied, disconnected⟩ := move.ending
  refine ⟨?_, emptied, ?_⟩
  · intro taken
    rcases closing.joined (handle ▸ taken) with locked | ended
    · left
      unfold handleLocked at locked ⊢
      rw [threads, locked]
    · rw [current, running] at ended
      cases ended
  · intro exited
    obtain ⟨closed, uncloned⟩ := disconnected exited
    refine ⟨closed, ?_⟩
    unfold senderCloned at uncloned ⊢
    rw [threads, uncloned]

end State

theorem closing_of_reachable {settings : Settings} {state : State}
    (reached : (machine settings).Reachable state) : state.Closing := by
  apply reached.induct
  · rintro state ⟨calls, directory, spawned, -, -, rfl⟩
    cases spawned with
    | true => exact ⟨by simp, by simp [Phase.isOver], by simp⟩
    | false => exact ⟨by simp [Phase.isOver], by simp, by simp⟩
  · intro before label after closing _ moved
    rcases step_cases moved with
      ⟨index, activity, action, rfl, found, move⟩ | ⟨action, rfl, move⟩
    · exact move.closing found closing
    · exact move.closing rfl closing

end Transport

end Allstak
