import Allstak.SessionSections
import Allstak.SessionSummary
import Allstak.Library.Pool

/-!
# Errors and the sessions they mark

An event is stamped with the active session in one section of its capture and
marks the session active in a later one; an end takes the session in one
section and is sent after it.
-/

namespace Allstak

namespace SessionMarking

abbrev activeSession (hub : HubId) (state : State) : Option Session :=
  (state.world.hubs hub).session

/-- The stamp of an error-level event that came without an id and has not marked
a session yet. -/
def Work.pending : Work → Option (Option String)
  | .marking event stamp => if event.sessionId.isNone then some stamp else none
  | _ => none

def pending (state : State) : List (Option String) :=
  state.threads.filterMap Work.pending

/-- The end a thread is about to send. -/
def Work.ending : Work → Option (Option String × Option String)
  | .sending _ session _ =>
      some (some session.sessionId, some session.finalStatus.asStr)
  | _ => none

/-- The ends that are sent or about to be. -/
def endings (state : State) : List (Option String × Option String) :=
  state.threads.filterMap Work.ending ++
    SessionSummary.sessionEnds state.world.sent

/-- Ids are used once: the active session's is on no end. -/
structure Distinct (hub : HubId) (state : State) : Prop where
  stamped : ∀ id ∈ state.stamped, id ∈ state.used
  ended : ∀ id status, (some id, status) ∈ endings state → id ∈ state.used
  active : ∀ session, activeSession hub state = some session →
    session.sessionId ∈ state.used ∧
      (∀ status, (some session.sessionId, status) ∉ endings state) ∧
      (session.status = .ok ∨ session.status = .errored)

/-- An event that still has to mark was stamped with the active session; a
session that is still ok although an event was stamped with it will be marked;
and no session with a stamped event has exited. -/
structure Paired (hub : HubId) (state : State) : Prop where
  pending : ∀ stamp ∈ pending state, ∀ session,
    activeSession hub state = some session → stamp = some session.sessionId
  stamped : ∀ session, activeSession hub state = some session →
    session.sessionId ∈ state.stamped → session.status = .ok →
    some session.sessionId ∈ SessionMarking.pending state
  marked : ∀ mark ∈ state.marked,
    mark.preset.isSome ∨ mark.stamp = some mark.session
  ended : ∀ id ∈ state.stamped, (some id, some "exited") ∉ endings state

/-- A step that neither changes the session nor stamps, marks or ends. -/
structure Quiet (hub : HubId) (before after : State) : Prop where
  active : activeSession hub after = activeSession hub before
  used : after.used = before.used
  stamped : after.stamped = before.stamped
  marked : after.marked = before.marked
  pending : ∀ stamp, stamp ∈ pending after ↔ stamp ∈ pending before
  ended : ∀ entry ∈ endings after, entry ∈ endings before

/-- A step that uses no id and ends nothing new, and after which the session is
the one that was active. -/
theorem Distinct.kept {hub : HubId} {before after : State}
    (held : Distinct hub before) (used : after.used = before.used)
    (stamped : ∀ id ∈ after.stamped, id ∈ before.used)
    (ended : ∀ entry ∈ endings after, entry ∈ endings before)
    (active : ∀ session, activeSession hub after = some session →
      (session.status = .ok ∨ session.status = .errored) ∧
        ∃ old, activeSession hub before = some old ∧
          old.sessionId = session.sessionId) :
    Distinct hub after := by
  constructor
  · rw [used]
    exact stamped
  · intro id status member
    rw [used]
    exact held.ended id status (ended _ member)
  · intro session found
    obtain ⟨status, old, wasActive, id⟩ := active session found
    obtain ⟨usedId, apart, -⟩ := held.active old wasActive
    rw [used, ← id]
    exact ⟨usedId, fun status member => apart status (ended _ member), status⟩

theorem Distinct.quiet {hub : HubId} {before after : State}
    (held : Distinct hub before) (quiet : Quiet hub before after) :
    Distinct hub after := by
  apply held.kept quiet.used
  · rw [quiet.stamped]
    exact held.stamped
  · exact quiet.ended
  · intro session found
    rw [quiet.active] at found
    exact ⟨(held.active session found).2.2, session, found, rfl⟩

theorem Paired.quiet {hub : HubId} {before after : State}
    (held : Paired hub before) (quiet : Quiet hub before after) :
    Paired hub after := by
  constructor
  · intro stamp member session found
    rw [quiet.active] at found
    exact held.pending stamp ((quiet.pending stamp).mp member) session found
  · intro session found stamped ok
    rw [quiet.active] at found
    rw [quiet.stamped] at stamped
    exact (quiet.pending _).mpr (held.stamped session found stamped ok)
  · rw [quiet.marked]
    exact held.marked
  · rw [quiet.stamped]
    intro id stamped member
    exact held.ended id stamped (quiet.ended _ member)

private theorem mem_pending_after {before after : State} {thread : Nat}
    {next : Work}
    {stamp : Option String} (moved : after.threads = before.threads.set thread next)
    (member : stamp ∈ pending after) :
    next.pending = some stamp ∨ stamp ∈ pending before := by
  rw [pending, moved] at member
  exact Library.Pool.mem_filterMap_set member

private theorem mem_pending_of_before {before after : State} {thread : Nat}
    {old next : Work} {stamp : Option String}
    (found : before.threads[thread]? = some old)
    (moved : after.threads = before.threads.set thread next)
    (member : stamp ∈ pending before) :
    old.pending = some stamp ∨ stamp ∈ pending after := by
  rw [pending, moved]
  exact Library.Pool.mem_filterMap_of_set next found member

/-- A thread that is about to send nothing new, and ends that were sent or about
to be sent before. -/
theorem mem_endings_after {before after : State} {thread : Nat} {next : Work}
    (moved : after.threads = before.threads.set thread next)
    (silent : next.ending = none)
    (sent : ∀ entry ∈ SessionSummary.sessionEnds after.world.sent,
      entry ∈ endings before) :
    ∀ entry ∈ endings after, entry ∈ endings before := by
  intro entry member
  rcases List.mem_append.mp member with waiting | gone
  · rw [moved] at waiting
    rcases Library.Pool.mem_filterMap_set waiting with new | old
    · rw [silent] at new
      cases new
    · exact List.mem_append_left _ old
  · exact sent entry gone

theorem Quiet.of_move {hub : HubId} {before after : State} {thread : Nat}
    {old next : Work} (found : before.threads[thread]? = some old)
    (moved : after.threads = before.threads.set thread next)
    (idleBefore : old.pending = none) (idleAfter : next.pending = none)
    (silent : next.ending = none)
    (session : activeSession hub after = activeSession hub before)
    (used : after.used = before.used) (stamped : after.stamped = before.stamped)
    (marked : after.marked = before.marked)
    (sent : ∀ entry ∈ SessionSummary.sessionEnds after.world.sent,
      entry ∈ endings before) :
    Quiet hub before after := by
  refine ⟨session, used, stamped, marked, ?_, mem_endings_after moved silent sent⟩
  intro stamp
  constructor
  · intro member
    rcases mem_pending_after moved member with new | old
    · rw [idleAfter] at new
      cases new
    · exact old
  · intro member
    rcases mem_pending_of_before found moved member with gone | still
    · rw [idleBefore] at gone
      cases gone
    · exact still

theorem Quiet.of_return {hub : HubId} {before after : State} {thread : Nat}
    {old : Work} (found : before.threads[thread]? = some old)
    (moved : after.threads = before.threads.set thread .idle)
    (idle : old.pending = none)
    (session : activeSession hub after = activeSession hub before)
    (used : after.used = before.used) (stamped : after.stamped = before.stamped)
    (marked : after.marked = before.marked)
    (sent : ∀ entry ∈ SessionSummary.sessionEnds after.world.sent,
      entry ∈ endings before) :
    Quiet hub before after :=
  .of_move found moved idle rfl rfl session used stamped marked sent

theorem call_quiet {call : Call} {client : ClientId}
    (found : state.threads[thread]? = some .idle) :
    Quiet hub state { state with
      threads := state.threads.set thread (call.begin client) } := by
  apply Quiet.of_move found rfl rfl
  · cases call <;> rfl
  · cases call <;> rfl
  · rfl
  · rfl
  · rfl
  · rfl
  · exact fun entry member => List.mem_append_right _ member

/-- The hub puts the active session's id on an event without one. -/
theorem mem_stampOf {hub : Hub} {event : ErrorEvent} {id : String}
    (member : id ∈ stampOf hub event) :
    event.isErrorLevel = true ∧ event.sessionId = none ∧
      ∃ session, hub.session = some session ∧ id = session.sessionId := by
  rw [stampOf] at member
  split at member
  · rename_i conditions
    obtain ⟨errs, open_⟩ := Bool.and_eq_true_iff.mp conditions
    refine ⟨errs, Option.isNone_iff_eq_none.mp open_, ?_⟩
    cases present : hub.session with
    | none => simp [present] at member
    | some session => exact ⟨session, rfl, by simpa [present] using member⟩
  · cases member

/-- The mark that follows a stamp carries the active session's id. -/
theorem pending_after_stamp {open_ : Session} {event : ErrorEvent}
    {stamp : Option String} (present : activeSession hub state = some open_) :
    Work.pending (if event.isErrorLevel then
        .marking event ((state.world.hubs hub).stampEvent event).sessionId
      else .recording event.eventId) = some stamp ↔
      event.isErrorLevel = true ∧ event.sessionId = none ∧
        stamp = some open_.sessionId := by
  change (state.world.hubs hub).session = some open_ at present
  cases errs : event.isErrorLevel with
  | false => simp [Work.pending]
  | true =>
      cases preset : event.sessionId with
      | some id => simp [Work.pending, preset]
      | none => simp [Work.pending, preset, Hub.stampEvent, present, eq_comm]

/-- A mark is made on the active session. -/
theorem mem_markOf {hub : Hub} {event : ErrorEvent} {stamp : Option String}
    {mark : Mark} (member : mark ∈ markOf hub event stamp) :
    ∃ session, hub.session = some session ∧
      mark = { preset := event.sessionId, stamp, session := session.sessionId } := by
  rw [markOf] at member
  split at member
  · rename_i session present
    split at member
    · exact ⟨session, present, List.mem_singleton.mp member⟩
    · cases member
  · cases member

private theorem markErrored_of_active {status : SessionStatus}
    (kept : status = .ok ∨ status = .errored) :
    (if status = .ok then .errored else status) = SessionStatus.errored := by
  rcases kept with rfl | rfl <;> rfl

section

variable [UnicodeTables] {hub : HubId} {state : State} {thread : Nat}

/-- A call that starts, or returns for lack of a client, or a section. -/
theorem step_cases {label : Label} {after : State}
    (moved : step hub state label = some after) :
    after = state ∨
      (∃ thread call client, state.threads[thread]? = some .idle ∧
        after = { state with
          threads := state.threads.set thread (Call.begin client call) }) ∨
      ∃ thread work middle next, label = .proceed thread ∧
        state.threads[thread]? = some work ∧
        runSection hub state work = some (middle, next) ∧
        after = { middle with threads := state.threads.set thread next } := by
  cases label with
  | call thread call =>
      simp only [step] at moved
      split at moved
      · rename_i idle
        split at moved
        · exact .inl (Option.some.inj moved).symm
        · rename_i client _
          exact .inr (.inl ⟨thread, call, client, idle, (Option.some.inj moved).symm⟩)
      · cases moved
  | proceed thread =>
      obtain ⟨work, found, later⟩ := Option.bind_eq_some_iff.mp moved
      obtain ⟨⟨middle, next⟩, ran, same⟩ := Option.map_eq_some_iff.mp later
      exact .inr (.inr ⟨thread, work, middle, next, rfl, found, ran, same.symm⟩)

private theorem captureWith_ends (world : World) (client : ClientId)
    (event : ErrorEvent) (scope : Scope) :
    SessionSummary.sessionEnds (world.captureWith hub client event scope).sent =
      SessionSummary.sessionEnds world.sent := by
  rw [World.captureWith, SessionSummary.sessionEnds_ingest,
    SessionSummary.captureEvent_ends, List.append_nil]

private theorem sendSessionStart_ends (client : Client) (start : SessionStart)
    (counters : Counters) :
    (client.sendSessionStart start counters).2.filterMap
      SessionSummary.sessionEnd = [] := by
  apply List.filterMap_eq_nil_iff.mpr
  intro envelope handed
  have path := SessionPairing.deliver_paths handed
  simp [SessionSummary.sessionEnd, path]

/-- A stamp carries the active session's id, and the mark is still to come. -/
theorem stamping_kept {client : ClientId} {event : ErrorEvent}
    {middle after : State} {next : Work}
    (found : state.threads[thread]? = some (.stamping client event))
    (ran : runSection hub state (.stamping client event) = some (middle, next))
    (same : after = { middle with threads := state.threads.set thread next })
    (distinct : Distinct hub state) (paired : Paired hub state) :
    Distinct hub after ∧ Paired hub after := by
  cases ran
  set next : Work := if event.isErrorLevel then
    .marking event ((state.world.hubs hub).stampEvent event).sessionId
    else .recording event.eventId with nextIs
  have threads : after.threads = state.threads.set thread next := by rw [same]
  have session : activeSession hub after = activeSession hub state := by
    rw [same]
    rfl
  have used : after.used = state.used := by rw [same]
  have stamped : after.stamped =
      state.stamped ++ stampOf (state.world.hubs hub) event := by rw [same]
  have marked : after.marked = state.marked := by rw [same]
  have ended : ∀ entry ∈ endings after, entry ∈ endings state := by
    apply mem_endings_after threads
    · rw [nextIs]
      split <;> rfl
    · rw [same, captureWith_ends]
      exact fun entry member => List.mem_append_right _ member
  have fresh : ∀ id ∈ after.stamped, id ∈ state.stamped ∨
      event.isErrorLevel = true ∧ event.sessionId = none ∧
        ∃ session, activeSession hub state = some session ∧
          id = session.sessionId := by
    rw [stamped]
    intro id member
    exact (List.mem_append.mp member).imp_right mem_stampOf
  constructor
  · apply distinct.kept used
    · intro id member
      rcases fresh id member with old | ⟨_, _, open_, present, rfl⟩
      · exact distinct.stamped id old
      · exact (distinct.active open_ present).1
    · exact ended
    · intro open_ present
      rw [session] at present
      exact ⟨(distinct.active open_ present).2.2, open_, present, rfl⟩
  · constructor
    · intro stamp member open_ present
      rw [session] at present
      rcases mem_pending_after threads member with new | old
      · rw [nextIs, pending_after_stamp present] at new
        exact new.2.2
      · exact paired.pending stamp old open_ present
    · intro open_ present member ok
      rw [session] at present
      rcases fresh _ member with old | ⟨errs, preset, _⟩
      · rcases mem_pending_of_before found threads
          (paired.stamped open_ present old ok) with gone | still
        · cases gone
        · exact still
      · rw [pending, threads]
        apply Library.Pool.mem_filterMap_set_self found
        rw [nextIs]
        exact (pending_after_stamp present).mpr ⟨errs, preset, rfl⟩
    · rw [marked]
      exact paired.marked
    · intro id member exited
      rcases fresh id member with old | ⟨_, _, open_, present, rfl⟩
      · exact paired.ended id old (ended _ exited)
      · exact (distinct.active open_ present).2.1 _ (ended _ exited)

/-- A mark makes the active session errored; when it was ok, the event was
stamped with it or came with an id. -/
theorem marking_kept {event : ErrorEvent} {stamp : Option String}
    {middle after : State} {next : Work}
    (found : state.threads[thread]? = some (.marking event stamp))
    (ran : runSection hub state (.marking event stamp) = some (middle, next))
    (same : after = { middle with threads := state.threads.set thread next })
    (distinct : Distinct hub state) (paired : Paired hub state) :
    Distinct hub after ∧ Paired hub after := by
  cases ran
  have threads : after.threads =
      state.threads.set thread (.recording event.eventId) := by rw [same]
  have session : activeSession hub after =
      (activeSession hub state).map Session.markErrored := by
    rw [same]
    change ((state.world.onHub hub Hub.markSessionErrored).hubs hub).session = _
    rw [World.onHub_hubs_self]
    rfl
  have used : after.used = state.used := by rw [same]
  have stamped : after.stamped = state.stamped := by rw [same]
  have marked : after.marked =
      state.marked ++ markOf (state.world.hubs hub) event stamp := by rw [same]
  have ended : ∀ entry ∈ endings after, entry ∈ endings state := by
    apply mem_endings_after threads rfl
    rw [same]
    exact fun entry member => List.mem_append_right _ member
  have errored : ∀ open_, activeSession hub after = some open_ →
      open_.status = .errored ∧ ∃ old, activeSession hub state = some old ∧
        old.sessionId = open_.sessionId := by
    intro open_ present
    rw [session] at present
    obtain ⟨old, wasActive, rfl⟩ := Option.map_eq_some_iff.mp present
    refine ⟨?_, old, wasActive, (old.markErrored_sessionId).symm⟩
    rw [SessionSummary.markErrored_status]
    exact markErrored_of_active (distinct.active old wasActive).2.2
  constructor
  · apply distinct.kept used
    · rw [stamped]
      exact distinct.stamped
    · exact ended
    · intro open_ present
      obtain ⟨status, was⟩ := errored open_ present
      exact ⟨.inr status, was⟩
  · constructor
    · intro pendingStamp member open_ present
      obtain ⟨_, old, wasActive, id⟩ := errored open_ present
      rw [← id]
      rcases mem_pending_after threads member with new | before
      · cases new
      · exact paired.pending pendingStamp before old wasActive
    · intro open_ present _ ok
      rw [(errored open_ present).1] at ok
      cases ok
    · rw [marked]
      intro mark member
      rcases List.mem_append.mp member with old | new
      · exact paired.marked mark old
      · obtain ⟨open_, present, rfl⟩ := mem_markOf new
        cases preset : event.sessionId with
        | some id => exact .inl rfl
        | none =>
            refine .inr (paired.pending stamp ?_ open_ present)
            refine List.mem_filterMap.mpr ⟨_, List.mem_of_getElem? found, ?_⟩
            simp [Work.pending, preset]
    · rw [stamped]
      exact fun id old exited => paired.ended id old (ended _ exited)

/-- A session starts with an id that is on no stamp, while no stamped event has
still to mark. -/
theorem opening_kept {client : ClientId} {newTraceId : String} {now : Nat}
    {middle after : State} {next : Work}
    (found : state.threads[thread]? = some (.opening client newTraceId now))
    (ran : runSection hub state (.opening client newTraceId now) =
      some (middle, next))
    (same : after = { middle with threads := state.threads.set thread next })
    (settled : pending state = [] ∨
      (state.world.clients client).client.options.release = none)
    (distinct : Distinct hub state) (paired : Paired hub state) :
    Distinct hub after ∧ Paired hub after := by
  simp only [runSection] at ran
  split at ran
  · cases ran
    have quiet : Quiet hub state after := by
      subst same
      refine Quiet.of_return found rfl rfl rfl rfl rfl rfl ?_
      exact fun entry member => List.mem_append_right _ member
    exact ⟨distinct.quiet quiet, paired.quiet quiet⟩
  · rename_i opened starts
    split at ran
    · cases ran
    · rename_i fresh
      cases ran
      have threads : after.threads = state.threads.set thread .idle := by rw [same]
      have session : activeSession hub after = some opened := by
        rw [same]
        simp [activeSession]
      have used : after.used = newTraceId :: state.used := by rw [same]
      have stamped : after.stamped = state.stamped := by rw [same]
      have marked : after.marked = state.marked := by rw [same]
      have ended : ∀ entry ∈ endings after, entry ∈ endings state := by
        apply mem_endings_after threads rfl
        rw [same, World.onHub_sent, SessionSummary.sessionEnds_ingest,
          sendSessionStart_ends, List.append_nil]
        exact fun entry member => List.mem_append_right _ member
      obtain ⟨release, released, built⟩ := Option.map_eq_some_iff.mp starts
      have id : opened.sessionId = newTraceId := by rw [← built]
      have ok : opened.status = .ok := by rw [← built]
      have none_ : pending state = [] := by
        rcases settled with empty | missing
        · exact empty
        · rw [missing] at released
          cases released
      constructor
      · constructor
        · rw [stamped, used]
          exact fun id member => List.mem_cons_of_mem _ (distinct.stamped id member)
        · intro id status member
          rw [used]
          exact List.mem_cons_of_mem _ (distinct.ended id status (ended _ member))
        · intro open_ present
          rw [session, Option.some.injEq] at present
          rw [← present, used, id]
          refine ⟨List.mem_cons_self, ?_, .inl ok⟩
          exact fun status member =>
            fresh (distinct.ended newTraceId status (ended _ member))
      · constructor
        · intro stamp member
          rcases mem_pending_after threads member with new | old
          · cases new
          · rw [none_] at old
            cases old
        · intro open_ present member
          rw [session, Option.some.injEq] at present
          rw [← present, id, stamped] at member
          exact absurd (distinct.stamped newTraceId member) fresh
        · rw [marked]
          exact paired.marked
        · rw [stamped]
          exact fun id old exited => paired.ended id old (ended _ exited)

/-- A session that is taken has been marked for the events stamped with it. -/
theorem taking_kept {client : ClientId} {now : Nat} {middle after : State}
    {next : Work} (found : state.threads[thread]? = some (.taking client now))
    (ran : runSection hub state (.taking client now) = some (middle, next))
    (same : after = { middle with threads := state.threads.set thread next })
    (settled : ∀ session, activeSession hub state = some session →
      session.status = .ok → some session.sessionId ∉ pending state)
    (distinct : Distinct hub state) (paired : Paired hub state) :
    Distinct hub after ∧ Paired hub after := by
  cases ran
  cases present : (state.world.hubs hub).session with
  | none =>
      have session : activeSession hub after = activeSession hub state := by
        rw [same]
        simp [activeSession, present]
      rw [present] at same
      have quiet : Quiet hub state after := by
        apply Quiet.of_return found
        · rw [same]
        · rfl
        · exact session
        · rw [same]
        · rw [same]
        · rw [same]
        · rw [same]
          exact fun entry member => List.mem_append_right _ member
      exact ⟨distinct.quiet quiet, paired.quiet quiet⟩
  | some taken =>
      rw [present] at same
      have threads : after.threads =
          state.threads.set thread (.sending client taken now) := by rw [same]
      have session : activeSession hub after = none := by
        rw [same]
        simp [activeSession]
      have used : after.used = state.used := by rw [same]
      have stamped : after.stamped = state.stamped := by rw [same]
      have marked : after.marked = state.marked := by rw [same]
      have ended : ∀ entry ∈ endings after,
          entry = (some taken.sessionId, some taken.finalStatus.asStr) ∨
            entry ∈ endings state := by
        intro entry member
        rcases List.mem_append.mp member with waiting | gone
        · rw [threads] at waiting
          rcases Library.Pool.mem_filterMap_set waiting with new | old
          · exact .inl (Option.some.inj new).symm
          · exact .inr (List.mem_append_left _ old)
        · rw [same] at gone
          exact .inr (List.mem_append_right _ gone)
      obtain ⟨usedId, _, status⟩ := distinct.active taken present
      constructor
      · constructor
        · rw [stamped, used]
          exact distinct.stamped
        · intro id reported member
          rw [used]
          rcases ended _ member with new | old
          · cases new
            exact usedId
          · exact distinct.ended id reported old
        · rw [session]
          exact fun open_ none_ => nomatch none_
      · constructor
        · rw [session]
          exact fun stamp _ open_ none_ => nomatch none_
        · rw [session]
          exact fun open_ none_ => nomatch none_
        · rw [marked]
          exact paired.marked
        · rw [stamped]
          intro id old exited
          rcases ended _ exited with new | before
          · simp only [Prod.mk.injEq, Option.some.injEq] at new
            obtain ⟨rfl, exits⟩ := new
            rcases status with ok | errored
            · exact settled taken present ok
                (paired.stamped taken present old ok)
            · rw [Session.finalStatus, errored] at exits
              exact absurd exits (by decide)
          · exact paired.ended id old before

/-- The end that is sent was about to be sent. -/
theorem sending_quiet {client : ClientId} {session : Session} {now : Nat}
    {middle after : State} {next : Work}
    (found : state.threads[thread]? = some (.sending client session now))
    (ran : runSection hub state (.sending client session now) =
      some (middle, next))
    (same : after = { middle with threads := state.threads.set thread next }) :
    Quiet hub state after := by
  cases ran
  subst same
  refine Quiet.of_return found rfl rfl rfl rfl rfl rfl ?_
  intro entry member
  rw [SessionSummary.sessionEnds_ingest, SessionSummary.sendSessionEnd_ends] at member
  rcases List.mem_append.mp member with old | new
  · exact List.mem_append_right _ old
  · split at new
    · rw [List.mem_singleton.mp new]
      apply List.mem_append_left
      exact List.mem_filterMap.mpr ⟨_, List.mem_of_getElem? found, rfl⟩
    · cases new

private theorem recording_quiet {eventId : Uuid} {middle after : State}
    {next : Work} (found : state.threads[thread]? = some (.recording eventId))
    (ran : runSection hub state (.recording eventId) = some (middle, next))
    (same : after = { middle with threads := state.threads.set thread next }) :
    Quiet hub state after := by
  cases ran
  subst same
  refine Quiet.of_return found rfl rfl rfl rfl rfl rfl ?_
  exact fun entry member => List.mem_append_right _ member

end

/-- A session that opens finds no stamped event that has still to mark, and one
that is taken while still ok none stamped with its id. -/
def admits (hub : HubId) (state : State) : Label → Bool
  | .call _ _ => true
  | .proceed thread =>
      match state.threads[thread]? with
      | some (.opening client _ _) =>
          (pending state).isEmpty ||
            (state.world.clients client).client.options.release.isNone
      | some (.taking _ _) =>
          (activeSession hub state).all fun session =>
            session.status != .ok ||
              !(pending state).contains (some session.sessionId)
      | _ => true

theorem starts_kept {state : State} (starts : Starts hub state) :
    Distinct hub state ∧ Paired hub state := by
  have noPending : pending state = [] := by
    apply List.filterMap_eq_nil_iff.mpr
    intro work member
    rw [starts.idle work member]
    rfl
  have noEnding : endings state = [] := by
    rw [endings, starts.sent, SessionSummary.sessionEnds, List.filterMap_nil,
      List.append_nil]
    apply List.filterMap_eq_nil_iff.mpr
    intro work member
    rw [starts.idle work member]
    rfl
  have none_ : activeSession hub state = none := starts.session
  constructor
  · constructor
    · simp [starts.stamped]
    · simp [noEnding]
    · simp [none_]
  · constructor
    · simp [noPending]
    · simp [none_]
    · simp [starts.marked]
    · simp [starts.stamped]

section

variable [UnicodeTables] {hub : HubId}

theorem step_kept {before after : State} {label : Label}
    (distinct : Distinct hub before) (paired : Paired hub before)
    (admitted : admits hub before label = true)
    (moved : step hub before label = some after) :
    Distinct hub after ∧ Paired hub after := by
  rcases step_cases moved with rfl | ⟨thread, call, client, found, rfl⟩ |
    ⟨thread, work, middle, next, rfl, found, ran, same⟩
  · exact ⟨distinct, paired⟩
  · exact ⟨distinct.quiet (call_quiet found), paired.quiet (call_quiet found)⟩
  · simp only [admits, found] at admitted
    cases work with
    | idle => cases ran
    | stamping client event => exact stamping_kept found ran same distinct paired
    | marking event stamp => exact marking_kept found ran same distinct paired
    | recording eventId =>
        have quiet := recording_quiet found ran same
        exact ⟨distinct.quiet quiet, paired.quiet quiet⟩
    | opening client newTraceId now =>
        apply opening_kept found ran same _ distinct paired
        simpa using admitted
    | taking client now =>
        apply taking_kept found ran same _ distinct paired
        intro session present ok
        simpa [present, ok] using admitted
    | sending client session now =>
        have quiet := sending_quiet found ran same
        exact ⟨distinct.quiet quiet, paired.quiet quiet⟩

/-- In a run in which no session opens while a stamped event has still to mark,
and none that is still ok is taken while one stamped with its id has, a capture
sets a session to errored only if its event was stamped with the session's id
or came with one, and no session on a stamped error-level event exits. -/
theorem marks_follow_stamps {state : State}
    (reached : (machine hub).Reach
      (fun state label => admits hub state label = true) state) :
    (∀ mark ∈ state.marked, mark.preset.isSome ∨ mark.stamp = some mark.session) ∧
      ∀ id ∈ state.stamped, (some id, some "exited") ∉
        SessionSummary.sessionEnds state.world.sent := by
  have kept : Distinct hub state ∧ Paired hub state := by
    apply reached.induct
    · exact fun state starts => starts_kept starts
    · intro before label after kept admitted moved
      exact step_kept kept.1 kept.2 admitted moved
  refine ⟨kept.2.marked, ?_⟩
  intro id stamped exited
  exact kept.2.ended id stamped (List.mem_append_right _ exited)

end

open SessionSummary (manualWorld failure)

def twoThreads : State := { world := manualWorld, threads := [.idle, .idle] }

theorem twoThreads_starts : Starts World.main twoThreads := by
  constructor
  · rfl
  · rfl
  · intro work member
    simpa [twoThreads] using member
  · rfl
  · rfl

/-- A session, an error in it, and its end. -/
def errorAndEnd : List Label :=
  [.call 0 (.startSession "first" 0), .proceed 0, .call 1 (.captureEvent failure),
    .proceed 1, .proceed 1, .call 0 (.endSession 5), .proceed 1, .proceed 0,
    .proceed 0]

theorem marks_follow_stamps_errored :
    ∃ final, (@machine asciiTables World.main).Reach
        (fun state label => admits World.main state label = true) final ∧
      (final.marked.map Mark.session = ["first"] ∧ final.stamped = ["first"] ∧
        SessionSummary.sessionEnds final.world.sent =
          [(some "first", some "errored")]) ∧
      (∀ mark ∈ final.marked,
        mark.preset.isSome ∨ mark.stamp = some mark.session) ∧
      ∀ id ∈ final.stamped, (some id, some "exited") ∉
        SessionSummary.sessionEnds final.world.sent := by
  let _ := asciiTables
  have run : ((machine World.main).execWhere (admits World.main) twoThreads
      errorAndEnd).map (fun state => decide
        (state.marked.map Mark.session = ["first"] ∧ state.stamped = ["first"] ∧
          SessionSummary.sessionEnds state.world.sent =
            [(some "first", some "errored")])) = some true := by
    decide
  obtain ⟨final, ended, holds⟩ := Option.map_eq_some_iff.mp run
  have reached := (Library.Machine.Reach.start twoThreads_starts).execWhere
    (fun _ _ passed => passed) ended
  exact ⟨final, reached, of_decide_eq_true holds, marks_follow_stamps reached⟩

/-- An end and a start between the stamp and the mark of an error: the session
on the event exits, and the next one is marked. -/
def endInBetween : List Label :=
  [.call 0 (.startSession "first" 0), .proceed 0, .call 1 (.captureEvent failure),
    .proceed 1, .call 0 (.endSession 5), .proceed 0, .proceed 0,
    .call 0 (.startSession "second" 9), .proceed 0, .proceed 1]

theorem endInBetween_exits_and_marks_the_next :
    ∃ final, (@machine asciiTables World.main).Reachable final ∧
      ¬ ((∀ mark ∈ final.marked,
            mark.preset.isSome ∨ mark.stamp = some mark.session) ∨
          ∀ id ∈ final.stamped, (some id, some "exited") ∉
            SessionSummary.sessionEnds final.world.sent) := by
  let _ := asciiTables
  have run : ((machine World.main).exec twoThreads endInBetween).map
      (fun state => decide (state.marked.any (fun mark => mark.preset.isNone &&
          mark.stamp != some mark.session) = true ∧
        state.stamped.any (fun id => (SessionSummary.sessionEnds
          state.world.sent).contains (some id, some "exited")) = true)) =
      some true := by
    decide
  obtain ⟨final, ended, holds⟩ := Option.map_eq_some_iff.mp run
  refine ⟨final, Library.Machine.reachable_of_exec twoThreads_starts ended, ?_⟩
  obtain ⟨wrong, exits⟩ := of_decide_eq_true holds
  rintro (marks | silent)
  · obtain ⟨mark, member, differs⟩ := List.any_eq_true.mp wrong
    rcases marks mark member with preset | same
    · simp [Option.isSome_iff_ne_none.mp preset] at differs
    · simp [same] at differs
  · obtain ⟨id, member, sent⟩ := List.any_eq_true.mp exits
    exact silent id member (List.contains_iff_mem.mp sent)

end SessionMarking

end Allstak
