import Allstak.Hub
import Allstak.Library.Machine

/-!
# The sections of session calls

Threads call one hub.  A call takes the hub's lock several times, and other
threads run between its sections.  A call between whose sections no other thread
runs is the hub's operation.
-/

namespace Allstak

namespace SessionMarking

/-- The id of a started session and the clock readings are part of a call. -/
inductive Call where
  | captureEvent (event : ErrorEvent)
  | startSession (newTraceId : String) (now : Nat)
  | endSession (now : Nat)

/-- What a thread does next.  A call that has read the hub's client goes
through the sections of its kind. -/
inductive Work where
  | idle
  | stamping (client : ClientId) (event : ErrorEvent)
  | marking (event : ErrorEvent) (stamp : Option String)
  | recording (eventId : Uuid)
  | opening (client : ClientId) (newTraceId : String) (now : Nat)
  | taking (client : ClientId) (now : Nat)
  | sending (client : ClientId) (session : Session) (now : Nat)

def Call.begin (client : ClientId) : Call → Work
  | .captureEvent event => .stamping client event
  | .startSession newTraceId now => .opening client newTraceId now
  | .endSession now => .taking client now

/-- A capture set a session to errored: the session id the event came with, the
one it was sent with, and the session's own. -/
structure Mark where
  preset : Option String
  stamp : Option String
  session : String

/-- `used` lists the ids of started sessions, `stamped` the ids the hub put on
error-level events, and `marked` the marks that changed a session. -/
structure State where
  world : World
  threads : List Work
  used : List String := []
  stamped : List String := []
  marked : List Mark := []

/-- The id the hub puts on an error-level event. -/
def stampOf (hub : Hub) (event : ErrorEvent) : List String :=
  if event.isErrorLevel && event.sessionId.isNone then
    (hub.session.map Session.sessionId).toList
  else []

/-- What the mark after a capture changes. -/
def markOf (hub : Hub) (event : ErrorEvent) (stamp : Option String) :
    List Mark :=
  match hub.session with
  | some session =>
      if session.status = .ok then
        [{ preset := event.sessionId, stamp, session := session.sessionId }]
      else []
  | none => []

section

variable [UnicodeTables]

/-- One section of a call and the work left after it.  The ids of sessions are
fresh. -/
def runSection (hub : HubId) (state : State) : Work → Option (State × Work)
  | .idle => none
  | .stamping client event =>
      let here := state.world.hubs hub
      some
        ({ state with
            world := state.world.captureWith hub client event here.scopes.top
            stamped := state.stamped ++ stampOf here event },
          if event.isErrorLevel then
            .marking event (here.stampEvent event).sessionId
          else .recording event.eventId)
  | .marking event stamp =>
      some
        ({ state with
            world := state.world.onHub hub Hub.markSessionErrored
            marked := state.marked ++ markOf (state.world.hubs hub) event stamp },
          .recording event.eventId)
  | .recording eventId =>
      some ({ state with
        world := { state.world with lastEventId := some eventId } }, .idle)
  | .opening client newTraceId now =>
      let user := (state.world.hubs hub).scopes.top.user
      let options := (state.world.clients client).client.options
      match Session.start options user newTraceId now with
      | none => some (state, .idle)
      | some session =>
          if newTraceId ∈ state.used then none
          else
            let world := state.world.ingest client fun client counters =>
              client.sendSessionStart session.toStart counters
            some ({ state with
              world := world.onHub hub fun hub =>
                { hub with session := some session }
              used := newTraceId :: state.used }, .idle)
  | .taking client now =>
      some
        ({ state with
            world := state.world.onHub hub fun hub => { hub with session := none } },
          match (state.world.hubs hub).session with
          | none => .idle
          | some session => .sending client session now)
  | .sending client session now =>
      some ({ state with
        world := state.world.ingest client fun client counters =>
          client.sendSessionEnd (session.toEnd none now) counters }, .idle)

/-- A thread makes a call, or takes the next section of the one it is in. -/
inductive Label where
  | call (thread : Nat) (call : Call)
  | proceed (thread : Nat)

/-- A call on a hub without a client returns at once. -/
def step (hub : HubId) (state : State) : Label → Option State
  | .call thread call =>
      match state.threads[thread]? with
      | some .idle =>
          match (state.world.hubs hub).client with
          | none => some state
          | some client =>
              some { state with
                threads := state.threads.set thread (call.begin client) }
      | _ => none
  | .proceed thread =>
      (state.threads[thread]?).bind fun work =>
        (runSection hub state work).map fun (after, next) =>
          { after with threads := state.threads.set thread next }

/-- A hub without a session, nothing sent, and any number of idle threads. -/
structure Starts (hub : HubId) (state : State) : Prop where
  session : (state.world.hubs hub).session = none
  sent : state.world.sent = []
  idle : ∀ work ∈ state.threads, work = .idle
  stamped : state.stamped = []
  marked : state.marked = []

def machine (hub : HubId) : Library.Machine State Label where
  start := Starts hub
  next := step hub

/-- What the call does when no other thread runs between its sections. -/
def Call.perform (hub : HubId) (world : World) : Call → World
  | .captureEvent event => world.captureEvent hub event
  | .startSession newTraceId now => world.startSession hub newTraceId now
  | .endSession now => world.endSession hub now

/-- The id a call starts a session with is not in use. -/
def Call.Fresh (used : List String) : Call → Prop
  | .startSession newTraceId _ => newTraceId ∉ used
  | _ => True

/-- The thread alone gets to a state with the property. -/
def RunsTo (hub : HubId) (thread : Nat) (state : State) (goal : State → Prop) :
    Prop :=
  ∃ sections final, (machine hub).exec state
    (List.replicate sections (.proceed thread)) = some final ∧ goal final

theorem RunsTo.here {hub : HubId} {thread : Nat} {state : State}
    {goal : State → Prop} (holds : goal state) : RunsTo hub thread state goal :=
  ⟨0, state, rfl, holds⟩

theorem RunsTo.proceed {hub : HubId} {thread : Nat} {state after : State}
    {goal : State → Prop} {work next : Work}
    (found : state.threads[thread]? = some work)
    (ran : runSection hub state work = some (after, next))
    (rest : RunsTo hub thread
      { after with threads := state.threads.set thread next } goal) :
    RunsTo hub thread state goal := by
  obtain ⟨sections, final, run, holds⟩ := rest
  refine ⟨sections + 1, final, ?_, holds⟩
  have moved : (machine hub).next state (.proceed thread) =
      some { after with threads := state.threads.set thread next } := by
    simp [machine, step, found, ran]
  rw [List.replicate_succ, Library.Machine.exec, Library.Machine.execWhere,
    if_pos rfl, moved]
  exact run

/-- The sections of a call, run in order from its first one, leave the world as
the call does. -/
theorem sections_alone {hub : HubId} {state : State} {thread : Nat}
    {client : ClientId} (bound : (state.world.hubs hub).client = some client)
    (inside : thread < state.threads.length) (call : Call)
    (fresh : call.Fresh state.used) :
    RunsTo hub thread
      { state with threads := state.threads.set thread (call.begin client) }
      fun final => final.world = call.perform hub state.world ∧
        final.threads = state.threads.set thread .idle := by
  have here {work : Work} {threads : List Work}
      (length : threads.length = state.threads.length) :
      (threads.set thread work)[thread]? = some work := by
    rw [List.getElem?_set_self (length ▸ inside)]
  cases call with
  | captureEvent event =>
      apply RunsTo.proceed (here rfl) rfl
      by_cases errs : event.isErrorLevel = true
      · rw [if_pos errs]
        apply RunsTo.proceed (here (by simp)) rfl
        apply RunsTo.proceed (here (by simp)) rfl
        apply RunsTo.here
        simp [Call.perform, World.captureEvent, bound, World.captured, errs]
      · rw [if_neg errs]
        apply RunsTo.proceed (here (by simp)) rfl
        apply RunsTo.here
        simp [Call.perform, World.captureEvent, bound, World.captured, errs]
  | startSession newTraceId now =>
      cases opened : Session.start (state.world.clients client).client.options
          (state.world.hubs hub).scopes.top.user newTraceId now with
      | none =>
          apply RunsTo.proceed (here rfl)
          · simp only [Call.begin, runSection, opened]
            rfl
          · apply RunsTo.here
            simp [Call.perform, World.startSession, bound, opened]
      | some session =>
          apply RunsTo.proceed (here rfl)
          · simp only [Call.begin, runSection, opened]
            exact if_neg fresh
          · apply RunsTo.here
            simp [Call.perform, World.startSession, bound, opened]
  | endSession now =>
      apply RunsTo.proceed (here rfl) rfl
      cases active : (state.world.hubs hub).session with
      | none =>
          apply RunsTo.here
          simp [Call.perform, World.endSession,
            World.endSessionWithStatusInternal, bound, active]
      | some session =>
          apply RunsTo.proceed (here (by simp)) rfl
          apply RunsTo.here
          simp [Call.perform, World.endSession,
            World.endSessionWithStatusInternal, bound, active]

/-- A call between whose sections no other thread runs is the hub's operation. -/
theorem call_alone {hub : HubId} {state : State} {thread : Nat} (call : Call)
    (idle : state.threads[thread]? = some .idle)
    (fresh : call.Fresh state.used) :
    ∃ after, step hub state (.call thread call) = some after ∧
      RunsTo hub thread after fun final =>
        final.world = call.perform hub state.world ∧
          final.threads = state.threads := by
  obtain ⟨inside, same⟩ := List.getElem?_eq_some_iff.mp idle
  have back : state.threads.set thread .idle = state.threads := by
    rw [← same, List.set_getElem_self]
  cases bound : (state.world.hubs hub).client with
  | none =>
      refine ⟨state, by simp [step, idle, bound], .here ⟨?_, rfl⟩⟩
      cases call with
      | captureEvent event => simp [Call.perform, World.captureEvent, bound]
      | startSession newTraceId now =>
          simp [Call.perform, World.startSession, bound]
      | endSession now =>
          simp [Call.perform, World.endSession,
            World.endSessionWithStatusInternal, bound]
  | some client =>
      have entered : step hub state (.call thread call) = some { state with
          threads := state.threads.set thread (call.begin client) } := by
        simp [step, idle, bound]
      have alone := sections_alone bound inside call fresh
      rw [back] at alone
      exact ⟨_, entered, alone⟩

end

end SessionMarking

end Allstak
