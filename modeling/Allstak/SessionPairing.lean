import Allstak.Hub
import Allstak.Library.Machine

/-!
# Pairing of session envelopes

Automatic and manual session calls fill and empty one slot of a hub.  The
session envelopes handed over in a run are read back as marks, and the marks
alternate exactly in the runs in which no call starts a session while one is
active.
-/

namespace Allstak

namespace SessionPairing

inductive SessionMark where
  | started (id : Option String)
  | ended (id : Option String)
  deriving DecidableEq

/-- What a session endpoint learns from an envelope. -/
def sessionMark (envelope : Envelope) : Option SessionMark :=
  let id := (envelope.body.get "sessionId").bind Value.asString?
  if envelope.path = "/ingest/v1/sessions/start" then some (.started id)
  else if envelope.path = "/ingest/v1/sessions/end" then some (.ended id)
  else none

def marks (sent : List (ClientId × Envelope)) : List SessionMark :=
  sent.filterMap fun entry => sessionMark entry.2

/-- `start(id1), end(id1), start(id2), end(id2), …`, possibly with an open start
at the end. -/
inductive Alternates : List SessionMark → Prop where
  | nil : Alternates []
  | opened (id : String) : Alternates [.started (some id)]
  | closed (id : String) {rest : List SessionMark} :
      Alternates rest →
      Alternates (.started (some id) :: .ended (some id) :: rest)

/-- The open session after one more mark, when the mark fits. -/
def advance : Option String → SessionMark → Option (Option String)
  | none, .started (some id) => some (some id)
  | some id, .ended (some other) => if id = other then some none else none
  | _, _ => none

/-- The open session after a list of marks that alternate. -/
def track (marks : List SessionMark) : Option (Option String) :=
  marks.foldlM advance none

private theorem track_append (before said : List SessionMark) :
    track (before ++ said) = (track before).bind fun opened =>
      said.foldlM advance opened := by
  rw [track]
  exact List.foldlM_append

/-- Marks are consumed two at a time, a start with its end. -/
theorem alternates_iff_track (marks : List SessionMark) :
    Alternates marks ↔ (track marks).isSome := by
  constructor
  · intro alternates
    induction alternates with
    | nil => rfl
    | opened id => rfl
    | @closed id rest _ induction =>
        have pair : track (.started (some id) :: .ended (some id) :: rest) =
            track rest := by
          simp [track, advance]
        rwa [pair]
  · intro tracked
    match marks, tracked with
    | [], _ => exact .nil
    | [.started (some id)], _ => exact .opened id
    | .started (some id) :: .ended (some other) :: rest, tracked =>
        by_cases same : id = other
        · subst same
          have later : (track rest).isSome := by
            simpa [track, advance] using tracked
          exact .closed id ((alternates_iff_track rest).mpr later)
        · simp [track, advance, same] at tracked
    | .started (some id) :: .started other :: rest, tracked =>
        simp [track, advance] at tracked
    | .started (some id) :: .ended none :: rest, tracked =>
        simp [track, advance] at tracked
    | .started none :: rest, tracked => simp [track, advance] at tracked
    | .ended id :: rest, tracked => simp [track, advance] at tracked

/-- Fresh ids, clock readings and the integrations' setup are part of a call. -/
inductive Call where
  | init (env : String → Option String) (options : ClientOptions)
      (setup : ClientOptions → ClientOptions) (newTraceId : String) (now : Nat)
  | startSession (newTraceId : String) (now : Nat)
  | endSession (now : Nat)
  | endSessionWithStatus (status : SessionStatus) (now : Nat)
  | captureEvent (event : ErrorEvent)
  | dropGuard (index now : Nat)

structure State where
  world : World
  guards : List ClientInitGuard

/-- The client a call binds is enabled. -/
def Call.Enabled : Call → Prop
  | .init env options setup _ _ => (setup (options.withEnvKey env)).apiKey ≠ ""
  | _ => True

/-- Whether a start on the hub is sent: its client has a release. -/
def sendsStart (hub : HubId) (world : World) : Bool :=
  ((world.hubs hub).client.bind fun client =>
    (world.clients client).client.options.release).isSome

/-- Whether the call sends a session start. -/
def opens (hub : HubId) (state : State) : Call → Bool
  | .init env options setup _ _ =>
      (options.withEnvKey env).autoSession &&
        (setup (options.withEnvKey env)).release.isSome
  | .startSession _ _ => sendsStart hub state.world
  | _ => false

/-- The call starts no session, or none is active. -/
def leavesOpenAlone (hub : HubId) (state : State) (call : Call) : Bool :=
  !opens hub state call || (state.world.hubs hub).session.isNone

/-- The client bound to the hub, if there is one, is enabled. -/
def ClientEnabled (hub : HubId) (world : World) : Prop :=
  ∀ client, (world.hubs hub).client = some client →
    (world.clients client).client.isEnabled = true

/-- The id of the active session. -/
def openId (hub : HubId) (world : World) : Option String :=
  (world.hubs hub).session.map Session.sessionId

/-- The marks a call adds and the session it leaves open.  A start is sent
whatever was open before. -/
inductive Says (opened : Option String) :
    Bool → List SessionMark → Option String → Prop where
  | nothing : Says opened false [] opened
  | start (id : String) : Says opened true [.started (some id)] (some id)
  | finish {id : String} :
      opened = some id → Says opened false [.ended (some id)] none

/-- A call that keeps the client enabled and says something of this shape. -/
structure Moved (hub : HubId) (opening : Bool) (before after : World) : Prop where
  enabled : ClientEnabled hub after
  added : ∃ said, marks after.sent = marks before.sent ++ said ∧
    Says (openId hub before) opening said (openId hub after)

theorem Moved.nothing {hub : HubId} {before after : World}
    (enabled : ClientEnabled hub after) (marked : marks after.sent = marks before.sent)
    (kept : openId hub after = openId hub before) :
    Moved hub false before after := by
  refine ⟨enabled, [], ?_, ?_⟩
  · rw [marked, List.append_nil]
  · rw [kept]
    exact .nothing

private theorem marks_ingest (world : World) (client : ClientId)
    (capture : Client → Counters → Counters × List Envelope) :
    marks (world.ingest client capture).sent = marks world.sent ++
      (capture (world.clients client).client
        (world.clients client).counters).2.filterMap sessionMark := by
  rw [World.ingest_sent, marks, List.filterMap_append, List.filterMap_map]
  rfl

/-- A change of a hub that keeps its client, and captures, keep the client
enabled. -/
theorem ClientEnabled.of_same {hub : HubId} {before after : World}
    (enabled : ClientEnabled hub before)
    (bound : (after.hubs hub).client = (before.hubs hub).client)
    (options : ∀ client, (after.clients client).client =
      (before.clients client).client) :
    ClientEnabled hub after := by
  intro client found
  rw [options]
  exact enabled client (bound ▸ found)

/-- A call keeps the marks paired exactly when it starts no session over an
active one. -/
theorem Moved.track_eq {hub : HubId} {opening : Bool} {before after : World}
    (moved : Moved hub opening before after)
    (paired : track (marks before.sent) = some (openId hub before)) :
    track (marks after.sent) =
      if opening && (openId hub before).isSome then none
      else some (openId hub after) := by
  obtain ⟨said, marked, shape⟩ := moved.added
  rw [marked, track_append, paired, Option.bind_some]
  generalize openId hub before = held at shape
  generalize openId hub after = left at shape
  cases shape with
  | nothing => rfl
  | start id => cases held <;> rfl
  | finish was => simp [was, advance]

/-- Marks that do not alternate are not repaired by later ones. -/
theorem Moved.track_none {hub : HubId} {opening : Bool} {before after : World}
    (moved : Moved hub opening before after)
    (broken : track (marks before.sent) = none) :
    track (marks after.sent) = none := by
  obtain ⟨said, marked, _⟩ := moved.added
  rw [marked, track_append, broken, Option.bind_none]

section

variable [UnicodeTables]

/-- `init` and its guards act on the main hub only. -/
def step (hub : HubId) (state : State) : Call → Option State
  | .init env options setup newTraceId now =>
      if hub = World.main then
        let (guard, world) := state.world.init env options setup newTraceId now
        some { world, guards := state.guards ++ [guard] }
      else none
  | .startSession newTraceId now =>
      some { state with world := state.world.startSession hub newTraceId now }
  | .endSession now =>
      some { state with world := state.world.endSession hub now }
  | .endSessionWithStatus status now =>
      some { state with world := state.world.endSessionWithStatus hub status now }
  | .captureEvent event =>
      some { state with world := state.world.captureEvent hub event }
  | .dropGuard index now =>
      if hub = World.main then
        state.guards[index]?.map fun guard =>
          { world := state.world.dropGuard guard now
            guards := state.guards.eraseIdx index }
      else none

/-- A hub without a session and nothing sent yet. -/
def Starts (hub : HubId) (state : State) : Prop :=
  ClientEnabled hub state.world ∧
    (state.world.hubs hub).session = none ∧
    state.world.sent = []

def machine (hub : HubId) : Library.Machine State Call where
  start := Starts hub
  next := step hub

theorem deliver_of_enabled {client : Client} (payload : Value) (path : String)
    (category : DataCategory) (counters : Counters)
    (enabled : client.isEnabled = true) :
    client.deliver payload path category counters =
      (counters, [{ path, category, body :=
        if client.options.sendDefaultPii then payload else scrubValue payload }]) := by
  simp [Client.deliver, enabled]

/-- The session id is an identity field: scrubbing leaves it as it is. -/
theorem get_sessionId_delivered (client : Client) {payload : Value} {id : String}
    (written : payload.get "sessionId" = some (.string id)) :
    (if client.options.sendDefaultPii then payload else scrubValue payload).get
      "sessionId" = some (.string id) := by
  have plain : isSensitiveKey "sessionId" = false := by decide
  have exempt : isIdentityKey "sessionId" = true := by decide
  split
  · exact written
  · rw [get_scrubValue, written]
    simp [scrubEntry, plain, exempt]

private theorem sendSessionStart_marks {client : Client} (start : SessionStart)
    (counters : Counters) (enabled : client.isEnabled = true) :
    (client.sendSessionStart start counters).2.filterMap sessionMark =
      [.started (some start.sessionId)] := by
  have delivered := get_sessionId_delivered client start.get_sessionId
  simp [Client.sendSessionStart, Client.capturePayload,
    deliver_of_enabled _ _ _ _ enabled, sessionMark, delivered, Value.asString?]

private theorem sendSessionEnd_marks {client : Client} (ending : SessionEnd)
    (counters : Counters) (enabled : client.isEnabled = true) :
    (client.sendSessionEnd ending counters).2.filterMap sessionMark =
      [.ended (some ending.sessionId)] := by
  have delivered := get_sessionId_delivered client ending.get_sessionId
  simp [Client.sendSessionEnd, Client.capturePayload,
    deliver_of_enabled _ _ _ _ enabled, sessionMark, delivered, Value.asString?]

theorem deliver_paths {client : Client} {payload : Value} {path : String}
    {category : DataCategory} {counters : Counters} {envelope : Envelope}
    (handed : envelope ∈ (client.deliver payload path category counters).2) :
    envelope.path = path := by
  rw [Client.deliver] at handed
  split at handed
  · rw [List.mem_singleton.mp handed]
  · cases handed

theorem captureEvent_paths {client : Client} {event : ErrorEvent}
    {scope : Scope} {counters : Counters} {envelope : Envelope}
    (handed : envelope ∈ (client.captureEvent event scope counters).2) :
    envelope.path = "/ingest/v1/errors" := by
  rw [Client.captureEvent] at handed
  dsimp only at handed
  split at handed
  · cases handed
  · split at handed
    · exact deliver_paths handed
    · cases handed

/-- Error events go to another endpoint. -/
theorem captureEvent_marks {client : Client} (event : ErrorEvent)
    (scope : Scope) (counters : Counters) :
    (client.captureEvent event scope counters).2.filterMap sessionMark = [] := by
  apply List.filterMap_eq_nil_iff.mpr
  intro envelope handed
  simp [sessionMark, captureEvent_paths handed]

theorem startSession_moved {hub : HubId} {world : World} (newTraceId : String)
    (now : Nat) (enabled : ClientEnabled hub world) :
    Moved hub (sendsStart hub world) world
      (world.startSession hub newTraceId now) := by
  unfold World.startSession sendsStart
  cases bound : (world.hubs hub).client with
  | none => exact .nothing enabled rfl rfl
  | some client =>
      cases released : (world.clients client).client.options.release with
      | none =>
          simp only [Session.start, released, Option.map_none, Option.bind_some]
          exact .nothing enabled rfl rfl
      | some release =>
          simp only [Session.start, released, Option.map_some, Option.bind_some,
            Option.isSome_some]
          constructor
          · apply enabled.of_same
            · simp
            · simp
          · refine ⟨[.started (some newTraceId)], ?_, ?_⟩
            · rw [World.onHub_sent, marks_ingest,
                sendSessionStart_marks _ _ (enabled client bound)]
              rfl
            · have opened : ∀ left : Option String, left = some newTraceId →
                  Says (openId hub world) true [.started (some newTraceId)] left := by
                rintro left rfl
                exact .start newTraceId
              apply opened
              simp [openId]

theorem endSession_moved {hub : HubId} {world : World}
    (status : Option SessionStatus) (now : Nat)
    (enabled : ClientEnabled hub world) :
    Moved hub false world
      (world.endSessionWithStatusInternal hub status now) := by
  rw [World.endSessionWithStatusInternal]
  cases bound : (world.hubs hub).client with
  | none => exact .nothing enabled rfl rfl
  | some client =>
      cases taken : (world.hubs hub).session with
      | none =>
          dsimp only
          apply Moved.nothing
          · exact enabled.of_same (by simp) (by simp)
          · rfl
          · simp [openId, taken]
      | some session =>
          dsimp only
          constructor
          · exact enabled.of_same (by simp) (by simp)
          · refine ⟨[.ended (some session.sessionId)], ?_, ?_⟩
            · rw [marks_ingest, World.onHub_clients,
                sendSessionEnd_marks _ _ (enabled client bound), World.onHub_sent]
              rfl
            · have closed : openId hub ((world.onHub hub fun hub =>
                  { hub with session := none }).ingest client
                    fun client counters =>
                      client.sendSessionEnd (session.toEnd status now) counters) =
                  none := by
                simp [openId]
              rw [closed]
              apply Says.finish
              simp [openId, taken]

theorem captureEvent_moved {hub : HubId} {world : World} (event : ErrorEvent)
    (enabled : ClientEnabled hub world) :
    Moved hub false world (world.captureEvent hub event) := by
  rw [World.captureEvent]
  cases bound : (world.hubs hub).client with
  | none => exact .nothing enabled rfl rfl
  | some client =>
      let piped := world.captureWith hub client event (world.hubs hub).scopes.top
      change Moved hub false world (piped.captured hub event)
      have same : ((piped.captured hub event).hubs hub).client =
          (world.hubs hub).client ∧
          openId hub (piped.captured hub event) = openId hub world := by
        rcases piped.captured_hubs hub event with kept | marked
        · simp [openId, kept, piped]
        · simp [openId, marked, piped, Hub.markSessionErrored, Function.comp_def]
      apply Moved.nothing
      · apply enabled.of_same same.1
        intro other
        simp [piped, World.captureWith]
      · rw [World.captured_sent]
        simp only [piped, World.captureWith, marks_ingest, captureEvent_marks,
          List.append_nil]
      · exact same.2

/-- `init` binds its client and then starts like a manual call. -/
theorem init_moved {world : World} (env : String → Option String)
    (options : ClientOptions) (setup : ClientOptions → ClientOptions)
    (newTraceId : String) (now : Nat)
    (enabled : (setup (options.withEnvKey env)).apiKey ≠ "") :
    Moved World.main
      ((options.withEnvKey env).autoSession &&
        (setup (options.withEnvKey env)).release.isSome) world
      (world.init env options setup newTraceId now).2 := by
  let installed := (world.newClient (setup (options.withEnvKey env))).2
  let bound := installed.onHub World.main (Hub.bindClient (some world.nextClient))
  have boundClient : (bound.hubs World.main).client = some world.nextClient := by
    simp [bound, Hub.bindClient]
  have boundOptions : (bound.clients world.nextClient).client.options =
      setup (options.withEnvKey env) := by
    simp [bound, installed, World.newClient]
  have boundEnabled : ClientEnabled World.main bound := by
    intro client found
    rw [boundClient, Option.some.injEq] at found
    subst found
    simpa [Client.isEnabled, boundOptions] using enabled
  have sends : sendsStart World.main bound =
      (setup (options.withEnvKey env)).release.isSome := by
    simp [sendsStart, boundClient, boundOptions]
  have kept : openId World.main bound = openId World.main world := by
    simp [openId, bound, installed, World.newClient, Hub.bindClient]
  have after : (world.init env options setup newTraceId now).2 =
      if (options.withEnvKey env).autoSession then
        bound.startSession World.main newTraceId now
      else bound := rfl
  rw [after]
  cases (options.withEnvKey env).autoSession with
  | false => exact .nothing boundEnabled rfl kept
  | true =>
      have started := startSession_moved newTraceId now boundEnabled
      rw [sends] at started
      obtain ⟨said, marked, shape⟩ := started.added
      refine ⟨started.enabled, said, marked, ?_⟩
      rw [← kept]
      exact shape

theorem step_moved {hub : HubId} {state after : State} {call : Call}
    (enabled : ClientEnabled hub state.world) (binds : call.Enabled)
    (moved : step hub state call = some after) :
    Moved hub (opens hub state call) state.world after.world := by
  cases call with
  | init env options setup newTraceId now =>
      rw [step] at moved
      split at moved
      · rename_i onMain
        subst onMain
        cases moved
        exact init_moved env options setup newTraceId now binds
      · cases moved
  | startSession newTraceId now =>
      cases moved
      exact startSession_moved newTraceId now enabled
  | endSession now =>
      cases moved
      exact endSession_moved none now enabled
  | endSessionWithStatus status now =>
      cases moved
      exact endSession_moved (some status) now enabled
  | captureEvent event =>
      cases moved
      exact captureEvent_moved event enabled
  | dropGuard index now =>
      rw [step] at moved
      split at moved
      · rename_i onMain
        subst onMain
        obtain ⟨guard, _, rfl⟩ := Option.map_eq_some_iff.mp moved
        dsimp only [World.dropGuard]
        split
        · exact endSession_moved none now enabled
        · exact .nothing enabled rfl rfl
      · cases moved

/-- The marks so far alternate and leave the hub's session open. -/
def Paired (hub : HubId) (state : State) : Prop :=
  track (marks state.world.sent) = some (openId hub state.world)

theorem exec_track_none {hub : HubId} {state final : State} {calls : List Call}
    (enabled : ClientEnabled hub state.world)
    (binds : ∀ call ∈ calls, call.Enabled)
    (broken : track (marks state.world.sent) = none)
    (run : (machine hub).exec state calls = some final) :
    track (marks final.world.sent) = none := by
  induction calls generalizing state with
  | nil =>
      cases run
      exact broken
  | cons call calls induction =>
      obtain ⟨middle, stepped, rest⟩ := Option.bind_eq_some_iff.mp run
      have moved := step_moved enabled (binds call List.mem_cons_self) stepped
      exact induction moved.enabled
        (fun later member => binds later (List.mem_cons_of_mem _ member))
        (moved.track_none broken) rest

/-- From paired marks, a run ends with marks that alternate exactly when every
call of it left an active session alone. -/
theorem exec_track_isSome_iff {hub : HubId} {state final : State}
    {calls : List Call} (enabled : ClientEnabled hub state.world)
    (binds : ∀ call ∈ calls, call.Enabled) (paired : Paired hub state)
    (run : (machine hub).exec state calls = some final) :
    (track (marks final.world.sent)).isSome ↔
      ((machine hub).execWhere (leavesOpenAlone hub) state calls).isSome := by
  induction calls generalizing state with
  | nil =>
      cases run
      rw [paired]
      simp [Library.Machine.execWhere]
  | cons call calls induction =>
      obtain ⟨middle, stepped, rest⟩ := Option.bind_eq_some_iff.mp run
      have moved := step_moved enabled (binds call List.mem_cons_self) stepped
      have later : ∀ later ∈ calls, later.Enabled :=
        fun later member => binds later (List.mem_cons_of_mem _ member)
      have tracked := moved.track_eq paired
      have verdict : leavesOpenAlone hub state call =
          !(opens hub state call && (openId hub state.world).isSome) := by
        unfold leavesOpenAlone openId
        cases opens hub state call <;>
          cases (state.world.hubs hub).session <;> rfl
      have next : (machine hub).next state call = some middle := stepped
      rw [Library.Machine.execWhere, verdict]
      cases overwrites :
          opens hub state call && (openId hub state.world).isSome with
      | true =>
          rw [overwrites, if_pos rfl] at tracked
          rw [exec_track_none moved.enabled later tracked rest]
          simp
      | false =>
          rw [overwrites, if_neg (by simp)] at tracked
          rw [next, Bool.not_false, if_pos rfl, Option.bind_some]
          exact induction moved.enabled later tracked rest

/-- In a run of calls on a hub with enabled clients, the session envelopes
alternate between a start and the end with its id exactly when no call of the
run starts a session while one is active. -/
theorem sessions_alternate_iff {hub : HubId} {initial final : State}
    {calls : List Call} (starts : Starts hub initial)
    (binds : ∀ call ∈ calls, call.Enabled)
    (run : (machine hub).exec initial calls = some final) :
    Alternates (marks final.world.sent) ↔
      ((machine hub).execWhere (leavesOpenAlone hub) initial calls).isSome := by
  obtain ⟨enabled, closed, nothingSent⟩ := starts
  rw [alternates_iff_track]
  apply exec_track_isSome_iff enabled binds _ run
  simp [Paired, nothingSent, marks, openId, closed, track]

end

def releasedOptions : ClientOptions :=
  { apiKey := "key", release := some "1.0.0", sendDefaultPii := true }

def beforeInit : State := { world := .initial, guards := [] }

/-- `init` with its automatic session, then the given calls. -/
def afterInit (calls : List Call) : List Call :=
  .init (fun _ => none) releasedOptions id "first" 0 :: calls

private theorem beforeInit_starts : Starts World.main beforeInit := by
  refine ⟨?_, rfl, rfl⟩
  intro client bound
  cases bound

private theorem afterInit_enabled {calls : List Call}
    (binds : ∀ call ∈ calls, call.Enabled) :
    ∀ call ∈ afterInit calls, call.Enabled := by
  intro call member
  rcases List.mem_cons.mp member with rfl | later
  · change releasedOptions.apiKey ≠ ""
    decide
  · exact binds call later

/-- The session that `init` opened is replaced by a manual start and never gets
an end. -/
theorem manualStart_forgets_session :
    ∃ final : State,
      Starts World.main beforeInit ∧
        (∀ call ∈ afterInit [.startSession "second" 5, .endSession 9],
          call.Enabled) ∧
        (@machine asciiTables World.main).exec beforeInit
          (afterInit [.startSession "second" 5, .endSession 9]) = some final ∧
        marks final.world.sent =
          [.started (some "first"), .started (some "second"),
            .ended (some "second")] ∧
        ¬ Alternates (marks final.world.sent) := by
  let _ := asciiTables
  have run : ((machine World.main).exec beforeInit
      (afterInit [.startSession "second" 5, .endSession 9])).map
        (fun state => marks state.world.sent) =
      some [.started (some "first"), .started (some "second"),
        .ended (some "second")] := by
    decide
  obtain ⟨final, reached, marked⟩ := Option.map_eq_some_iff.mp run
  refine ⟨final, beforeInit_starts, ?_, reached, marked, ?_⟩
  · apply afterInit_enabled
    intro call member
    rcases List.mem_cons.mp member with rfl | later
    · trivial
    · rw [List.mem_singleton.mp later]
      trivial
  · rw [marked, alternates_iff_track]
    decide

theorem sessions_alternate_iff_ended :
    ∃ final : State,
      (Alternates (marks final.world.sent) ↔
        ((@machine asciiTables World.main).execWhere
          (leavesOpenAlone World.main) beforeInit
          (afterInit [.endSession 9])).isSome) ∧
        Alternates (marks final.world.sent) := by
  let _ := asciiTables
  have run : ((machine World.main).exec beforeInit
      (afterInit [.endSession 9])).map (fun state => marks state.world.sent) =
      some [.started (some "first"), .ended (some "first")] := by
    decide
  obtain ⟨final, reached, marked⟩ := Option.map_eq_some_iff.mp run
  refine ⟨final, sessions_alternate_iff beforeInit_starts ?_ reached, ?_⟩
  · apply afterInit_enabled
    intro call member
    rw [List.mem_singleton.mp member]
    trivial
  · rw [marked]
    exact .closed "first" .nil

end SessionPairing

end Allstak
