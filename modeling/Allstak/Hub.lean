import Allstak.Session
import Mathlib.Logic.Function.Basic

/-!
# Hubs

A hub owns a stack of scopes, an optional client and the active session.  The
functions on `Hub` are its lock-protected sections; the operations made of
them act on a `World`, which keeps the hubs and clients of a process by index,
because threads share hubs and hubs share clients.
-/

namespace Allstak

/-- A stack of scopes, top first.  A hub is built with one scope and never pops
its last one. -/
@[ext] structure ScopeStack where
  scopes : List Scope
  filled : scopes ≠ []

namespace ScopeStack

def single (scope : Scope) : ScopeStack := ⟨[scope], List.cons_ne_nil _ _⟩

def top (stack : ScopeStack) : Scope :=
  stack.scopes.head?.getD (Scope.new 100)

def push (scope : Scope) (stack : ScopeStack) : ScopeStack :=
  ⟨scope :: stack.scopes, List.cons_ne_nil _ _⟩

def pop (stack : ScopeStack) : ScopeStack :=
  match stack.scopes with
  | _ :: next :: rest => ⟨next :: rest, List.cons_ne_nil _ _⟩
  | _ => stack

def configureTop (configure : Scope → Scope) (stack : ScopeStack) : ScopeStack :=
  match stack.scopes with
  | top :: rest => ⟨configure top :: rest, List.cons_ne_nil _ _⟩
  | [] => stack

@[simp] theorem top_single (scope : Scope) : (single scope).top = scope := rfl

@[simp] theorem top_push (scope : Scope) (stack : ScopeStack) :
    (stack.push scope).top = scope := rfl

@[simp] theorem pop_push (scope : Scope) (stack : ScopeStack) :
    (stack.push scope).pop = stack := by
  obtain ⟨scopes, filled⟩ := stack
  cases scopes with
  | nil => exact (filled rfl).elim
  | cons top rest => rfl

@[simp] theorem top_configureTop (configure : Scope → Scope)
    (stack : ScopeStack) :
    (stack.configureTop configure).top = configure stack.top := by
  obtain ⟨scopes, filled⟩ := stack
  cases scopes with
  | nil => exact (filled rfl).elim
  | cons top rest => rfl

end ScopeStack

abbrev ClientId := Nat

abbrev HubId := Nat

structure Hub where
  client : Option ClientId
  scopes : ScopeStack
  session : Option Session := none

/-- An event without a level counts as an error. -/
def ErrorEvent.isErrorLevel (event : ErrorEvent) : Bool :=
  (event.level.map fun level => level == "error" || level == "fatal").getD true

namespace Hub

def new (client : Option ClientId) (scope : Scope) : Hub :=
  { client, scopes := .single scope }

/-- Clone the other hub's top scope and share its client. -/
def newFromTop (other : Hub) : Hub := new other.client other.scopes.top

def bindClient (client : Option ClientId) (hub : Hub) : Hub :=
  { hub with client }

def configureScope (configure : Scope → Scope) (hub : Hub) : Hub :=
  { hub with scopes := hub.scopes.configureTop configure }

def setUser (user : Option User) : Hub → Hub :=
  configureScope fun scope => scope.setUser user

/-- The first section of `with_scope`; `push_scope` is the case of no change. -/
def pushScope (scopeFn : Scope → Scope) (hub : Hub) : Hub :=
  { hub with scopes := hub.scopes.push (scopeFn hub.scopes.top) }

/-- The last section of `with_scope`, and the drop of a scope guard. -/
def popScope (hub : Hub) : Hub := { hub with scopes := hub.scopes.pop }

/-- The active session's id goes on an event that has none. -/
def stampEvent (hub : Hub) (event : ErrorEvent) : ErrorEvent :=
  { event with
    sessionId := event.sessionId <|> hub.session.map Session.sessionId }

def markSessionErrored (hub : Hub) : Hub :=
  { hub with session := hub.session.map Session.markErrored }

def markSessionCrashed (hub : Hub) : Hub :=
  { hub with session := hub.session.map Session.markCrashed }

def currentTraceContext (hub : Hub) : TraceContext :=
  hub.scopes.top.traceContext

end Hub

structure SharedClient where
  client : Client
  counters : Counters := {}

/-- Indices below `nextHub` and `nextClient` are in use.  `sent` lists what the
clients handed to their transports, in order. -/
structure World where
  clients : ClientId → SharedClient
  hubs : HubId → Hub
  nextClient : ClientId
  nextHub : HubId
  sent : List (ClientId × Envelope) := []
  lastEventId : Option Uuid := none

namespace World

/-- `Hub::main()`. -/
def main : HubId := 0

/-- A process before any `init`: the main hub has no client. -/
def initial : World :=
  { clients := fun _ => { client := { options := {} } }
    hubs := fun _ => Hub.new none (Scope.new 100)
    nextClient := 0
    nextHub := 1 }

/-- `Hub::current()` on a thread with the given `CURRENT_HUB`. -/
def current (slot : Option HubId) : HubId := slot.getD main

/-- Run one lock-protected section of a hub. -/
def onHub (hub : HubId) (change : Hub → Hub) (world : World) : World :=
  { world with hubs := Function.update world.hubs hub (change (world.hubs hub)) }

/-- Run a capture call of a client. -/
def ingest (client : ClientId)
    (capture : Client → Counters → Counters × List Envelope) (world : World) :
    World :=
  let shared := world.clients client
  let (counters, handed) := capture shared.client shared.counters
  { world with
    clients := Function.update world.clients client { shared with counters }
    sent := world.sent ++ handed.map fun envelope => (client, envelope) }

/-- `Hub::new_from_top(other)` as a new hub of the process. -/
def newFromTop (other : HubId) (world : World) : HubId × World :=
  (world.nextHub,
    { world with
      hubs := Function.update world.hubs world.nextHub (world.hubs other).newFromTop
      nextHub := world.nextHub + 1 })

/-- `Client::new`, after the integrations' setup. -/
def newClient (options : ClientOptions) (world : World) : ClientId × World :=
  (world.nextClient,
    { world with
      clients := Function.update world.clients world.nextClient
        { client := { options } }
      nextClient := world.nextClient + 1 })

/-- The filter of the bound client, run without the hub's lock. -/
def processBreadcrumb (hub : HubId) (turn : Nat) (breadcrumb : Breadcrumb)
    (world : World) : Option Breadcrumb × World :=
  match (world.hubs hub).client with
  | none => (some breadcrumb, world)
  | some client =>
      let shared := world.clients client
      let (processed, counters) :=
        shared.client.processBreadcrumb turn breadcrumb shared.counters
      (processed, { world with
        clients := Function.update world.clients client { shared with counters } })

def addBreadcrumb (hub : HubId) (turn : Nat) (breadcrumb : Breadcrumb)
    (world : World) : World :=
  let (processed, world) := world.processBreadcrumb hub turn breadcrumb
  match processed with
  | none => world
  | some breadcrumb =>
      world.onHub hub (Hub.configureScope fun scope => scope.addBreadcrumb breadcrumb)

section

variable [UnicodeTables]

/-- The section of `capture_event` that stamps the event and runs the client's
pipeline with a scope. -/
def captureWith (hub : HubId) (client : ClientId) (event : ErrorEvent)
    (scope : Scope) (world : World) : World :=
  world.ingest client fun client counters =>
    client.captureEvent ((world.hubs hub).stampEvent event) scope counters

/-- What follows it: an error-level event marks the active session. -/
def captured (hub : HubId) (event : ErrorEvent) (world : World) : World :=
  let world :=
    if event.isErrorLevel then world.onHub hub Hub.markSessionErrored else world
  { world with lastEventId := some event.eventId }

/-- Capture an error event with the hub's top scope.  The returned id is the
event's own. -/
def captureEvent (hub : HubId) (event : ErrorEvent) (world : World) : World :=
  match (world.hubs hub).client with
  | none => world
  | some client =>
      (world.captureWith hub client event (world.hubs hub).scopes.top).captured
        hub event

/-- Start a session; one that is active is replaced. -/
def startSession (hub : HubId) (newTraceId : String) (now : Nat)
    (world : World) : World :=
  match (world.hubs hub).client with
  | none => world
  | some client =>
      let user := (world.hubs hub).scopes.top.user
      match Session.start (world.clients client).client.options user newTraceId now with
      | none => world
      | some session =>
          let world := world.ingest client fun client counters =>
            client.sendSessionStart session.toStart counters
          world.onHub hub fun hub => { hub with session := some session }

def endSessionWithStatusInternal (hub : HubId) (status : Option SessionStatus)
    (now : Nat) (world : World) : World :=
  match (world.hubs hub).client with
  | none => world
  | some client =>
      let taken := (world.hubs hub).session
      let world := world.onHub hub fun hub => { hub with session := none }
      match taken with
      | none => world
      | some session =>
          world.ingest client fun client counters =>
            client.sendSessionEnd (session.toEnd status now) counters

def endSession (hub : HubId) : Nat → World → World :=
  endSessionWithStatusInternal hub none

def endSessionWithStatus (hub : HubId) (status : SessionStatus) :
    Nat → World → World :=
  endSessionWithStatusInternal hub (some status)

end

end World

/-- The guard returned by `init`. -/
structure ClientInitGuard where
  client : ClientId
  endSessionOnDrop : Bool

/-- `ALLSTAK_API_KEY` or `ALLSTAK_DSN` stands in for an empty api key. -/
def ClientOptions.withEnvKey (env : String → Option String)
    (options : ClientOptions) : ClientOptions :=
  if options.apiKey == "" then
    { options with
      apiKey := (env "ALLSTAK_API_KEY" <|> env "ALLSTAK_DSN").getD options.apiKey }
  else options

/-- Whether `init` starts a session. -/
def ClientOptions.autoSession (options : ClientOptions) : Bool :=
  options.autoSessionTracking && decide (options.sessionMode = .application)

namespace World

section

variable [UnicodeTables]

/-- Bind a client to the main hub.  `setup` is what the integrations' setup
makes of the options. -/
def init (env : String → Option String) (options : ClientOptions)
    (setup : ClientOptions → ClientOptions) (newTraceId : String) (now : Nat)
    (world : World) : ClientInitGuard × World :=
  let options := options.withEnvKey env
  let (client, world) := world.newClient (setup options)
  let world := world.onHub main (Hub.bindClient (some client))
  let world :=
    if options.autoSession then world.startSession main newTraceId now else world
  ({ client, endSessionOnDrop := options.autoSession }, world)

/-- The drop of an init guard, up to closing its client's transport. -/
def dropGuard (guard : ClientInitGuard) (now : Nat) (world : World) : World :=
  if guard.endSessionOnDrop then world.endSession main now else world

end

@[simp] theorem onHub_hubs_self (world : World) (hub : HubId)
    (change : Hub → Hub) :
    (world.onHub hub change).hubs hub = change (world.hubs hub) := by
  simp [onHub]

theorem onHub_hubs_of_ne (world : World) {hub other : HubId}
    (change : Hub → Hub) (apart : other ≠ hub) :
    (world.onHub hub change).hubs other = world.hubs other := by
  simp [onHub, apart]

@[simp] theorem onHub_clients (world : World) (hub : HubId)
    (change : Hub → Hub) : (world.onHub hub change).clients = world.clients := rfl

@[simp] theorem onHub_sent (world : World) (hub : HubId)
    (change : Hub → Hub) : (world.onHub hub change).sent = world.sent := rfl

@[simp] theorem onHub_nextHub (world : World) (hub : HubId)
    (change : Hub → Hub) :
    (world.onHub hub change).nextHub = world.nextHub := rfl

@[simp] theorem ingest_nextHub (world : World) (client : ClientId)
    (capture : Client → Counters → Counters × List Envelope) :
    (world.ingest client capture).nextHub = world.nextHub := rfl

@[simp] theorem ingest_hubs (world : World) (client : ClientId)
    (capture : Client → Counters → Counters × List Envelope) :
    (world.ingest client capture).hubs = world.hubs := rfl

/-- Capturing changes the counters of one client and no client's options. -/
@[simp] theorem ingest_options (world : World) (client other : ClientId)
    (capture : Client → Counters → Counters × List Envelope) :
    ((world.ingest client capture).clients other).client =
      (world.clients other).client := by
  by_cases same : other = client
  · subst same
    simp [ingest]
  · simp [ingest, same]

@[simp] theorem processBreadcrumb_hubs (world : World) (hub : HubId) (turn : Nat)
    (breadcrumb : Breadcrumb) :
    (world.processBreadcrumb hub turn breadcrumb).2.hubs = world.hubs := by
  rw [processBreadcrumb]
  split <;> rfl

@[simp] theorem processBreadcrumb_nextHub (world : World) (hub : HubId)
    (turn : Nat) (breadcrumb : Breadcrumb) :
    (world.processBreadcrumb hub turn breadcrumb).2.nextHub = world.nextHub := by
  rw [processBreadcrumb]
  split <;> rfl

theorem ingest_sent (world : World) (client : ClientId)
    (capture : Client → Counters → Counters × List Envelope) :
    (world.ingest client capture).sent = world.sent ++
      ((capture (world.clients client).client (world.clients client).counters).2.map
        fun envelope => (client, envelope)) := rfl

/-- The end of a capture changes the hub's session at most, and of it only the
status. -/
theorem captured_hubs (world : World) (hub : HubId) (event : ErrorEvent) :
    (world.captured hub event).hubs = world.hubs ∨
      (world.captured hub event).hubs =
        (world.onHub hub Hub.markSessionErrored).hubs := by
  rw [captured]
  dsimp only
  split
  · exact .inr rfl
  · exact .inl rfl

@[simp] theorem captured_sent (world : World) (hub : HubId) (event : ErrorEvent) :
    (world.captured hub event).sent = world.sent := by
  rw [captured]
  dsimp only
  split <;> rfl

@[simp] theorem captured_clients (world : World) (hub : HubId)
    (event : ErrorEvent) :
    (world.captured hub event).clients = world.clients := by
  rw [captured]
  dsimp only
  split <;> rfl

@[simp] theorem captured_nextHub (world : World) (hub : HubId)
    (event : ErrorEvent) :
    (world.captured hub event).nextHub = world.nextHub := by
  rw [captured]
  dsimp only
  split <;> rfl

/-- What `mark_session_errored` leaves alone in a hub. -/
theorem captured_keeps {Part : Type} (read : Hub → Part)
    (kept : ∀ hub, read hub.markSessionErrored = read hub) (world : World)
    (hub other : HubId) (event : ErrorEvent) :
    read ((world.captured hub event).hubs other) = read (world.hubs other) := by
  rcases world.captured_hubs hub event with same | marked
  · rw [same]
  · rw [marked]
    by_cases same : other = hub
    · subst same
      rw [onHub_hubs_self]
      exact kept _
    · rw [onHub_hubs_of_ne _ _ same]

@[simp] theorem captured_scopes (world : World) (hub other : HubId)
    (event : ErrorEvent) :
    ((world.captured hub event).hubs other).scopes =
      (world.hubs other).scopes :=
  captured_keeps Hub.scopes (fun _ => rfl) world hub other event

section

variable [UnicodeTables]

@[simp] theorem captureWith_hubs (world : World) (hub : HubId)
    (client : ClientId) (event : ErrorEvent) (scope : Scope) :
    (world.captureWith hub client event scope).hubs = world.hubs := rfl

theorem captureEvent_keeps {Part : Type} (read : Hub → Part)
    (kept : ∀ hub, read hub.markSessionErrored = read hub) (world : World)
    (hub other : HubId) (event : ErrorEvent) :
    read ((world.captureEvent hub event).hubs other) =
      read (world.hubs other) := by
  rw [captureEvent]
  split
  · rfl
  · rw [captured_keeps read kept, captureWith_hubs]

@[simp] theorem captureEvent_scopes (world : World) (hub other : HubId)
    (event : ErrorEvent) :
    ((world.captureEvent hub event).hubs other).scopes =
      (world.hubs other).scopes :=
  captureEvent_keeps Hub.scopes (fun _ => rfl) world hub other event

@[simp] theorem captureEvent_client (world : World) (hub other : HubId)
    (event : ErrorEvent) :
    ((world.captureEvent hub event).hubs other).client =
      (world.hubs other).client :=
  captureEvent_keeps Hub.client (fun _ => rfl) world hub other event

/-- Capturing an event changes no client's options. -/
@[simp] theorem captureEvent_options (world : World) (hub : HubId)
    (client : ClientId) (event : ErrorEvent) :
    ((world.captureEvent hub event).clients client).client =
      (world.clients client).client := by
  rw [captureEvent]
  split
  · rfl
  · rw [captured_clients, captureWith, ingest_options]

@[simp] theorem captureEvent_nextHub (world : World) (hub : HubId)
    (event : ErrorEvent) :
    (world.captureEvent hub event).nextHub = world.nextHub := by
  rw [captureEvent]
  split
  · rfl
  · rw [captured_nextHub, captureWith, ingest_nextHub]

end

end World

end Allstak
