import Allstak.Middleware
import Allstak.Library.Machine

/-!
# Requests behind the axum layer, on threads

The layer binds a request's hub around the synchronous call of the inner
service.  The handler's future is polled later, on any thread, with whatever
hub is current there.  Threads interleave freely; code outside the layer may
bind hubs too.
-/

namespace Allstak

namespace RequestIsolation

/-- What a thread is in the middle of: a `Hub::run` of other code, the one
around the call of a request, or a poll of a request's future. -/
inductive Frame where
  | bound (saved : Option HubId)
  | calling (request : Nat) (saved : Option HubId)
  | polling (request : Nat)

/-- The request whose handler is running, innermost first. -/
def innermost : List Frame → Option Nat
  | [] => none
  | .bound _ :: frames => innermost frames
  | .calling request _ :: _ => some request
  | .polling request :: _ => some request

/-- `slot` is the thread's `CURRENT_HUB`. -/
structure Thread where
  slot : Option HubId := none
  frames : List Frame := []

def Thread.current (thread : Thread) : HubId := World.current thread.slot

/-- Whether the returned future has not been polled, is being polled, waits to
be polled again, or is done. -/
inductive Phase where
  | waiting
  | running
  | suspended
  | finished
  deriving DecidableEq

/-- A change of a scope. -/
inductive Change where
  | setTag (key value : String)
  | setUser (user : Option User)
  | addBreadcrumb (breadcrumb : Breadcrumb)

def Change.apply (scope : Scope) : Change → Scope
  | .setTag key value => scope.setTag key value
  | .setUser user => scope.setUser user
  | .addBreadcrumb breadcrumb => scope.addBreadcrumb breadcrumb

/-- A request, the hub current where it arrived, and the changes its handler has
made so far. -/
structure RequestState where
  pending : Pending
  origin : HubId
  changes : List Change := []

/-- `made` counts the changes of the request's handler before the capture. -/
structure Capture where
  request : Nat
  event : ErrorEvent
  scope : Scope
  made : Nat

structure State where
  world : World
  threads : Nat → Thread
  requests : List RequestState := []
  phases : Nat → Phase := fun _ => .waiting
  captures : List Capture := []

/-- What a handler does to the current hub. -/
inductive Action where
  | setTag (key value : String)
  | setUser (user : Option User)
  | addBreadcrumb (turn : Nat) (breadcrumb : Breadcrumb)
  | captureEvent (event : ErrorEvent)

namespace Action

/-- The change an action makes to the top scope. -/
def change (hub : HubId) (world : World) : Action → Option Change
  | setTag key value => some (.setTag key value)
  | setUser user => some (.setUser user)
  | addBreadcrumb turn breadcrumb =>
      (world.processBreadcrumb hub turn breadcrumb).1.map .addBreadcrumb
  | captureEvent _ => none

/-- The event an action captures. -/
def captured (hub : HubId) (world : World) : Action → Option ErrorEvent
  | captureEvent event => (world.hubs hub).client.map fun _ => event
  | _ => none

section

variable [UnicodeTables]

def perform (hub : HubId) (world : World) : Action → World
  | setTag key value =>
      world.onHub hub (Hub.configureScope fun scope => scope.setTag key value)
  | setUser user => world.onHub hub (Hub.setUser user)
  | addBreadcrumb turn breadcrumb => world.addBreadcrumb hub turn breadcrumb
  | captureEvent event => world.captureEvent hub event

theorem perform_scopes_of_ne (hub : HubId) (world : World) (action : Action)
    {other : HubId} (apart : other ≠ hub) :
    ((action.perform hub world).hubs other).scopes =
      (world.hubs other).scopes := by
  cases action with
  | setTag key value => rw [perform, World.onHub_hubs_of_ne _ _ apart]
  | setUser user => rw [perform, World.onHub_hubs_of_ne _ _ apart]
  | addBreadcrumb turn breadcrumb =>
      rw [perform, World.addBreadcrumb]
      dsimp only
      split
      · rw [World.processBreadcrumb_hubs]
      · rw [World.onHub_hubs_of_ne _ _ apart, World.processBreadcrumb_hubs]
  | captureEvent event => rw [perform, World.captureEvent_scopes]

theorem perform_top (hub : HubId) (world : World) (action : Action) :
    ((action.perform hub world).hubs hub).scopes.top =
      (action.change hub world).toList.foldl Change.apply
        (world.hubs hub).scopes.top := by
  cases action with
  | setTag key value =>
      simp [perform, change, Hub.configureScope, Change.apply]
  | setUser user =>
      simp [perform, change, Hub.setUser, Hub.configureScope, Change.apply]
  | addBreadcrumb turn breadcrumb =>
      rw [perform, World.addBreadcrumb, change]
      dsimp only
      cases (world.processBreadcrumb hub turn breadcrumb).1 with
      | none => simp
      | some kept => simp [Hub.configureScope, Change.apply]
  | captureEvent event => simp [perform, change]

@[simp] theorem perform_nextHub (hub : HubId) (world : World) (action : Action) :
    (action.perform hub world).nextHub = world.nextHub := by
  cases action with
  | setTag key value => rfl
  | setUser user => rfl
  | addBreadcrumb turn breadcrumb =>
      rw [perform, World.addBreadcrumb]
      dsimp only
      split
      · rw [World.processBreadcrumb_nextHub]
      · rw [World.onHub_nextHub, World.processBreadcrumb_nextHub]
  | captureEvent event => rw [perform, World.captureEvent_nextHub]

end

end Action

/-- Each label names a thread and what happens on it. -/
inductive Label where
  /-- `Hub::run` of other code is entered or left. -/
  | bind (thread : Nat) (hub : HubId)
  | unbind (thread : Nat)
  | arrive (thread : Nat) (arrival : Arrival)
  /-- The first poll starts with the call of the inner service, under
  `Hub::run`, and goes on to the first poll of its future. -/
  | beginCall (thread request : Nat)
  | endCall (thread : Nat)
  | beginPoll (thread request : Nat)
  | suspend (thread : Nat)
  | finish (thread : Nat) (answer : Answer) (moment : Moment)
  | act (thread : Nat) (action : Action)

namespace State

def setThread (index : Nat) (thread : Thread) (state : State) : State :=
  { state with threads := Function.update state.threads index thread }

def setPhase (request : Nat) (phase : Phase) (state : State) : State :=
  { state with phases := Function.update state.phases request phase }

def hubOf (state : State) (request : Nat) : Option HubId :=
  state.requests[request]?.map fun served => served.pending.hub

@[simp] theorem setThread_threads_self (state : State) (index : Nat)
    (thread : Thread) : (state.setThread index thread).threads index = thread :=
  Function.update_self _ _ _

theorem setThread_threads_of_ne (state : State) {index other : Nat}
    (thread : Thread) (apart : other ≠ index) :
    (state.setThread index thread).threads other = state.threads other :=
  Function.update_of_ne apart _ _

@[simp] theorem setThread_phases (state : State) (index : Nat) (thread : Thread) :
    (state.setThread index thread).phases = state.phases := rfl

@[simp] theorem setPhase_threads (state : State) (request : Nat) (phase : Phase) :
    (state.setPhase request phase).threads = state.threads := rfl

@[simp] theorem setPhase_phases_self (state : State) (request : Nat)
    (phase : Phase) : (state.setPhase request phase).phases request = phase :=
  Function.update_self _ _ _

theorem setPhase_phases_of_ne (state : State) {request other : Nat}
    (phase : Phase) (apart : other ≠ request) :
    (state.setPhase request phase).phases other = state.phases other :=
  Function.update_of_ne apart _ _

end State

section

variable [UnicodeTables]

def step (layer : AllstakLayer) (state : State) : Label → Option State
  | .bind index hub =>
      let thread := state.threads index
      if hub < state.world.nextHub then
        some (state.setThread index
          { slot := some hub, frames := .bound thread.slot :: thread.frames })
      else none
  | .unbind index =>
      match (state.threads index).frames with
      | .bound saved :: frames =>
          some (state.setThread index { slot := saved, frames })
      | _ => none
  | .arrive index arrival =>
      let origin := (state.threads index).current
      let (pending, world) := layer.call origin arrival state.world
      some { state with
        world, requests := state.requests ++ [{ pending, origin }] }
  | .beginCall index request =>
      let thread := state.threads index
      if state.phases request = .waiting then
        (state.hubOf request).map fun hub =>
          (state.setPhase request .running).setThread index
            { slot := some hub
              frames := .calling request thread.slot :: thread.frames }
      else none
  | .endCall index =>
      match (state.threads index).frames with
      | .calling request saved :: frames =>
          some (state.setThread index
            { slot := saved, frames := .polling request :: frames })
      | _ => none
  | .beginPoll index request =>
      let thread := state.threads index
      if state.phases request = .suspended then
        some ((state.setPhase request .running).setThread index
          { thread with frames := .polling request :: thread.frames })
      else none
  | .suspend index =>
      let thread := state.threads index
      match thread.frames with
      | .polling request :: frames =>
          some ((state.setPhase request .suspended).setThread index
            { thread with frames })
      | _ => none
  | .finish index answer moment =>
      let thread := state.threads index
      match thread.frames with
      | .polling request :: frames =>
          state.requests[request]?.map fun served =>
            { (state.setPhase request .finished).setThread index
                { thread with frames } with
              world := AllstakLayer.complete served.pending answer moment
                state.world }
      | _ => none
  | .act index action =>
      let hub := (state.threads index).current
      (innermost (state.threads index).frames).bind fun request =>
        state.requests[request]?.map fun served =>
          { state with
            world := action.perform hub state.world
            requests := state.requests.set request
              { served with
                changes := served.changes ++
                  (action.change hub state.world).toList }
            captures := state.captures ++
              (action.captured hub state.world).toList.map fun event =>
                { request, event
                  scope := (state.world.hubs hub).scopes.top
                  made := served.changes.length } }

/-- What a step needs and what it does, label by label. -/
inductive Move (layer : AllstakLayer) (state : State) : Label → State → Prop where
  | bind {index : Nat} {hub : HubId} (known : hub < state.world.nextHub) :
      Move layer state (.bind index hub)
        (state.setThread index
          { slot := some hub
            frames := .bound (state.threads index).slot ::
              (state.threads index).frames })
  | unbind {index : Nat} {saved : Option HubId} {frames : List Frame}
      (top : (state.threads index).frames = .bound saved :: frames) :
      Move layer state (.unbind index)
        (state.setThread index { slot := saved, frames })
  | arrive {index : Nat} {arrival : Arrival} {origin : HubId}
      (current : (state.threads index).current = origin) :
      Move layer state (.arrive index arrival)
        { state with
          world := (layer.call origin arrival state.world).2
          requests := state.requests ++
            [{ pending := (layer.call origin arrival state.world).1, origin }] }
  | beginCall {index request : Nat} {hub : HubId}
      (waiting : state.phases request = .waiting)
      (found : state.hubOf request = some hub) :
      Move layer state (.beginCall index request)
        ((state.setPhase request .running).setThread index
          { slot := some hub
            frames := .calling request (state.threads index).slot ::
              (state.threads index).frames })
  | endCall {index request : Nat} {saved : Option HubId} {frames : List Frame}
      (top : (state.threads index).frames = .calling request saved :: frames) :
      Move layer state (.endCall index)
        (state.setThread index
          { slot := saved, frames := .polling request :: frames })
  | beginPoll {index request : Nat}
      (suspended : state.phases request = .suspended) :
      Move layer state (.beginPoll index request)
        ((state.setPhase request .running).setThread index
          { state.threads index with
            frames := .polling request :: (state.threads index).frames })
  | suspend {index request : Nat} {frames : List Frame}
      (top : (state.threads index).frames = .polling request :: frames) :
      Move layer state (.suspend index)
        ((state.setPhase request .suspended).setThread index
          { state.threads index with frames })
  | finish {index request : Nat} {answer : Answer} {moment : Moment}
      {frames : List Frame} {served : RequestState}
      (top : (state.threads index).frames = .polling request :: frames)
      (listed : state.requests[request]? = some served) :
      Move layer state (.finish index answer moment)
        { (state.setPhase request .finished).setThread index
            { state.threads index with frames } with
          world := AllstakLayer.complete served.pending answer moment
            state.world }
  | act {index request : Nat} {action : Action} {served : RequestState}
      {hub : HubId} (current : (state.threads index).current = hub)
      (running : innermost (state.threads index).frames = some request)
      (listed : state.requests[request]? = some served) :
      Move layer state (.act index action)
        { state with
          world := action.perform hub state.world
          requests := state.requests.set request
            { served with
              changes := served.changes ++
                (action.change hub state.world).toList }
          captures := state.captures ++
            (action.captured hub state.world).toList.map fun event =>
              { request, event
                scope := (state.world.hubs hub).scopes.top
                made := served.changes.length } }

theorem move_of_step {layer : AllstakLayer} {state after : State} {label : Label}
    (moved : step layer state label = some after) :
    Move layer state label after := by
  cases label with
  | bind index hub =>
      rw [step] at moved
      split at moved
      · rename_i known
        cases moved
        exact .bind known
      · cases moved
  | unbind index =>
      rw [step] at moved
      split at moved
      · rename_i saved frames top
        cases moved
        exact .unbind top
      · cases moved
  | arrive index arrival =>
      cases moved
      exact .arrive rfl
  | beginCall index request =>
      rw [step] at moved
      split at moved
      · rename_i waiting
        obtain ⟨hub, found, rfl⟩ := Option.map_eq_some_iff.mp moved
        exact .beginCall waiting found
      · cases moved
  | endCall index =>
      rw [step] at moved
      split at moved
      · rename_i request saved frames top
        cases moved
        exact .endCall top
      · cases moved
  | beginPoll index request =>
      rw [step] at moved
      split at moved
      · rename_i suspended
        cases moved
        exact .beginPoll suspended
      · cases moved
  | suspend index =>
      rw [step] at moved
      split at moved
      · rename_i request frames top
        cases moved
        exact .suspend top
      · cases moved
  | finish index answer moment =>
      rw [step] at moved
      split at moved
      · rename_i request frames top
        obtain ⟨served, listed, rfl⟩ := Option.map_eq_some_iff.mp moved
        exact .finish top listed
      · cases moved
  | act index action =>
      rw [step] at moved
      obtain ⟨request, running, rest⟩ := Option.bind_eq_some_iff.mp moved
      obtain ⟨served, listed, rfl⟩ := Option.map_eq_some_iff.mp rest
      exact .act rfl running listed

/-- No request yet; threads may have hubs of the process bound. -/
def Starts (before : World) (state : State) : Prop :=
  state.world = before ∧ state.requests = [] ∧ state.captures = [] ∧
    0 < before.nextHub ∧
    ∀ index, (state.threads index).frames = [] ∧
      (state.threads index).current < before.nextHub

def machine (layer : AllstakLayer) (before : World) :
    Library.Machine State Label where
  start := Starts before
  next := step layer

end

end RequestIsolation

end Allstak
