import Allstak.RequestThreads
import Allstak.Library.Pool

/-!
# Request isolation behind the axum layer

When every poll finds its request's hub current, each event is captured with
the scope that its own request's handler has built.
-/

namespace Allstak

namespace RequestIsolation

/-- A poll starts where its request's hub is current, a handler binds no other
hub than its request's, and no request arrives inside another. -/
def pollsBound (state : State) : Label → Bool
  | .bind index hub =>
      match innermost (state.threads index).frames with
      | none => true
      | some request => decide (state.hubOf request = some hub)
  | .arrive index _ =>
      state.requests.all fun served =>
        decide (served.pending.hub ≠ (state.threads index).current)
  | .endCall index =>
      match (state.threads index).frames with
      | .calling request saved :: _ =>
          decide (state.hubOf request = some (World.current saved))
      | _ => true
  | .beginPoll index request =>
      decide (state.hubOf request = some (state.threads index).current)
  | _ => true

/-- In every frame of a thread the hub of the innermost request is current.
Request `n` has the hub `first + n`. -/
def Bound (first count : Nat) : Option HubId → List Frame → Prop
  | slot, [] => World.current slot < first + count
  | slot, .bound saved :: frames =>
      World.current slot < first + count ∧
        (∀ request, innermost frames = some request →
          World.current slot = first + request) ∧
        Bound first count saved frames
  | slot, .calling request saved :: frames =>
      World.current slot = first + request ∧ request < count ∧
        Bound first count saved frames
  | slot, .polling request :: frames =>
      World.current slot = first + request ∧ request < count ∧
        Bound first count slot frames

namespace Bound

variable {first count : Nat} {slot : Option HubId} {frames : List Frame}

theorem current_lt (bound : Bound first count slot frames) :
    World.current slot < first + count := by
  match frames with
  | [] => exact bound
  | .bound saved :: frames => exact bound.1
  | .calling request saved :: frames =>
      obtain ⟨current, below, _⟩ := bound
      exact current ▸ Nat.add_lt_add_left below first
  | .polling request :: frames =>
      obtain ⟨current, below, _⟩ := bound
      exact current ▸ Nat.add_lt_add_left below first

theorem innermost_lt (bound : Bound first count slot frames) {request : Nat}
    (running : innermost frames = some request) : request < count := by
  induction frames generalizing slot with
  | nil => cases running
  | cons frame frames induction =>
      cases frame with
      | bound saved => exact induction bound.2.2 running
      | calling inner saved | polling inner =>
          obtain rfl : inner = request := by simpa [innermost] using running
          exact bound.2.1

theorem current_eq (bound : Bound first count slot frames) {request : Nat}
    (running : innermost frames = some request) :
    World.current slot = first + request := by
  match frames with
  | [] => cases running
  | .bound saved :: frames => exact bound.2.1 request running
  | .calling inner saved :: frames =>
      obtain rfl : inner = request := by simpa [innermost] using running
      exact bound.1
  | .polling inner :: frames =>
      obtain rfl : inner = request := by simpa [innermost] using running
      exact bound.1

theorem mono {more : Nat} (bound : Bound first count slot frames)
    (grown : count ≤ more) : Bound first more slot frames := by
  induction frames generalizing slot with
  | nil =>
      have below : World.current slot < first + count := bound
      exact Nat.lt_of_lt_of_le below (Nat.add_le_add_left grown first)
  | cons frame frames induction =>
      cases frame with
      | bound saved =>
          obtain ⟨below, own, rest⟩ := bound
          exact ⟨Nat.lt_of_lt_of_le below (Nat.add_le_add_left grown first), own,
            induction rest⟩
      | calling request saved | polling request =>
          obtain ⟨current, below, rest⟩ := bound
          exact ⟨current, Nat.lt_of_lt_of_le below grown, induction rest⟩

end Bound

namespace RequestState

/-- The scope a request starts with: that of the hub it arrived on, as it was
before the run, with the ids of the request. -/
def start (before : World) (request : RequestState) : Scope :=
  request.pending.scope (before.hubs request.origin).scopes.top

/-- The scope as the first changes of the request's own handler make it. -/
def scopeAfter (before : World) (made : Nat) (request : RequestState) : Scope :=
  (request.changes.take made).foldl Change.apply (request.start before)

/-- More changes come after those made so far. -/
theorem scopeAfter_extended (request : RequestState) (before : World)
    (more : List Change) :
    scopeAfter before (request.changes ++ more).length
        { request with changes := request.changes ++ more } =
      more.foldl Change.apply
        (request.scopeAfter before request.changes.length) := by
  rw [scopeAfter, scopeAfter, List.take_length, List.take_length,
    List.foldl_append]
  rfl

private theorem scopeAfter_extended_of_le (request : RequestState)
    (before : World)
    (more : List Change) {made : Nat} (early : made ≤ request.changes.length) :
    scopeAfter before made
        { request with changes := request.changes ++ more } =
      request.scopeAfter before made := by
  rw [scopeAfter, scopeAfter, List.take_append_of_le_length early]
  rfl

end RequestState

structure Isolated (before : World) (state : State) : Prop where
  hubs : ∀ (index : Nat) (request : RequestState),
    state.requests[index]? = some request →
    request.pending.hub = before.nextHub + index ∧
      request.origin < before.nextHub
  allocated : state.world.nextHub = before.nextHub + state.requests.length
  bound : ∀ index, Bound before.nextHub state.requests.length
    (state.threads index).slot (state.threads index).frames
  old : ∀ hub < before.nextHub,
    (state.world.hubs hub).scopes = (before.hubs hub).scopes
  own : ∀ (index : Nat) (request : RequestState),
    state.requests[index]? = some request →
    (state.world.hubs request.pending.hub).scopes.top =
      request.scopeAfter before request.changes.length
  captured : ∀ capture ∈ state.captures, ∃ request,
    state.requests[capture.request]? = some request ∧
      capture.made ≤ request.changes.length ∧
      capture.scope = request.scopeAfter before capture.made

namespace Isolated

variable {before : World} {state : State}

theorem hubOf_eq (isolated : Isolated before state) {request : Nat} {hub : HubId}
    (found : state.hubOf request = some hub) :
    hub = before.nextHub + request ∧ request < state.requests.length := by
  obtain ⟨served, listed, rfl⟩ := Option.map_eq_some_iff.mp found
  exact ⟨(isolated.hubs request served listed).1,
    (List.getElem?_eq_some_iff.mp listed).1⟩

theorem setThread (isolated : Isolated before state) (index : Nat)
    {thread : Thread}
    (bound : Bound before.nextHub state.requests.length thread.slot thread.frames) :
    Isolated before (state.setThread index thread) :=
  { isolated with
    bound := by
      intro other
      by_cases own : other = index
      · subst own
        rw [State.setThread_threads_self]
        exact bound
      · rw [State.setThread_threads_of_ne _ _ own]
        exact isolated.bound other }

theorem setPhase (isolated : Isolated before state) (request : Nat)
    (phase : Phase) : Isolated before (state.setPhase request phase) :=
  { isolated with }

/-- A world with the same scopes in which no hub was made. -/
theorem setWorld (isolated : Isolated before state) {world : World}
    (nextHub : world.nextHub = state.world.nextHub)
    (scopes : ∀ hub, (world.hubs hub).scopes = (state.world.hubs hub).scopes) :
    Isolated before { state with world } :=
  { isolated with
    allocated := nextHub.trans isolated.allocated
    old := fun hub known => (scopes hub).trans (isolated.old hub known)
    own := by
      intro index request found
      rw [scopes]
      exact isolated.own index request found }

/-- A request arrives on a hub that is no request's. -/
theorem arrive (isolated : Isolated before state) (layer : AllstakLayer)
    (index : Nat) (arrival : Arrival)
    (apart : ∀ served ∈ state.requests,
      served.pending.hub ≠ (state.threads index).current) :
    Isolated before
      { state with
        world := (layer.call (state.threads index).current arrival state.world).2
        requests := state.requests ++
          [{ pending := (layer.call (state.threads index).current arrival
              state.world).1
             origin := (state.threads index).current }] } := by
  let origin := (state.threads index).current
  have newHub : (layer.call origin arrival state.world).1.hub =
      before.nextHub + state.requests.length :=
    (layer.call_hub origin arrival state.world).trans isolated.allocated
  have originOld : origin < before.nextHub := by
    have below : origin < before.nextHub + state.requests.length :=
      (isolated.bound index).current_lt
    by_contra notOld
    obtain ⟨place, same⟩ := Nat.exists_eq_add_of_le (Nat.le_of_not_lt notOld)
    have listed : place < state.requests.length := by
      have shifted : before.nextHub + place < before.nextHub + state.requests.length :=
        same ▸ below
      exact Nat.lt_of_add_lt_add_left shifted
    have found := List.getElem?_eq_getElem listed
    have hub := (isolated.hubs place _ found).1
    exact apart _ (List.getElem_mem listed) (hub.trans same.symm)
  have others : ∀ hub, hub < before.nextHub + state.requests.length →
      (layer.call origin arrival state.world).2.hubs hub =
        state.world.hubs hub := by
    intro hub known
    apply layer.call_hubs_of_ne
    rw [isolated.allocated]
    exact Nat.ne_of_lt known
  have kept : ∀ (place : Nat) (request : RequestState),
      state.requests[place]? = some request →
        (layer.call origin arrival state.world).2.hubs request.pending.hub =
          state.world.hubs request.pending.hub := by
    intro place request found
    apply others
    rw [(isolated.hubs place request found).1]
    exact Nat.add_lt_add_left (List.getElem?_eq_some_iff.mp found).1 _
  constructor
  · intro place request found
    rcases Library.Pool.getElem?_concat_cases found with old | ⟨rfl, rfl⟩
    · exact isolated.hubs place request old
    · exact ⟨newHub, originOld⟩
  · rw [List.length_append, ← Nat.add_assoc, ← isolated.allocated]
    exact layer.call_nextHub origin arrival state.world
  · intro thread
    rw [List.length_append]
    exact (isolated.bound thread).mono (Nat.le_add_right _ _)
  · intro hub known
    have below : hub < before.nextHub + state.requests.length :=
      Nat.lt_of_lt_of_le known (Nat.le_add_right _ _)
    rw [← isolated.old hub known]
    exact congrArg Hub.scopes (others hub below)
  · intro place request found
    rcases Library.Pool.getElem?_concat_cases found with old | ⟨rfl, rfl⟩
    · rw [← isolated.own place request old]
      exact congrArg (fun hub => hub.scopes.top) (kept place request old)
    · have started := layer.call_top origin arrival state.world
      have base := congrArg ScopeStack.top (isolated.old origin originOld)
      rw [base] at started
      exact started
  · intro capture member
    obtain ⟨request, listed, made, same⟩ := isolated.captured capture member
    have inside := (List.getElem?_eq_some_iff.mp listed).1
    refine ⟨request, ?_, made, same⟩
    rw [List.getElem?_append_left inside, listed]

theorem finish (isolated : Isolated before state) [UnicodeTables]
    (pending : Pending) (answer : Answer) (moment : Moment) :
    Isolated before
      { state with
        world := AllstakLayer.complete pending answer moment state.world } := by
  apply isolated.setWorld
  · exact AllstakLayer.complete_nextHub pending answer moment state.world
  · exact AllstakLayer.complete_scopes pending answer moment state.world

/-- A handler acts on the hub of its request. -/
theorem act (isolated : Isolated before state) [UnicodeTables] {index : Nat}
    {request : Nat} {served : RequestState} (action : Action)
    (running : innermost (state.threads index).frames = some request)
    (listed : state.requests[request]? = some served) :
    let hub := (state.threads index).current
    Isolated before
      { state with
        world := action.perform hub state.world
        requests := state.requests.set request
          { served with
            changes := served.changes ++ (action.change hub state.world).toList }
        captures := state.captures ++
          (action.captured hub state.world).toList.map fun event =>
            { request, event
              scope := (state.world.hubs hub).scopes.top
              made := served.changes.length } } := by
  intro hub
  let acted : RequestState :=
    { served with
      changes := served.changes ++ (action.change hub state.world).toList }
  obtain ⟨servedHub, servedOrigin⟩ := isolated.hubs request served listed
  have onOwn : hub = served.pending.hub :=
    ((isolated.bound index).current_eq running).trans servedHub.symm
  have inside := (List.getElem?_eq_some_iff.mp listed).1
  have present : (state.requests.set request acted)[request]? = some acted :=
    List.getElem?_set_self inside
  have top : (state.world.hubs hub).scopes.top =
      served.scopeAfter before served.changes.length := by
    rw [onOwn]
    exact isolated.own request served listed
  constructor
  · intro place found seen
    rcases Library.Pool.getElem?_set_cases inside seen with ⟨rfl, rfl⟩ | ⟨_, old⟩
    · exact ⟨servedHub, servedOrigin⟩
    · exact isolated.hubs place found old
  · rw [List.length_set, Action.perform_nextHub]
    exact isolated.allocated
  · rw [List.length_set]
    exact isolated.bound
  · intro other known
    have apart : other ≠ hub := by
      rw [onOwn, servedHub]
      exact Nat.ne_of_lt (Nat.lt_of_lt_of_le known (Nat.le_add_right _ _))
    dsimp only
    rw [action.perform_scopes_of_ne hub state.world apart]
    exact isolated.old other known
  · intro place found seen
    rcases Library.Pool.getElem?_set_cases inside seen with
      ⟨rfl, rfl⟩ | ⟨different, old⟩
    · dsimp only
      rw [← onOwn, action.perform_top, top]
      exact (served.scopeAfter_extended before _).symm
    · have apart : found.pending.hub ≠ hub := by
        rw [onOwn, servedHub, (isolated.hubs place found old).1]
        exact fun same => different (Nat.add_left_cancel same)
      dsimp only
      rw [action.perform_scopes_of_ne hub state.world apart]
      exact isolated.own place found old
  · intro capture member
    rcases List.mem_append.mp member with old | new
    · obtain ⟨found, seen, made, same⟩ := isolated.captured capture old
      by_cases own : capture.request = request
      · rw [own, listed, Option.some.injEq] at seen
        subst seen
        refine ⟨acted, own ▸ present, ?_, ?_⟩
        · exact List.length_append ▸ Nat.le_add_right_of_le made
        · rw [same]
          exact (served.scopeAfter_extended_of_le before _ made).symm
      · refine ⟨found, ?_, made, same⟩
        rw [List.getElem?_set_ne (Ne.symm own)]
        exact seen
    · obtain ⟨event, _, rfl⟩ := List.mem_map.mp new
      refine ⟨acted, present, ?_, ?_⟩
      · exact List.length_append ▸ Nat.le_add_right _ _
      · dsimp only
        rw [top]
        exact (served.scopeAfter_extended_of_le before _ (Nat.le_refl _)).symm

theorem initial (started : Starts before state) : Isolated before state := by
  obtain ⟨rfl, noRequests, noCaptures, _, threads⟩ := started
  constructor
  · intro index request found
    rw [noRequests] at found
    cases found
  · rw [noRequests]
    rfl
  · intro index
    obtain ⟨noFrames, known⟩ := threads index
    rw [noFrames, noRequests]
    exact known
  · intro hub _
    rfl
  · intro index request found
    rw [noRequests] at found
    cases found
  · intro capture member
    rw [noCaptures] at member
    cases member

/-- Every admitted step keeps the frames of its thread in order. -/
theorem step (isolated : Isolated before state) [UnicodeTables]
    {layer : AllstakLayer} {label : Label} {after : State}
    (admitted : pollsBound state label = true)
    (moved : RequestIsolation.step layer state label = some after) :
    Isolated before after := by
  cases move_of_step moved with
  | @bind index hub known =>
      apply isolated.setThread
      refine ⟨?_, ?_, isolated.bound index⟩
      · rw [← isolated.allocated]
        exact known
      · intro request running
        have own : state.hubOf request = some hub := by
          simpa [pollsBound, running] using admitted
        exact (isolated.hubOf_eq own).1
  | @unbind index saved frames top =>
      have bound := isolated.bound index
      rw [top] at bound
      exact isolated.setThread index bound.2.2
  | @arrive index arrival origin current =>
      subst current
      apply isolated.arrive
      intro served member
      have apart := List.all_eq_true.mp admitted served member
      exact of_decide_eq_true apart
  | @beginCall index request hub waiting found =>
      obtain ⟨own, known⟩ := isolated.hubOf_eq found
      apply (isolated.setPhase request .running).setThread
      exact ⟨own, known, isolated.bound index⟩
  | @endCall index request saved frames top =>
      have bound := isolated.bound index
      rw [top] at bound
      have own : state.hubOf request = some (World.current saved) := by
        simpa [pollsBound, top] using admitted
      apply isolated.setThread
      exact ⟨(isolated.hubOf_eq own).1, bound.2.1, bound.2.2⟩
  | @beginPoll index request suspended =>
      obtain ⟨own, known⟩ := isolated.hubOf_eq (of_decide_eq_true admitted)
      apply (isolated.setPhase request .running).setThread
      exact ⟨own, known, isolated.bound index⟩
  | @suspend index request frames top =>
      have bound := isolated.bound index
      rw [top] at bound
      exact (isolated.setPhase request .suspended).setThread index bound.2.2
  | @finish index request answer moment frames served top listed =>
      have bound := isolated.bound index
      rw [top] at bound
      have popped : Isolated before
          ((state.setPhase request .finished).setThread index
            { state.threads index with frames }) :=
        (isolated.setPhase request .finished).setThread index bound.2.2
      exact popped.finish served.pending answer moment
  | act current running listed =>
      subst current
      exact isolated.act _ running listed

end Isolated

section

variable [UnicodeTables]

private theorem isolated_of_reach {layer : AllstakLayer} {before : World}
    {state : State} (reached : (machine layer before).Reach
      (fun state label => pollsBound state label = true) state) :
    Isolated before state := by
  apply reached.induct
  · intro state started
    exact .initial started
  · intro state label after isolated admitted moved
    exact isolated.step admitted moved

/-- When every poll finds its request's hub current, a running handler always
does, and each event is captured with the scope its request started with,
changed by the handler of that request alone. -/
theorem requests_isolated {layer : AllstakLayer} {before : World} {state : State}
    (reached : (machine layer before).Reach
      (fun state label => pollsBound state label = true) state) :
    (∀ (index request : Nat),
      innermost (state.threads index).frames = some request →
        state.hubOf request = some (state.threads index).current) ∧
    ∀ capture ∈ state.captures, ∃ request,
      state.requests[capture.request]? = some request ∧
        request.origin < before.nextHub ∧
        capture.scope = request.scopeAfter before capture.made := by
  have isolated := isolated_of_reach reached
  constructor
  · intro index request running
    have listed := (isolated.bound index).innermost_lt running
    have found := List.getElem?_eq_getElem listed
    rw [State.hubOf, found, Option.map_some, (isolated.hubs request _ found).1]
    exact congrArg some ((isolated.bound index).current_eq running).symm
  · intro capture member
    obtain ⟨request, found, _, same⟩ := isolated.captured capture member
    exact ⟨request, found, (isolated.hubs _ request found).2, same⟩

end

/-- A client is bound to the main hub. -/
def mainWorld : World :=
  { World.initial with
    hubs := fun _ => Hub.new (some 0) (Scope.new 100)
    nextClient := 1 }

/-- No thread has bound a hub. -/
def idle : State :=
  { world := mainWorld, threads := fun _ => {} }

def plainArrival : Arrival :=
  let moment : Moment := { instant := 0, millis := 0, iso8601 := "" }
  { request :=
      { method := "GET", headers := fun _ => none, rawPath := "/",
        matchedPath := none, connectionHost := "" }
    newTraceId := "trace"
    newSpanId := "span"
    arrived := moment
    completed := moment }

def setTenant (thread : Nat) : Label := .act thread (.setTag "tenant" "a")

def captureError (thread : Nat) : Label :=
  .act thread
    (.captureEvent { eventId := 0, exceptionClass := "E", message := "m" })

private theorem idle_starts : Starts mainWorld idle := by
  refine ⟨rfl, rfl, rfl, ?_, ?_⟩
  · decide
  · intro index
    refine ⟨rfl, ?_⟩
    change World.main < mainWorld.nextHub
    decide

/-- Request 0 sets a tag in its first poll, on thread 0; request 1 captures an
event in its own first poll, on thread 1. -/
def plainPolls : List Label :=
  [.arrive 0 plainArrival, .arrive 1 plainArrival,
    .beginCall 0 0, .endCall 0, setTenant 0,
    .beginCall 1 1, .endCall 1, captureError 1]

/-- The handlers run on the main hub, and the event of request 1 carries the tag
of request 0. -/
theorem polls_share_main_hub :
    ∃ state : State,
      (@machine asciiTables AllstakLayer.new mainWorld).Reachable state ∧
        (∃ index request : Nat,
          innermost (state.threads index).frames = some request ∧
            state.hubOf request ≠ some (state.threads index).current) ∧
        state.captures.map (fun capture =>
          (capture.request, capture.scope.tags)) = [(1, [("tenant", "a")])] ∧
        state.requests.map (fun request =>
          (request.origin, request.changes.length)) =
          [(World.main, 1), (World.main, 0)] ∧
        (mainWorld.hubs World.main).scopes.top.tags = [] := by
  let _ := asciiTables
  have run : ((machine AllstakLayer.new mainWorld).exec idle plainPolls).map
        (fun state => decide
          (innermost (state.threads 1).frames = some 1 ∧
            state.hubOf 1 ≠ some (state.threads 1).current ∧
            state.captures.map (fun capture =>
              (capture.request, capture.scope.tags)) = [(1, [("tenant", "a")])] ∧
            state.requests.map (fun request =>
              (request.origin, request.changes.length)) =
              [(World.main, 1), (World.main, 0)])) = some true := by
    decide
  obtain ⟨state, reached, shown⟩ := Option.map_eq_some_iff.mp run
  obtain ⟨running, elsewhere, captures, requests⟩ := of_decide_eq_true shown
  exact ⟨state, Library.Machine.reachable_of_exec idle_starts reached,
    ⟨1, 1, running, elsewhere⟩, captures, requests, rfl⟩

/-- The same handlers, with the request's hub bound around each poll, and one
more poll of request 0 on the other thread. -/
def boundPolls : List Label :=
  [.arrive 0 plainArrival, .arrive 1 plainArrival,
    .bind 0 1, .beginCall 0 0, .endCall 0, setTenant 0, .suspend 0, .unbind 0,
    .bind 1 2, .beginCall 1 1, .endCall 1, captureError 1, .suspend 1, .unbind 1,
    .bind 1 1, .beginPoll 1 0, captureError 1]

theorem requests_isolated_bound :
    ∃ state : State,
      state.captures.map (fun capture => (capture.request, capture.scope.tags)) =
          [(1, []), (0, [("tenant", "a")])] ∧
        (∀ (index request : Nat),
          innermost (state.threads index).frames = some request →
            state.hubOf request = some (state.threads index).current) ∧
        ∀ capture ∈ state.captures, ∃ request,
          state.requests[capture.request]? = some request ∧
            request.origin < mainWorld.nextHub ∧
            capture.scope = request.scopeAfter mainWorld capture.made := by
  let _ := asciiTables
  have run : ((machine AllstakLayer.new mainWorld).execWhere pollsBound idle
        boundPolls).map (fun state => state.captures.map fun capture =>
          (capture.request, capture.scope.tags)) =
      some [(1, []), (0, [("tenant", "a")])] := by
    decide
  obtain ⟨state, reached, captures⟩ := Option.map_eq_some_iff.mp run
  have bound : (machine AllstakLayer.new mainWorld).Reach
      (fun state label => pollsBound state label = true) state :=
    (Library.Machine.Reach.start idle_starts).execWhere (fun _ _ => id) reached
  exact ⟨state, captures, requests_isolated bound⟩

end RequestIsolation

end Allstak
