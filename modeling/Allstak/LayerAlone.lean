import Allstak.RequestThreads
import Allstak.Library.Pool

/-!
# The axum layer alone

Where no other code binds hubs, the frames of a thread tell which hub is
current: one from before the run, or that of a request whose synchronous call
is going on.  A request is polled only when it is not being polled already, so
that its own hub is never current in its polls.
-/

namespace Allstak

namespace RequestIsolation

/-- No other code binds a hub. -/
def Label.byLayer : Label → Bool
  | .bind _ _ => false
  | _ => true

/-- The requests whose calls and polls a thread is in the middle of. -/
def owners : List Frame → List Nat
  | [] => []
  | .bound _ :: frames => owners frames
  | .calling request _ :: frames => request :: owners frames
  | .polling request :: frames => request :: owners frames

/-- The frames of a thread on which only the layer has bound hubs.  Request `n`
has the hub `first + n`. -/
def Unbound (first : Nat) : Option HubId → List Frame → Prop
  | slot, [] => World.current slot < first
  | _, .bound _ :: _ => False
  | slot, .calling request saved :: frames =>
      World.current slot = first + request ∧ request ∉ owners frames ∧
        Unbound first saved frames
  | slot, .polling request :: frames =>
      request ∉ owners frames ∧ Unbound first slot frames

/-- The current hub is from before the run, or that of a request in the
frames. -/
theorem Unbound.current_cases {first : Nat} {slot : Option HubId}
    {frames : List Frame} (unbound : Unbound first slot frames) :
    World.current slot < first ∨
      ∃ request ∈ owners frames, World.current slot = first + request := by
  induction frames generalizing slot with
  | nil => exact .inl unbound
  | cons frame frames induction =>
      cases frame with
      | bound saved => cases unbound
      | calling request saved =>
          exact .inr ⟨request, List.mem_cons_self, unbound.1⟩
      | polling request =>
          rcases induction unbound.2 with old | ⟨other, member, same⟩
          · exact .inl old
          · exact .inr ⟨other, List.mem_cons_of_mem _ member, same⟩

/-- A request is called and polled by one thread at a time, and never while it
is polled already. -/
structure LayerOnly (before : World) (state : State) : Prop where
  hubs : ∀ (index : Nat) (request : RequestState),
    state.requests[index]? = some request →
    request.pending.hub = before.nextHub + index
  allocated : state.world.nextHub = before.nextHub + state.requests.length
  unbound : ∀ index, Unbound before.nextHub
    (state.threads index).slot (state.threads index).frames
  running : ∀ index, ∀ request ∈ owners (state.threads index).frames,
    state.phases request = .running
  apart : ∀ index other, other ≠ index →
    ∀ request ∈ owners (state.threads index).frames,
      request ∉ owners (state.threads other).frames

namespace LayerOnly

variable {before : World} {state : State}

theorem hubOf_eq (layerOnly : LayerOnly before state) {request : Nat} {hub : HubId}
    (found : state.hubOf request = some hub) : hub = before.nextHub + request := by
  obtain ⟨served, listed, rfl⟩ := Option.map_eq_some_iff.mp found
  exact layerOnly.hubs request served listed

/-- The hub of a polled request is not current. -/
theorem elsewhere (layerOnly : LayerOnly before state) {index request : Nat}
    {frames : List Frame}
    (polled : (state.threads index).frames = .polling request :: frames) :
    state.hubOf request ≠ some (state.threads index).current := by
  intro found
  have own : World.current (state.threads index).slot = before.nextHub + request :=
    layerOnly.hubOf_eq found
  have unbound := layerOnly.unbound index
  rw [polled] at unbound
  obtain ⟨outside, rest⟩ := unbound
  rcases rest.current_cases with old | ⟨other, member, same⟩
  · rw [own] at old
    exact absurd old (Nat.not_lt.mpr (Nat.le_add_right _ _))
  · have equal : other = request := Nat.add_left_cancel (same.symm.trans own)
    exact outside (equal ▸ member)

/-- A thread begins to call or poll a request that is not being polled. -/
theorem push (layerOnly : LayerOnly before state) {index request : Nat}
    {thread : Thread} (still : state.phases request ≠ .running)
    (unbound : Unbound before.nextHub thread.slot thread.frames)
    (owned : owners thread.frames =
      request :: owners (state.threads index).frames) :
    LayerOnly before ((state.setPhase request .running).setThread index thread) := by
  let after := (state.setPhase request .running).setThread index thread
  have free : ∀ other, request ∉ owners (state.threads other).frames :=
    fun other member => still (layerOnly.running other request member)
  have others : ∀ other, other ≠ index →
      after.threads other = state.threads other :=
    fun other apart => State.setThread_threads_of_ne _ _ apart
  have mine : after.threads index = thread := State.setThread_threads_self _ _ _
  constructor
  · exact layerOnly.hubs
  · exact layerOnly.allocated
  · intro other
    by_cases same : other = index
    · rw [same, mine]
      exact unbound
    · rw [others other same]
      exact layerOnly.unbound other
  · intro other owner member
    rw [State.setThread_phases]
    by_cases first : owner = request
    · rw [first, State.setPhase_phases_self]
    · rw [State.setPhase_phases_of_ne _ _ first]
      by_cases same : other = index
      · rw [same, mine, owned] at member
        exact layerOnly.running index owner (List.mem_of_ne_of_mem first member)
      · rw [others other same] at member
        exact layerOnly.running other owner member
  · intro one other different owner member
    by_cases first : one = index
    · subst first
      rw [others other different]
      rw [mine, owned] at member
      rcases List.mem_cons.mp member with rfl | old
      · exact free other
      · exact layerOnly.apart one other different owner old
    · rw [others one first] at member
      by_cases second : other = index
      · subst second
        rw [mine, owned]
        apply List.not_mem_cons_of_ne_of_not_mem
        · rintro rfl
          exact free one member
        · exact layerOnly.apart one other different owner member
      · rw [others other second]
        exact layerOnly.apart one other different owner member

/-- A thread stops polling a request. -/
theorem pop (layerOnly : LayerOnly before state) {index request : Nat}
    {frames : List Frame} (phase : Phase)
    (polled : (state.threads index).frames = .polling request :: frames) :
    LayerOnly before ((state.setPhase request phase).setThread index
      { state.threads index with frames }) := by
  let after := (state.setPhase request phase).setThread index
    { state.threads index with frames }
  have unbound := layerOnly.unbound index
  rw [polled] at unbound
  have owned : owners (state.threads index).frames = request :: owners frames := by
    rw [polled]
    rfl
  have others : ∀ other, other ≠ index →
      after.threads other = state.threads other :=
    fun other apart => State.setThread_threads_of_ne _ _ apart
  have mine : after.threads index = { state.threads index with frames } :=
    State.setThread_threads_self _ _ _
  have kept : ∀ one owner, owner ∈ owners (after.threads one).frames →
      owner ≠ request ∧ owner ∈ owners (state.threads one).frames := by
    intro one owner member
    by_cases same : one = index
    · rw [same, mine] at member
      rw [same, owned]
      refine ⟨?_, List.mem_cons_of_mem _ member⟩
      rintro rfl
      exact unbound.1 member
    · rw [others one same] at member
      refine ⟨?_, member⟩
      rintro rfl
      exact layerOnly.apart index one same owner (owned ▸ List.mem_cons_self) member
  constructor
  · exact layerOnly.hubs
  · exact layerOnly.allocated
  · intro other
    by_cases same : other = index
    · rw [same, mine]
      exact unbound.2
    · rw [others other same]
      exact layerOnly.unbound other
  · intro other owner member
    obtain ⟨different, old⟩ := kept other owner member
    rw [State.setThread_phases, State.setPhase_phases_of_ne _ _ different]
    exact layerOnly.running other owner old
  · intro one other different owner member again
    exact layerOnly.apart one other different owner (kept one owner member).2
      (kept other owner again).2

/-- The call of a request returns; its first poll goes on. -/
theorem returned (layerOnly : LayerOnly before state) {index request : Nat}
    {saved : Option HubId} {frames : List Frame}
    (called : (state.threads index).frames = .calling request saved :: frames) :
    LayerOnly before (state.setThread index
      { slot := saved, frames := .polling request :: frames }) := by
  let after := state.setThread index
    { slot := saved, frames := .polling request :: frames }
  have unbound := layerOnly.unbound index
  rw [called] at unbound
  have others : ∀ other, other ≠ index →
      after.threads other = state.threads other :=
    fun other apart => State.setThread_threads_of_ne _ _ apart
  have mine : after.threads index =
      { slot := saved, frames := .polling request :: frames } :=
    State.setThread_threads_self _ _ _
  have owned : ∀ one, owners (after.threads one).frames =
      owners (state.threads one).frames := by
    intro one
    by_cases same : one = index
    · rw [same, mine, called]
      rfl
    · rw [others one same]
  constructor
  · exact layerOnly.hubs
  · exact layerOnly.allocated
  · intro other
    by_cases same : other = index
    · rw [same, mine]
      exact unbound.2
    · rw [others other same]
      exact layerOnly.unbound other
  · intro other owner member
    exact layerOnly.running other owner (owned other ▸ member)
  · intro one other different owner member again
    exact layerOnly.apart one other different owner (owned one ▸ member)
      (owned other ▸ again)

/-- The threads stay where they are. -/
theorem setRequests (layerOnly : LayerOnly before state) {world : World}
    {requests : List RequestState} {captures : List Capture}
    (hubs : ∀ (index : Nat) (request : RequestState),
      requests[index]? = some request →
      request.pending.hub = before.nextHub + index)
    (allocated : world.nextHub = before.nextHub + requests.length) :
    LayerOnly before { state with world, requests, captures } :=
  { layerOnly with hubs, allocated }

theorem initial (started : Starts before state) : LayerOnly before state := by
  obtain ⟨rfl, noRequests, _, _, threads⟩ := started
  constructor
  · intro index request found
    rw [noRequests] at found
    cases found
  · rw [noRequests]
    rfl
  · intro index
    obtain ⟨noFrames, known⟩ := threads index
    rw [noFrames]
    exact known
  · intro index request member
    rw [(threads index).1] at member
    cases member
  · intro index other _ request member
    rw [(threads index).1] at member
    cases member

theorem step (layerOnly : LayerOnly before state) [UnicodeTables]
    {layer : AllstakLayer} {label : Label} {after : State}
    (admitted : label.byLayer = true)
    (moved : RequestIsolation.step layer state label = some after) :
    LayerOnly before after := by
  cases move_of_step moved with
  | bind known => cases admitted
  | @unbind index saved frames top =>
      have unbound := layerOnly.unbound index
      rw [top] at unbound
      cases unbound
  | @arrive index arrival origin current =>
      apply layerOnly.setRequests
      · intro place request found
        rcases Library.Pool.getElem?_concat_cases found with old | ⟨rfl, rfl⟩
        · exact layerOnly.hubs place request old
        · rw [← layerOnly.allocated]
          exact layer.call_hub origin arrival state.world
      · rw [List.length_append, ← Nat.add_assoc, ← layerOnly.allocated]
        exact layer.call_nextHub origin arrival state.world
  | @beginCall index request hub waiting found =>
      have still : state.phases request ≠ .running := by
        rw [waiting]
        exact nofun
      apply layerOnly.push still _ rfl
      refine ⟨layerOnly.hubOf_eq found, ?_, layerOnly.unbound index⟩
      exact fun member => still (layerOnly.running index request member)
  | endCall top => exact layerOnly.returned top
  | @beginPoll index request suspended =>
      have still : state.phases request ≠ .running := by
        rw [suspended]
        exact nofun
      apply layerOnly.push still _ rfl
      refine ⟨?_, layerOnly.unbound index⟩
      exact fun member => still (layerOnly.running index request member)
  | suspend top => exact layerOnly.pop .suspended top
  | finish top listed =>
      have popped := layerOnly.pop .finished top
      apply popped.setRequests popped.hubs
      rw [AllstakLayer.complete_nextHub]
      exact popped.allocated
  | @act index request action served hub current running listed =>
      have inside := (List.getElem?_eq_some_iff.mp listed).1
      apply layerOnly.setRequests
      · intro place found seen
        rcases Library.Pool.getElem?_set_cases inside seen with
          ⟨rfl, rfl⟩ | ⟨_, old⟩
        · exact layerOnly.hubs place served listed
        · exact layerOnly.hubs place found old
      · rw [List.length_set, Action.perform_nextHub]
        exact layerOnly.allocated

end LayerOnly

/-- In a run in which only the layer binds hubs, no poll ever finds the hub of its
request current. -/
theorem polls_elsewhere [UnicodeTables] {layer : AllstakLayer} {before : World}
    {state : State}
    (reached : (machine layer before).Reach
      (fun _ label => label.byLayer = true) state)
    {index request : Nat} {frames : List Frame}
    (polled : (state.threads index).frames = .polling request :: frames) :
    state.hubOf request ≠ some (state.threads index).current := by
  have layerOnly : LayerOnly before state := by
    apply reached.induct
    · intro state started
      exact .initial started
    · intro state label after layerOnly admitted moved
      exact layerOnly.step admitted moved
  exact layerOnly.elsewhere polled

end RequestIsolation

end Allstak
