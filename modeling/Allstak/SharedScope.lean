import Allstak.Hub
import Allstak.Library.Machine

/-!
# Two threads in `with_scope` on one hub

Threads that never bound a hub of their own share the main hub.  Two of them
each run `with_scope` around a body that captures events, and interleave on
the lock-protected sections.  The scope an event is captured with is computed
from the order of entries and exits alone; it is the thread's own exactly when
the other thread did not overlap in one of two ways.
-/

namespace Allstak

namespace SharedScope

inductive Side where
  | left
  | right
  deriving DecidableEq

def Side.other : Side → Side
  | .left => .right
  | .right => .left

/-- Where a thread is in `with_scope`.  A capture is three sections: reading the
client, running the pipeline, marking the session. -/
inductive Phase where
  | outside
  | inside (events : List ErrorEvent)
  | capturing (client : ClientId) (event : ErrorEvent) (events : List ErrorEvent)
  | captured (event : ErrorEvent) (events : List ErrorEvent)
  | returned

inductive Place where
  | before
  | within
  | after
  deriving DecidableEq

def Phase.place : Phase → Place
  | .outside => .before
  | .returned => .after
  | _ => .within

/-- How the other thread's call overlaps with a capture: not at all, both are
inside with one of them on top, or the other left after this one had entered
inside its call. -/
inductive Overlap where
  | alone
  | both (inner : Side)
  | leftover
  deriving DecidableEq

structure Capture where
  side : Side
  event : ErrorEvent
  scope : Scope
  overlap : Overlap

/-- `nested` records which thread entered while the other was inside. -/
structure State where
  world : World
  phases : Side → Phase
  nested : Option Side := none
  captures : List Capture := []

namespace State

def place (state : State) (side : Side) : Place := (state.phases side).place

/-- The stack of the hub both threads find current. -/
def stack (state : State) : ScopeStack :=
  (state.world.hubs (World.current none)).scopes

def overlap (state : State) (side : Side) : Overlap :=
  match state.nested with
  | none => .alone
  | some inner =>
      if state.place side.other = .within then .both inner
      else if inner = side then .leftover
      else .alone

end State

theorem Side.other_ne (side : Side) : side.other ≠ side := by
  cases side <;> exact nofun

/-- A phase that keeps its place keeps all places. -/
theorem place_update (state : State) {side : Side} {phase : Phase}
    (same : phase.place = state.place side) :
    (fun other => (Function.update state.phases side phase other).place) =
      state.place := by
  funext other
  by_cases own : other = side
  · subst own
    rw [Function.update_self, same]
  · rw [Function.update_of_ne own]
    rfl

section

variable [UnicodeTables]

/-- The next section of one thread.  `scopeFn` and `body` are what the threads
pass to `with_scope`. -/
def step (scopeFn : Side → Scope → Scope) (body : Side → List ErrorEvent)
    (state : State) (side : Side) : Option State :=
  let hub := World.current none
  match state.phases side with
  | .outside =>
      some { state with
        world := state.world.onHub hub (Hub.pushScope (scopeFn side))
        phases := Function.update state.phases side (.inside (body side))
        nested :=
          if state.place side.other = .within then some side else state.nested }
  | .inside [] =>
      some { state with
        world := state.world.onHub hub Hub.popScope
        phases := Function.update state.phases side .returned }
  | .inside (event :: events) =>
      some { state with
        phases := Function.update state.phases side
          (match (state.world.hubs hub).client with
          | none => .inside events
          | some client => .capturing client event events) }
  | .capturing client event events =>
      let scope := state.stack.top
      some { state with
        world := state.world.captureWith hub client event scope
        phases := Function.update state.phases side (.captured event events)
        captures := state.captures ++
          [{ side, event, scope, overlap := state.overlap side }] }
  | .captured event events =>
      some { state with
        world := state.world.captured hub event
        phases := Function.update state.phases side (.inside events) }
  | .returned => none

def machine (scopeFn : Side → Scope → Scope) (body : Side → List ErrorEvent)
    (before : World) : Library.Machine State Side where
  start state := state = { world := before, phases := fun _ => .outside }
  next := step scopeFn body

/-- What one section does to the places, the stack and the captures. -/
inductive Move (scopeFn : Side → Scope → Scope) (state : State) (side : Side)
    (after : State) : Prop where
  | enter :
      state.place side = .before →
      after.place side = .within →
      after.place side.other = state.place side.other →
      after.stack = state.stack.push (scopeFn side state.stack.top) →
      after.nested = (if state.place side.other = .within then some side
        else state.nested) →
      after.captures = state.captures →
      Move scopeFn state side after
  | leave :
      state.place side = .within →
      after.place side = .after →
      after.place side.other = state.place side.other →
      after.stack = state.stack.pop →
      after.nested = state.nested →
      after.captures = state.captures →
      Move scopeFn state side after
  | stay (more : List Capture) :
      state.place side = .within →
      after.place = state.place →
      after.stack = state.stack →
      after.nested = state.nested →
      after.captures = state.captures ++ more →
      (∀ capture ∈ more, capture.side = side ∧
        capture.overlap = state.overlap side ∧ capture.scope = state.stack.top) →
      Move scopeFn state side after

theorem step_move {scopeFn : Side → Scope → Scope}
    {body : Side → List ErrorEvent} {state after : State} {side : Side}
    (moved : step scopeFn body state side = some after) :
    Move scopeFn state side after := by
  rw [step] at moved
  cases phase : state.phases side with
  | outside =>
      simp only [phase, Option.some.injEq] at moved
      subst moved
      apply Move.enter
      · simp [State.place, phase, Phase.place]
      · simp [State.place, Phase.place]
      · simp [State.place, Side.other_ne side]
      · simp [State.stack, Hub.pushScope]
      · rfl
      · rfl
  | inside events =>
      cases events with
      | nil =>
          simp only [phase, Option.some.injEq] at moved
          subst moved
          apply Move.leave
          · simp [State.place, phase, Phase.place]
          · simp [State.place, Phase.place]
          · simp [State.place, Side.other_ne side]
          · simp [State.stack, Hub.popScope]
          · rfl
          · rfl
      | cons event events =>
          simp only [phase, Option.some.injEq] at moved
          subst moved
          refine .stay [] ?_ (place_update state ?_) rfl rfl ?_ ?_
          · simp [State.place, phase, Phase.place]
          · cases (state.world.hubs (World.current none)).client <;>
              simp [State.place, phase, Phase.place]
          · simp
          · simp
  | capturing client event events =>
      simp only [phase, Option.some.injEq] at moved
      subst moved
      refine .stay
        [{ side, event, scope := state.stack.top, overlap := state.overlap side }]
        ?_ (place_update state ?_) ?_ ?_ ?_ ?_
      · simp [State.place, phase, Phase.place]
      · simp [State.place, phase, Phase.place]
      · simp [State.stack]
      · simp
      · simp
      · intro capture member
        rw [List.mem_singleton.mp member]
        exact ⟨rfl, rfl, rfl⟩
  | captured event events =>
      simp only [phase, Option.some.injEq] at moved
      subst moved
      refine .stay [] ?_ (place_update state ?_) ?_ rfl ?_ ?_
      · simp [State.place, phase, Phase.place]
      · simp [State.place, phase, Phase.place]
      · simp [State.stack]
      · simp
      · simp
  | returned => simp [phase] at moved

end

/-- The scope a capture finds on top, from the base scope and the overlap. -/
def Overlap.scope (scopeFn : Side → Scope → Scope) (base : Scope) (side : Side) :
    Overlap → Scope
  | .alone => scopeFn side base
  | .both inner => scopeFn inner (scopeFn inner.other base)
  | .leftover => scopeFn side.other base

/-- Whether a capture with this overlap finds the thread's own scope: it is
alone, or the functions of both threads happen to agree on it. -/
def Overlap.Agrees (scopeFn : Side → Scope → Scope) (base : Scope) (side : Side) :
    Overlap → Prop
  | .alone => True
  | .both inner =>
      scopeFn inner (scopeFn inner.other base) = scopeFn side base
  | .leftover => scopeFn side.other base = scopeFn side base

/-- The stack in every state, as the order of entries and exits leaves it. -/
structure Placed (scopeFn : Side → Scope → Scope) (base : ScopeStack)
    (state : State) : Prop where
  entered : ∀ inner, state.nested = some inner →
    state.place inner ≠ .before ∧ state.place inner.other ≠ .before
  empty : (∀ side, state.place side ≠ .within) → state.stack = base
  single : ∀ side, state.place side = .within →
    state.place side.other ≠ .within →
    state.stack = base.push
      ((state.overlap side).scope scopeFn base.top side)
  both : (∀ side, state.place side = .within) →
    ∃ inner, state.nested = some inner ∧
      state.stack = (base.push (scopeFn inner.other base.top)).push
        (scopeFn inner (scopeFn inner.other base.top))
  captured : ∀ capture ∈ state.captures, capture.scope =
    capture.overlap.scope scopeFn base.top capture.side

private theorem Side.eq_or_eq_other (side given : Side) :
    given = side ∨ given = side.other := by
  cases side <;> cases given <;> simp [Side.other]

@[simp] theorem Side.other_other (side : Side) : side.other.other = side := by
  cases side <;> rfl

namespace Placed

variable {scopeFn : Side → Scope → Scope} {base : ScopeStack} {state after : State}
  {side : Side}

/-- Nobody is nested while one thread has not entered. -/
theorem nested_eq_none (placed : Placed scopeFn base state)
    (outside : state.place side = .before) : state.nested = none := by
  cases nested : state.nested with
  | none => rfl
  | some inner =>
      obtain ⟨innerEntered, outerEntered⟩ := placed.entered inner nested
      rcases inner.eq_or_eq_other side with same | same
      · exact (innerEntered (same ▸ outside)).elim
      · exact (outerEntered (same ▸ outside)).elim

/-- What a capture of a thread inside finds on top. -/
theorem top_eq (placed : Placed scopeFn base state)
    (within : state.place side = .within) :
    state.stack.top = (state.overlap side).scope scopeFn base.top side := by
  by_cases otherWithin : state.place side.other = .within
  · have all : ∀ given, state.place given = .within := by
      intro given
      rcases side.eq_or_eq_other given with rfl | rfl
      · exact within
      · exact otherWithin
    obtain ⟨inner, nested, stacked⟩ := placed.both all
    simp [stacked, State.overlap, nested, otherWithin, Overlap.scope]
  · rw [placed.single side within otherWithin, ScopeStack.top_push]

theorem enter (placed : Placed scopeFn base state)
    (outside : state.place side = .before) (entered : after.place side = .within)
    (others : after.place side.other = state.place side.other)
    (pushed : after.stack = state.stack.push (scopeFn side state.stack.top))
    (nested : after.nested =
      if state.place side.other = .within then some side else state.nested)
    (captures : after.captures = state.captures) :
    Placed scopeFn base after := by
  have idle := placed.nested_eq_none outside
  have notWithin : state.place side ≠ .within := by simp [outside]
  by_cases otherWithin : state.place side.other = .within
  · rw [if_pos otherWithin] at nested
    have below := placed.single side.other otherWithin (by simpa using notWithin)
    have under : state.overlap side.other = .alone := by simp [State.overlap, idle]
    rw [under] at below
    constructor
    · intro inner found
      rw [nested, Option.some.injEq] at found
      subst found
      simp [entered, others, otherWithin]
    · intro none_
      exact (none_ side entered).elim
    · intro given within otherOut
      rcases side.eq_or_eq_other given with rfl | rfl
      · exact (otherOut (others.trans otherWithin)).elim
      · rw [Side.other_other] at otherOut
        exact (otherOut entered).elim
    · intro _
      refine ⟨side, nested, ?_⟩
      rw [pushed, below, ScopeStack.top_push]
      rfl
    · rw [captures]
      exact placed.captured
  · rw [if_neg otherWithin, idle] at nested
    have clear : state.stack = base := by
      apply placed.empty
      intro given
      rcases side.eq_or_eq_other given with rfl | rfl
      · exact notWithin
      · exact otherWithin
    constructor
    · intro inner found
      rw [nested] at found
      cases found
    · intro none_
      exact (none_ side entered).elim
    · intro given within otherOut
      rcases side.eq_or_eq_other given with rfl | rfl
      · rw [pushed, clear]
        simp [State.overlap, nested, Overlap.scope]
      · rw [others] at within
        exact (otherWithin within).elim
    · intro all
      have within := all side.other
      rw [others] at within
      exact (otherWithin within).elim
    · rw [captures]
      exact placed.captured

theorem leave (placed : Placed scopeFn base state)
    (within : state.place side = .within) (left : after.place side = .after)
    (others : after.place side.other = state.place side.other)
    (popped : after.stack = state.stack.pop) (nested : after.nested = state.nested)
    (captures : after.captures = state.captures) :
    Placed scopeFn base after := by
  constructor
  · intro inner found
    rw [nested] at found
    obtain ⟨innerEntered, outerEntered⟩ := placed.entered inner found
    rcases side.eq_or_eq_other inner with rfl | rfl
    · exact ⟨by simp [left], others ▸ outerEntered⟩
    · exact ⟨others ▸ innerEntered, by simp [left]⟩
  · intro none_
    have otherOut : state.place side.other ≠ .within := others ▸ none_ side.other
    rw [popped, placed.single side within otherOut, ScopeStack.pop_push]
  · intro given givenWithin _
    rcases side.eq_or_eq_other given with rfl | rfl
    · rw [left] at givenWithin
      cases givenWithin
    · rw [others] at givenWithin
      have all : ∀ given, state.place given = .within := by
        intro given
        rcases side.eq_or_eq_other given with rfl | rfl
        · exact within
        · exact givenWithin
      obtain ⟨inner, found, stacked⟩ := placed.both all
      rw [popped, stacked, ScopeStack.pop_push]
      rcases side.eq_or_eq_other inner with rfl | rfl
      · simp [State.overlap, nested, found, left, Side.other_ne inner |>.symm,
          Overlap.scope]
      · simp [State.overlap, nested, found, left, Overlap.scope]
  · intro all
    have still := all side
    rw [left] at still
    cases still
  · rw [captures]
    exact placed.captured

theorem move (placed : Placed scopeFn base state)
    (moved : Move scopeFn state side after) : Placed scopeFn base after := by
  cases moved with
  | enter outside entered others pushed nested captures =>
      exact placed.enter outside entered others pushed nested captures
  | leave within left others popped nested captures =>
      exact placed.leave within left others popped nested captures
  | stay more within places stacked nested captures made =>
      have overlaps : ∀ given, after.overlap given = state.overlap given := by
        intro given
        simp [State.overlap, nested, places]
      constructor
      · rw [nested, places]
        exact placed.entered
      · rw [places, stacked]
        exact placed.empty
      · intro given givenWithin otherOut
        rw [places] at givenWithin otherOut
        rw [stacked, overlaps]
        exact placed.single given givenWithin otherOut
      · rw [places, nested, stacked]
        exact placed.both
      · intro capture member
        rw [captures] at member
        rcases List.mem_append.mp member with old | new
        · exact placed.captured capture old
        · obtain ⟨own, overlapped, found⟩ := made capture new
          rw [found, overlapped, own]
          exact placed.top_eq within

end Placed

/-- The scope stack of the hub both threads use. -/
def baseStack (before : World) : ScopeStack :=
  (before.hubs (World.current none)).scopes

section

variable [UnicodeTables]

theorem placed_of_reachable {scopeFn : Side → Scope → Scope}
    {body : Side → List ErrorEvent} {before : World} {state : State}
    (reached : (machine scopeFn body before).Reachable state) :
    Placed scopeFn (baseStack before) state := by
  apply reached.induct
  · rintro state rfl
    constructor
    · intro inner found
      cases found
    · intro _
      rfl
    · intro side within
      cases within
    · intro all
      cases all .left
    · intro capture member
      cases member
  · intro state side after placed _ moved
    exact placed.move (step_move moved)

/-- In every interleaving the stack is restored when both calls have returned.
The events carry the base scope changed by their own thread's function exactly
when each capture was made while the other call did not overlap, or the two
functions agree on what the overlap leaves on top. -/
theorem captures_own_scope_iff {scopeFn : Side → Scope → Scope}
    {body : Side → List ErrorEvent} {before : World} {state : State}
    (reached : (machine scopeFn body before).Reachable state) :
    ((∀ side, state.place side = .after) → state.stack = baseStack before) ∧
    ((∀ capture ∈ state.captures,
        capture.scope = scopeFn capture.side (baseStack before).top) ↔
      ∀ capture ∈ state.captures,
        capture.overlap.Agrees scopeFn (baseStack before).top capture.side) := by
  have placed := placed_of_reachable reached
  constructor
  · intro returned
    apply placed.empty
    intro side
    rw [returned side]
    exact nofun
  · have agrees : ∀ capture ∈ state.captures,
        (capture.scope = scopeFn capture.side (baseStack before).top ↔
          capture.overlap.Agrees scopeFn (baseStack before).top capture.side) := by
      intro capture member
      rw [placed.captured capture member]
      cases capture.overlap with
      | alone => simp [Overlap.scope, Overlap.Agrees]
      | both inner => exact Iff.rfl
      | leftover => exact Iff.rfl
    constructor
    · intro own capture member
      exact (agrees capture member).mp (own capture member)
    · intro agree capture member
      exact (agrees capture member).mpr (agree capture member)

end

/-- Each thread sets a tag of its own. -/
def ownTag : Side → Scope → Scope
  | .left, scope => scope.setTag "left" "1"
  | .right, scope => scope.setTag "right" "1"

def oneEvent (_ : Side) : List ErrorEvent :=
  [{ eventId := 0, exceptionClass := "E", message := "m" }]

def boundWorld : World :=
  { World.initial with
    hubs := fun _ => Hub.new (some 0) (Scope.new 100)
    nextClient := 1 }

/-- The right thread enters before the left one captures: the left event
carries both tags. -/
theorem overlapping_tags_mix :
    ∃ state : State,
      (@machine asciiTables ownTag oneEvent boundWorld).Reachable state ∧
        ∃ capture ∈ state.captures,
          capture.scope.tags = [("left", "1"), ("right", "1")] ∧
            capture.scope ≠
              ownTag capture.side (baseStack boundWorld).top := by
  let _ := asciiTables
  have run : ((machine ownTag oneEvent boundWorld).exec
      { world := boundWorld, phases := fun _ => .outside }
      [.left, .right, .left, .left]).map
        (fun state => state.captures.map fun capture =>
          (capture.side, capture.scope.tags)) =
      some [(.left, [("left", "1"), ("right", "1")])] := by
    decide
  obtain ⟨state, reached, captures⟩ := Option.map_eq_some_iff.mp run
  have listed : (Side.left, [("left", "1"), ("right", "1")]) ∈
      state.captures.map fun capture => (capture.side, capture.scope.tags) :=
    captures ▸ List.mem_cons_self
  obtain ⟨capture, member, shape⟩ := List.mem_map.mp listed
  obtain ⟨side, tags⟩ := Prod.mk.inj shape
  refine ⟨state, Library.Machine.reachable_of_exec rfl reached, capture, member,
    tags, ?_⟩
  intro own
  have same := congrArg Scope.tags own
  rw [tags, side] at same
  exact absurd same (by decide)

/-- One call after the other. -/
theorem captures_own_scope_iff_sequential :
    ∃ state : State,
      state.captures.map Capture.overlap = [.alone, .alone] ∧
        ((∀ side, state.place side = .after) →
          state.stack = baseStack boundWorld) ∧
        ((∀ capture ∈ state.captures,
            capture.scope = ownTag capture.side (baseStack boundWorld).top) ↔
          ∀ capture ∈ state.captures,
            capture.overlap.Agrees ownTag (baseStack boundWorld).top
              capture.side) := by
  let _ := asciiTables
  have run : ((machine ownTag oneEvent boundWorld).exec
      { world := boundWorld, phases := fun _ => .outside }
      [.left, .left, .left, .left, .left, .right, .right, .right, .right,
        .right]).map (fun state => state.captures.map Capture.overlap) =
      some [.alone, .alone] := by
    decide
  obtain ⟨state, reached, overlaps⟩ := Option.map_eq_some_iff.mp run
  exact ⟨state, overlaps,
    captures_own_scope_iff (Library.Machine.reachable_of_exec rfl reached)⟩

end SharedScope

end Allstak
