import Allstak.Unwinding

/-!
# Reading a program with panics

Read lexically, a program says where a panic is on its way, what the current hub
is and which scope is on top.  Each operation of a thread follows the reading.
-/

namespace Allstak

namespace ThreadProgram

/-- What the program text says of a place: the current hub, the scopes on top,
the poisoned hubs, and whether a panic is on its way. -/
structure Place where
  current : HubId
  tops : HubId → Scope
  poisoned : HubId → Bool
  panicking : Bool := false

namespace Place

def target (on : Option HubId) (place : Place) : HubId :=
  on.getD place.current

def setTop (hub : HubId) (scope : Scope) (place : Place) : Place :=
  { place with tops := Function.update place.tops hub scope }

def panicInside (hub : HubId) (place : Place) : Place :=
  { place with
    poisoned := Function.update place.poisoned hub true
    panicking := true }

@[simp] theorem setTop_tops_self (place : Place) (hub : HubId)
    (scope : Scope) : (place.setTop hub scope).tops hub = scope :=
  Function.update_self ..

private theorem setTop_tops_of_ne (place : Place) {hub other : HubId}
    (scope : Scope) (apart : other ≠ hub) :
    (place.setTop hub scope).tops other = place.tops other :=
  Function.update_of_ne apart ..

private theorem panicInside_poisoned {place : Place} {hub : HubId}
    (poisoned : place.poisoned hub = true) (other : HubId) :
    (place.panicInside other).poisoned hub = true := by
  by_cases same : hub = other
  · rw [same]
    exact Function.update_self ..
  · exact (Function.update_of_ne same ..).trans poisoned

theorem setTop_top (place : Place) (hub : HubId) :
    place.setTop hub (place.tops hub) = place := by
  rw [setTop, Function.update_eq_self]

end Place

/-- The answers of the filters of breadcrumbs, by hub and call. -/
abbrev Filter := HubId → Nat → Breadcrumb → Option Breadcrumb

def read (filter : Filter) : ThreadProgram → Place → Place
  | skip, place => place
  | configureScope on configure, place =>
      let hub := place.target on
      let configured := configure (place.tops hub)
      if place.poisoned hub then place
      else if configured.2 then
        (place.setTop hub configured.1).panicInside hub
      else place.setTop hub configured.1
  | addBreadcrumb on turn breadcrumb, place =>
      let hub := place.target on
      let scope := place.tops hub
      if place.poisoned hub then place
      else
        place.setTop hub
          ((filter hub turn breadcrumb).elim scope scope.addBreadcrumb)
  | captureEvent _ _, place => place
  | panic, place => { place with panicking := true }
  | seq first second, place =>
      let between := first.read filter place
      if between.panicking then between else second.read filter between
  | catchUnwind body, place =>
      { body.read filter place with panicking := false }
  | run hub body, place =>
      { body.read filter { place with current := hub } with
        current := place.current }
  | withScope on scopeFn body, place =>
      let hub := place.target on
      let configured := scopeFn (place.tops hub)
      if place.poisoned hub then { place with panicking := true }
      else if configured.2 then place.panicInside hub
      else
        (body.read filter (place.setTop hub configured.1)).setTop hub
          (place.tops hub)
  | pushScope on body, place =>
      let hub := place.target on
      (body.read filter place).setTop hub (place.tops hub)

/-- The blocks whose bodies let their ends be reached: no panic unwinds out of a
`with_scope` body, nor out of a `run` body of another hub, no body poisons the
hub of its block, and a `run` body leaves the top scope of the hub around it. -/
def Orderly (filter : Filter) : ThreadProgram → Place → Prop
  | skip, _ | configureScope _ _, _ | addBreadcrumb _ _ _, _
  | captureEvent _ _, _ | panic, _ => True
  | seq first second, place =>
      let between := first.read filter place
      first.Orderly filter place ∧
        (between.panicking = false → second.Orderly filter between)
  | catchUnwind body, place => body.Orderly filter place
  | run hub body, place =>
      let inside := { place with current := hub }
      let after := body.read filter inside
      body.Orderly filter inside ∧
        (after.panicking = true → hub = place.current) ∧
          after.tops place.current = place.tops place.current
  | withScope on scopeFn body, place =>
      let hub := place.target on
      let configured := scopeFn (place.tops hub)
      let inside := place.setTop hub configured.1
      let after := body.read filter inside
      place.poisoned hub = false → configured.2 = false →
        body.Orderly filter inside ∧ after.panicking = false ∧
          after.poisoned hub = false
  | pushScope on body, place =>
      let hub := place.target on
      body.Orderly filter place ∧
        (place.poisoned hub = false →
          (body.read filter place).poisoned hub = false)

end ThreadProgram

namespace World

/-- The answers of the filters of the bound clients. -/
def filter (world : World) : ThreadProgram.Filter :=
  fun hub turn breadcrumb => (world.processBreadcrumb hub turn breadcrumb).1

theorem addBreadcrumb_eq_filter (world : World) (hub : HubId) (turn : Nat)
    (breadcrumb : Breadcrumb) :
    world.addBreadcrumb hub turn breadcrumb =
      match world.filter hub turn breadcrumb with
      | none => (world.processBreadcrumb hub turn breadcrumb).2
      | some kept =>
          (world.processBreadcrumb hub turn breadcrumb).2.onHub hub
            (Hub.configureScope fun scope => scope.addBreadcrumb kept) := by
  unfold addBreadcrumb filter
  obtain ⟨processed, after⟩ := world.processBreadcrumb hub turn breadcrumb
  rfl

theorem filter_eq_of_clients {world other : World}
    (bound : ∀ hub, (world.hubs hub).client = (other.hubs hub).client)
    (clients : ∀ client,
      (world.clients client).client = (other.clients client).client) :
    world.filter = other.filter := by
  funext hub turn breadcrumb
  rw [filter, filter, processBreadcrumb, processBreadcrumb, bound]
  cases (other.hubs hub).client with
  | none => rfl
  | some client =>
      change ((world.clients client).client.processBreadcrumb turn breadcrumb
          (world.clients client).counters).1 = _
      rw [clients]
      rfl

theorem filter_onHub (world : World) (hub : HubId) {change : Hub → Hub}
    (keeps : ∀ hub : Hub, (change hub).client = hub.client) :
    (world.onHub hub change).filter = world.filter := by
  apply filter_eq_of_clients
  · intro other
    by_cases same : other = hub
    · rw [same, onHub_hubs_self, keeps]
    · rw [onHub_hubs_of_ne _ _ same]
  · intro client
    rfl

theorem filter_processBreadcrumb (world : World) (hub : HubId) (turn : Nat)
    (breadcrumb : Breadcrumb) :
    (world.processBreadcrumb hub turn breadcrumb).2.filter = world.filter := by
  apply filter_eq_of_clients
  · intro other
    rw [processBreadcrumb_hubs]
  · intro client
    rw [processBreadcrumb]
    cases (world.hubs hub).client with
    | none => rfl
    | some bound =>
        by_cases same : client = bound
        · subst same
          simp
        · simp [same]

private theorem filter_captureEvent [UnicodeTables] (world : World)
    (hub : HubId) (event : ErrorEvent) :
    (world.captureEvent hub event).filter = world.filter := by
  apply filter_eq_of_clients
  · intro other
    rw [captureEvent_client]
  · intro client
    rw [captureEvent_options]

end World

namespace ThreadProgram

/-- The stacks are those of `base`, with the scopes on top that are read. -/
structure Follows (filter : Filter) (base : HubId → ScopeStack)
    (thread : Thread) (place : Place) : Prop where
  current : thread.current = place.current
  stack : ∀ hub, thread.stack hub = (base hub).withTop (place.tops hub)
  poisoned : thread.poisoned = place.poisoned
  panicking : thread.panicking = place.panicking
  filter : thread.world.filter = filter

namespace Follows

variable {filter : Filter} {base : HubId → ScopeStack} {thread : Thread}
  {place : Place}

theorem target (follows : Follows filter base thread place)
    (on : Option HubId) : thread.target on = place.target on := by
  rw [Thread.target, Place.target, follows.current]

theorem top (follows : Follows filter base thread place) (hub : HubId) :
    (thread.stack hub).top = place.tops hub := by
  rw [follows.stack, ScopeStack.top_withTop]

theorem onHub (follows : Follows filter base thread place) {hub : HubId}
    {change : Hub → Hub} {next : ScopeStack} {scope : Scope}
    (keeps : ∀ hub : Hub, (change hub).client = hub.client)
    (changes : (change (thread.world.hubs hub)).scopes = next.withTop scope) :
    Follows filter (Function.update base hub next)
      (thread.operate fun world => world.onHub hub change)
      (place.setTop hub scope) := by
  constructor
  case current => exact follows.current
  case stack =>
    intro other
    by_cases same : other = hub
    · rw [same, Function.update_self, Place.setTop_tops_self, Thread.stack,
        Thread.operate, World.onHub_hubs_self, changes]
    · rw [Function.update_of_ne same, Place.setTop_tops_of_ne _ _ same,
        Thread.stack, Thread.operate, World.onHub_hubs_of_ne _ _ same]
      exact follows.stack other
  case poisoned => exact follows.poisoned
  case panicking => exact follows.panicking
  case filter => exact (World.filter_onHub _ hub keeps).trans follows.filter

theorem configure (follows : Follows filter base thread place) (hub : HubId)
    (configure : Scope → Scope) :
    Follows filter base
      (thread.operate fun world =>
        world.onHub hub (Hub.configureScope configure))
      (place.setTop hub (configure (place.tops hub))) := by
  rw [← Function.update_eq_self hub base]
  apply follows.onHub
  · intro hub
    rfl
  · change (thread.stack hub).configureTop configure = _
    rw [follows.stack, ScopeStack.configureTop_withTop]

theorem push (follows : Follows filter base thread place) (hub : HubId)
    (scopeFn : Scope → Scope) :
    Follows filter
      (Function.update base hub
        (((base hub).withTop (place.tops hub)).push
          (scopeFn (place.tops hub))))
      (thread.pushScope hub scopeFn)
      (place.setTop hub (scopeFn (place.tops hub))) := by
  apply follows.onHub
  · intro hub
    rfl
  · change (thread.stack hub).push (scopeFn (thread.stack hub).top) = _
    rw [follows.top, follows.stack]
    rfl

theorem pop {hub : HubId} {scope inner : Scope}
    (follows : Follows filter
      (Function.update base hub (((base hub).withTop scope).push inner))
      thread place)
    (healthy : place.poisoned hub = false) :
    Follows filter base (thread.popScope hub) (place.setTop hub scope) := by
  have popped : Follows filter (Function.update
      (Function.update base hub (((base hub).withTop scope).push inner))
        hub (base hub))
      (thread.operate fun world => world.onHub hub Hub.popScope)
      (place.setTop hub scope) := by
    apply follows.onHub
    · intro hub
      rfl
    · change (thread.stack hub).pop = _
      rw [follows.stack, Function.update_self]
      exact ScopeStack.pop_push (place.tops hub) _
  rw [Function.update_idem, Function.update_eq_self] at popped
  rwa [Thread.popScope, Thread.unlessPoisoned, follows.poisoned, healthy,
    if_neg Bool.false_ne_true]

theorem addBreadcrumb (follows : Follows filter base thread place) (hub : HubId)
    (turn : Nat) (breadcrumb : Breadcrumb) :
    Follows filter base
      (thread.operate (World.addBreadcrumb hub turn breadcrumb))
      (place.setTop hub ((filter hub turn breadcrumb).elim (place.tops hub)
        (place.tops hub).addBreadcrumb)) := by
  let filtered : Thread := thread.operate fun world =>
    (world.processBreadcrumb hub turn breadcrumb).2
  have kept : Follows filter base filtered place := by
    constructor
    case current => exact follows.current
    case stack =>
      intro other
      change ((thread.world.processBreadcrumb hub turn breadcrumb).2.hubs
        other).scopes = _
      rw [World.processBreadcrumb_hubs]
      exact follows.stack other
    case poisoned => exact follows.poisoned
    case panicking => exact follows.panicking
    case filter =>
      exact (World.filter_processBreadcrumb _ hub turn breadcrumb).trans
        follows.filter
  have added := thread.world.addBreadcrumb_eq_filter hub turn breadcrumb
  rw [follows.filter] at added
  rw [Thread.operate, added]
  cases filter hub turn breadcrumb with
  | none =>
      rw [Option.elim_none, place.setTop_top]
      exact kept
  | some added =>
      exact kept.configure hub fun scope => scope.addBreadcrumb added

theorem captureEvent [UnicodeTables]
    (follows : Follows filter base thread place) (hub : HubId)
    (event : ErrorEvent) :
    Follows filter base (thread.operate (World.captureEvent hub event))
      place := by
  constructor
  case current => exact follows.current
  case stack =>
    intro other
    rw [Thread.stack, Thread.operate, World.captureEvent_scopes]
    exact follows.stack other
  case poisoned => exact follows.poisoned
  case panicking => exact follows.panicking
  case filter =>
    exact (World.filter_captureEvent _ hub event).trans follows.filter

theorem panicInside (follows : Follows filter base thread place)
    (hub : HubId) :
    Follows filter base (thread.panicInside hub) (place.panicInside hub) := by
  constructor
  case current => exact follows.current
  case stack => exact follows.stack
  case poisoned =>
    exact congrArg (Function.update · hub true) follows.poisoned
  case panicking => rfl
  case filter => exact follows.filter

theorem setPanicking (follows : Follows filter base thread place)
    (panicking : Bool) :
    Follows filter base { thread with panicking } { place with panicking } := by
  constructor
  case current => exact follows.current
  case stack => exact follows.stack
  case poisoned => exact follows.poisoned
  case panicking => rfl
  case filter => exact follows.filter

/-- With another current hub. -/
theorem moveTo (follows : Follows filter base thread place)
    {slot : Option HubId} {current : HubId}
    (moved : World.current slot = current) :
    Follows filter base { thread with slot } { place with current } := by
  constructor
  case current => exact moved
  case stack => exact follows.stack
  case poisoned => exact follows.poisoned
  case panicking => exact follows.panicking
  case filter => exact follows.filter

theorem leave (follows : Follows filter base thread place) (hub : HubId)
    (before : Thread) :
    Follows filter base (thread.leave hub before) place := by
  constructor
  case current => exact follows.current
  case stack => exact follows.stack
  case poisoned => exact follows.poisoned
  case panicking => exact follows.panicking
  case filter => exact follows.filter

theorem unlessPoisoned (follows : Follows filter base thread place)
    {hub : HubId} {operation : World → World} {after : Place}
    (operated : Follows filter base (thread.operate operation) after) :
    Follows filter base (thread.unlessPoisoned hub operation)
      (if place.poisoned hub then place else after) := by
  rw [Thread.unlessPoisoned, follows.poisoned]
  split
  · exact follows
  · exact operated

end Follows

theorem read_current (filter : Filter) (program : ThreadProgram)
    (place : Place) : (program.read filter place).current = place.current := by
  induction program generalizing place with
  | skip | captureEvent | panic | run => rfl
  | configureScope on configure =>
      rw [read]
      split
      · rfl
      · split <;> rfl
  | addBreadcrumb on turn breadcrumb =>
      rw [read]
      split <;> rfl
  | seq first second inFirst inSecond =>
      rw [read]
      split
      · exact inFirst place
      · rw [inSecond, inFirst]
  | catchUnwind body induction => exact induction place
  | withScope on scopeFn body induction =>
      rw [read]
      split
      · rfl
      · split
        · rfl
        · exact induction _
  | pushScope on body induction => exact induction place

/-- A poisoned hub stays poisoned, and its scopes are not changed any more. -/
theorem read_of_poisoned (filter : Filter) (program : ThreadProgram)
    {place : Place} {hub : HubId} (poisoned : place.poisoned hub = true) :
    (program.read filter place).poisoned hub = true ∧
      (program.read filter place).tops hub = place.tops hub := by
  induction program generalizing place with
  | skip | captureEvent | panic => exact ⟨poisoned, rfl⟩
  | configureScope on configure =>
      rw [read]
      split
      · exact ⟨poisoned, rfl⟩
      · rename_i other
        have apart : hub ≠ place.target on := fun same =>
          other (same ▸ poisoned)
        split
        · exact ⟨Place.panicInside_poisoned poisoned _,
            place.setTop_tops_of_ne _ apart⟩
        · exact ⟨poisoned, place.setTop_tops_of_ne _ apart⟩
  | addBreadcrumb on turn breadcrumb =>
      rw [read]
      split
      · exact ⟨poisoned, rfl⟩
      · rename_i other
        have apart : hub ≠ place.target on := fun same =>
          other (same ▸ poisoned)
        exact ⟨poisoned, place.setTop_tops_of_ne _ apart⟩
  | seq first second inFirst inSecond =>
      rw [read]
      split
      · exact inFirst poisoned
      · obtain ⟨still, same⟩ := inFirst poisoned
        obtain ⟨stillThen, sameThen⟩ := inSecond still
        exact ⟨stillThen, sameThen.trans same⟩
  | catchUnwind body induction => exact induction poisoned
  | run other body induction =>
      exact @induction { place with current := other } poisoned
  | withScope on scopeFn body induction =>
      rw [read]
      split
      · exact ⟨poisoned, rfl⟩
      · rename_i other
        have apart : hub ≠ place.target on := fun same =>
          other (same ▸ poisoned)
        split
        · exact ⟨Place.panicInside_poisoned poisoned _, rfl⟩
        · obtain ⟨still, same⟩ := @induction (place.setTop (place.target on)
            (scopeFn (place.tops (place.target on))).1) poisoned
          refine ⟨still, ?_⟩
          rw [Place.setTop_tops_of_ne _ _ apart, same,
            Place.setTop_tops_of_ne _ _ apart]
  | pushScope on body induction =>
      obtain ⟨still, same⟩ := induction poisoned
      refine ⟨still, ?_⟩
      rw [read]
      by_cases target : hub = place.target on
      · rw [target, Place.setTop_tops_self]
      · rw [Place.setTop_tops_of_ne _ _ target, same]

end ThreadProgram

end Allstak
