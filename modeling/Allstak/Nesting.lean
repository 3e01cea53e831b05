import Allstak.Hub

/-!
# Nested scopes

What one thread does with one hub, as a program of operations and blocks.  It
runs on the hub's scope stack.  Read lexically it needs no stack: a block gets
the scope of the block around it, and what it does to its scope ends with it.
-/

namespace Allstak

/-- What one thread does with a hub.  The body of `pushScope` is what follows
`let _guard = hub.push_scope()` in its block: guards of one block are dropped
last first, so they nest. -/
inductive ScopeProgram where
  | skip
  | configureScope (configure : Scope → Scope)
  | setUser (user : Option User)
  | clear
  /-- `turn` is the call of the client's filter. -/
  | addBreadcrumb (turn : Nat) (breadcrumb : Breadcrumb)
  | captureEvent (event : ErrorEvent)
  | seq (first second : ScopeProgram)
  | withScope (scopeFn : Scope → Scope) (body : ScopeProgram)
  | pushScope (body : ScopeProgram)

namespace ScopeProgram

/-- A run so far.  `seen` has the stack after each operation, `blocks` the
stacks before and after each block that was left. -/
structure Run where
  world : World
  captures : List (ErrorEvent × Scope) := []
  seen : List ScopeStack := []
  blocks : List (ScopeStack × ScopeStack) := []

namespace Run

def stack (hub : HubId) (run : Run) : ScopeStack := (run.world.hubs hub).scopes

def operate (hub : HubId) (operation : World → World) (run : Run) : Run :=
  let world := operation run.world
  { run with world, seen := run.seen ++ [(world.hubs hub).scopes] }

def leave (hub : HubId) (before : ScopeStack) (run : Run) : Run :=
  { run with blocks := run.blocks ++ [(before, run.stack hub)] }

end Run

section

variable [UnicodeTables]

def exec (hub : HubId) : ScopeProgram → Run → Run
  | skip, run => run
  | configureScope configure, run =>
      run.operate hub fun world =>
        world.onHub hub (Hub.configureScope configure)
  | setUser user, run =>
      run.operate hub fun world => world.onHub hub (Hub.setUser user)
  | clear, run =>
      run.operate hub fun world =>
        world.onHub hub (Hub.configureScope Scope.clear)
  | addBreadcrumb turn breadcrumb, run =>
      run.operate hub (World.addBreadcrumb hub turn breadcrumb)
  | captureEvent event, run =>
      { run.operate hub (World.captureEvent hub event) with
        captures := run.captures ++ [(event, (run.stack hub).top)] }
  | seq first second, run => second.exec hub (first.exec hub run)
  | withScope scopeFn body, run =>
      let pushed := run.operate hub fun world =>
        world.onHub hub (Hub.pushScope scopeFn)
      let popped := (body.exec hub pushed).operate hub fun world =>
        world.onHub hub Hub.popScope
      popped.leave hub (run.stack hub)
  | pushScope body, run =>
      let pushed := run.operate hub fun world =>
        world.onHub hub (Hub.pushScope id)
      let popped := (body.exec hub pushed).operate hub fun world =>
        world.onHub hub Hub.popScope
      popped.leave hub (run.stack hub)

end

/-- The scope of the block that is read.  The hub's stack in `world` is never
looked at. -/
structure Reading where
  world : World
  scope : Scope
  captures : List (ErrorEvent × Scope) := []

end ScopeProgram

section

variable [UnicodeTables]

/-- `capture_event`, with a given scope for the top one. -/
def World.captureEventIn (hub : HubId) (event : ErrorEvent) (scope : Scope)
    (world : World) : World :=
  match (world.hubs hub).client with
  | none => world
  | some client => (world.captureWith hub client event scope).captured hub event

end

namespace ScopeProgram

section

variable [UnicodeTables]

def read (hub : HubId) : ScopeProgram → Reading → Reading
  | skip, reading => reading
  | configureScope configure, reading =>
      { reading with scope := configure reading.scope }
  | setUser user, reading =>
      { reading with scope := reading.scope.setUser user }
  | clear, reading => { reading with scope := reading.scope.clear }
  | addBreadcrumb turn breadcrumb, reading =>
      let (processed, world) :=
        reading.world.processBreadcrumb hub turn breadcrumb
      { reading with
        world
        scope := processed.elim reading.scope reading.scope.addBreadcrumb }
  | captureEvent event, reading =>
      { reading with
        world := reading.world.captureEventIn hub event reading.scope
        captures := reading.captures ++ [(event, reading.scope)] }
  | seq first second, reading => second.read hub (first.read hub reading)
  | withScope scopeFn body, reading =>
      let inner := body.read hub { reading with scope := scopeFn reading.scope }
      { inner with scope := reading.scope }
  | pushScope body, reading =>
      let inner := body.read hub reading
      { inner with scope := reading.scope }

end

end ScopeProgram

def Hub.withScopes (scopes : ScopeStack) (hub : Hub) : Hub :=
  { hub with scopes }

namespace ScopeStack

/-- The stack with another scope on top of the same lower ones. -/
def withTop (scope : Scope) (stack : ScopeStack) : ScopeStack :=
  stack.configureTop fun _ => scope

theorem configureTop_withTop (configure : Scope → Scope) (scope : Scope)
    (stack : ScopeStack) :
    (stack.withTop scope).configureTop configure =
      stack.withTop (configure scope) := by
  obtain ⟨scopes, filled⟩ := stack
  cases scopes with
  | nil => exact (filled rfl).elim
  | cons top rest => rfl

@[simp] theorem top_withTop (scope : Scope) (stack : ScopeStack) :
    (stack.withTop scope).top = scope := top_configureTop _ stack

@[simp] theorem withTop_withTop (scope other : Scope) (stack : ScopeStack) :
    (stack.withTop scope).withTop other = stack.withTop other :=
  configureTop_withTop _ scope stack

@[simp] theorem tail_withTop (scope : Scope) (stack : ScopeStack) :
    (stack.withTop scope).scopes.tail = stack.scopes.tail := by
  obtain ⟨scopes, filled⟩ := stack
  cases scopes with
  | nil => exact (filled rfl).elim
  | cons top rest => rfl

theorem withTop_inj (stack : ScopeStack) {scope other : Scope} :
    stack.withTop scope = stack.withTop other ↔ scope = other := by
  constructor
  · intro same
    have tops := congrArg top same
    rwa [top_withTop, top_withTop] at tops
  · intro same
    rw [same]

theorem withTop_top (stack : ScopeStack) : stack.withTop stack.top = stack := by
  obtain ⟨scopes, filled⟩ := stack
  cases scopes with
  | nil => exact (filled rfl).elim
  | cons top rest => rfl

end ScopeStack

namespace World

private theorem onHub_onHub (world : World) (hub : HubId)
    (first second : Hub → Hub) :
    (world.onHub hub first).onHub hub second =
      world.onHub hub fun hub => second (first hub) := by
  simp [onHub]

private theorem withScopes_self (world : World) (hub : HubId) :
    world.onHub hub (Hub.withScopes (world.hubs hub).scopes) = world := by
  have same : (world.hubs hub).withScopes (world.hubs hub).scopes =
      world.hubs hub := rfl
  rw [onHub, same, Function.update_eq_self]

/-- Only the stack changes for a section that does nothing else. -/
theorem onHub_withScopes (world : World) (hub : HubId)
    (stack after : ScopeStack) (change : Hub → Hub)
    (changes : ∀ hub : Hub,
      change (hub.withScopes stack) = hub.withScopes after) :
    (world.onHub hub (Hub.withScopes stack)).onHub hub change =
      world.onHub hub (Hub.withScopes after) := by
  rw [onHub_onHub]
  exact congrArg (world.onHub hub) (funext changes)

theorem processBreadcrumb_withScopes (world : World) (hub : HubId)
    (stack : ScopeStack) (turn : Nat) (breadcrumb : Breadcrumb) :
    (world.onHub hub (Hub.withScopes stack)).processBreadcrumb hub turn
        breadcrumb =
      ((world.processBreadcrumb hub turn breadcrumb).1,
        (world.processBreadcrumb hub turn breadcrumb).2.onHub hub
          (Hub.withScopes stack)) := by
  rw [processBreadcrumb, processBreadcrumb, onHub_hubs_self]
  change (match (world.hubs hub).client with | none => _ | some client => _) = _
  cases (world.hubs hub).client with
  | none => rfl
  | some client => rfl

theorem addBreadcrumb_withScopes (world : World) (hub : HubId)
    (stack : ScopeStack) (turn : Nat) (breadcrumb : Breadcrumb) :
    (world.onHub hub (Hub.withScopes stack)).addBreadcrumb hub turn breadcrumb =
      (world.processBreadcrumb hub turn breadcrumb).2.onHub hub
        (Hub.withScopes (stack.withTop
          ((world.processBreadcrumb hub turn breadcrumb).1.elim stack.top
            stack.top.addBreadcrumb))) := by
  rw [addBreadcrumb, processBreadcrumb_withScopes]
  cases (world.processBreadcrumb hub turn breadcrumb).1 with
  | none =>
      rw [Option.elim_none, stack.withTop_top]
  | some kept =>
      apply onHub_withScopes
      intro hub
      have added := stack.configureTop_withTop
        (fun scope => scope.addBreadcrumb kept) stack.top
      rw [stack.withTop_top] at added
      rw [Option.elim_some, ← added]
      rfl

theorem captured_withScopes (world : World) (hub : HubId) (stack : ScopeStack)
    (event : ErrorEvent) :
    (world.onHub hub (Hub.withScopes stack)).captured hub event =
      (world.captured hub event).onHub hub (Hub.withScopes stack) := by
  have marked : (world.onHub hub (Hub.withScopes stack)).onHub hub
      Hub.markSessionErrored =
        (world.onHub hub Hub.markSessionErrored).onHub hub
          (Hub.withScopes stack) := by
    rw [onHub_onHub, onHub_onHub]
    rfl
  rw [captured, captured, marked]
  cases event.isErrorLevel with
  | true => rfl
  | false => rfl

section

variable [UnicodeTables]

theorem captureEvent_withScopes (world : World) (hub : HubId)
    (stack : ScopeStack) (event : ErrorEvent) :
    (world.onHub hub (Hub.withScopes stack)).captureEvent hub event =
      (world.captureEventIn hub event stack.top).onHub hub
        (Hub.withScopes stack) := by
  rw [captureEvent, captureEventIn, onHub_hubs_self]
  change (match (world.hubs hub).client with | none => _ | some client => _) = _
  cases (world.hubs hub).client with
  | none => rfl
  | some client =>
      have stamped : (world.onHub hub (Hub.withScopes stack)).captureWith hub
          client event stack.top =
            (world.captureWith hub client event stack.top).onHub hub
              (Hub.withScopes stack) := by
        rw [captureWith, onHub_hubs_self]
        rfl
      change World.captured hub event (World.captureWith _ _ _ stack.top _) = _
      rw [stamped, captured_withScopes]

end

end World

namespace ScopeProgram

/-- A run against the reading of the same program, in a block entered with
`base`.  The lower entries of `outer` are under every stack. -/
structure Agrees (hub : HubId) (outer base : ScopeStack) (run : Run)
    (reading : Reading) : Prop where
  world : run.world = reading.world.onHub hub
    (Hub.withScopes (base.withTop reading.scope))
  captures : run.captures = reading.captures
  inside : outer.scopes.tail <:+ base.scopes.tail
  seen : ∀ stack ∈ run.seen, outer.scopes.tail <:+ stack.scopes.tail
  blocks : ∀ block ∈ run.blocks, block.2 = block.1

namespace Agrees

variable {hub : HubId} {outer base : ScopeStack} {run : Run} {reading : Reading}

private theorem stack_eq (agrees : Agrees hub outer base run reading) :
    run.stack hub = base.withTop reading.scope := by
  rw [Run.stack, agrees.world, World.onHub_hubs_self]
  rfl

theorem operate (agrees : Agrees hub outer base run reading)
    {next : ScopeStack} (inside : outer.scopes.tail <:+ next.scopes.tail)
    {world : World} {scope : Scope} {operation : World → World}
    (moves : operation (reading.world.onHub hub
        (Hub.withScopes (base.withTop reading.scope))) =
      world.onHub hub (Hub.withScopes (next.withTop scope))) :
    Agrees hub outer next (run.operate hub operation)
      { reading with world, scope } := by
  have moved : operation run.world =
      world.onHub hub (Hub.withScopes (next.withTop scope)) := by
    rw [agrees.world, moves]
  constructor
  case world => exact moved
  case captures => exact agrees.captures
  case inside => exact inside
  case seen =>
    intro stack member
    rcases List.mem_append.mp member with earlier | last
    · exact agrees.seen stack earlier
    · rw [List.mem_singleton.mp last, moved, World.onHub_hubs_self]
      change _ <:+ (next.withTop scope).scopes.tail
      rwa [ScopeStack.tail_withTop]
  case blocks => exact agrees.blocks

theorem configure (agrees : Agrees hub outer base run reading)
    (configure : Scope → Scope) :
    Agrees hub outer base
      (run.operate hub fun world =>
        world.onHub hub (Hub.configureScope configure))
      { reading with scope := configure reading.scope } := by
  apply agrees.operate agrees.inside
  apply World.onHub_withScopes
  intro hub
  rw [← ScopeStack.configureTop_withTop]
  rfl

theorem addBreadcrumb (agrees : Agrees hub outer base run reading) (turn : Nat)
    (breadcrumb : Breadcrumb) :
    Agrees hub outer base
      (run.operate hub (World.addBreadcrumb hub turn breadcrumb))
      { reading with
        world := (reading.world.processBreadcrumb hub turn breadcrumb).2
        scope := (reading.world.processBreadcrumb hub turn breadcrumb).1.elim
          reading.scope reading.scope.addBreadcrumb } := by
  apply agrees.operate agrees.inside
  rw [World.addBreadcrumb_withScopes, ScopeStack.top_withTop,
    ScopeStack.withTop_withTop]

section

variable [UnicodeTables]

theorem captureEvent (agrees : Agrees hub outer base run reading)
    (event : ErrorEvent) :
    Agrees hub outer base
      { run.operate hub (World.captureEvent hub event) with
        captures := run.captures ++ [(event, (run.stack hub).top)] }
      { reading with
        world := reading.world.captureEventIn hub event reading.scope
        captures := reading.captures ++ [(event, reading.scope)] } := by
  have moved : Agrees hub outer base
      (run.operate hub (World.captureEvent hub event))
      { reading with
        world := reading.world.captureEventIn hub event reading.scope
        scope := reading.scope } := by
    apply agrees.operate agrees.inside
    rw [World.captureEvent_withScopes, ScopeStack.top_withTop]
  constructor
  case world => exact moved.world
  case captures =>
    rw [agrees.captures, agrees.stack_eq, ScopeStack.top_withTop]
  case inside => exact moved.inside
  case seen => exact moved.seen
  case blocks => exact moved.blocks

end

theorem push (agrees : Agrees hub outer base run reading)
    (scopeFn : Scope → Scope) :
    Agrees hub outer
      ((base.withTop reading.scope).push (scopeFn reading.scope))
      (run.operate hub fun world => world.onHub hub (Hub.pushScope scopeFn))
      { reading with scope := scopeFn reading.scope } := by
  apply agrees.operate
  · calc
      outer.scopes.tail <:+ base.scopes.tail := agrees.inside
      _ = (base.withTop reading.scope).scopes.tail :=
        (base.tail_withTop reading.scope).symm
      _ <:+ (base.withTop reading.scope).scopes := List.tail_suffix _
  · apply World.onHub_withScopes
    intro hub
    change hub.withScopes ((base.withTop reading.scope).push
      (scopeFn (base.withTop reading.scope).top)) = _
    rw [ScopeStack.top_withTop]
    rfl

/-- At the end of a block its scope goes, with all that was done to it. -/
theorem pop {scope inner : Scope} {entered : ScopeStack}
    (agrees : Agrees hub outer ((base.withTop scope).push inner) run reading)
    (inside : outer.scopes.tail <:+ base.scopes.tail)
    (before : entered = base.withTop scope) :
    Agrees hub outer base
      ((run.operate hub fun world => world.onHub hub Hub.popScope).leave hub
        entered)
      { reading with scope } := by
  have popped : Agrees hub outer base
      (run.operate hub fun world => world.onHub hub Hub.popScope)
      { reading with scope } := by
    apply agrees.operate inside
    apply World.onHub_withScopes
    intro hub
    change hub.withScopes ((base.withTop scope).push reading.scope).pop = _
    rw [ScopeStack.pop_push]
  constructor
  case world => exact popped.world
  case captures => exact popped.captures
  case inside => exact popped.inside
  case seen => exact popped.seen
  case blocks =>
    intro block member
    rcases List.mem_append.mp member with earlier | last
    · exact popped.blocks block earlier
    · rw [List.mem_singleton.mp last, popped.stack_eq, before]

end Agrees

section

variable [UnicodeTables]

theorem agrees_exec {hub : HubId} {outer base : ScopeStack} {run : Run}
    {reading : Reading} (program : ScopeProgram)
    (agrees : Agrees hub outer base run reading) :
    Agrees hub outer base (program.exec hub run)
      (program.read hub reading) := by
  induction program generalizing base run reading with
  | skip => exact agrees
  | configureScope configure => exact agrees.configure configure
  | setUser user => exact agrees.configure fun scope => scope.setUser user
  | clear => exact agrees.configure Scope.clear
  | addBreadcrumb turn breadcrumb => exact agrees.addBreadcrumb turn breadcrumb
  | captureEvent event => exact agrees.captureEvent event
  | seq first second inFirst inSecond => exact inSecond (inFirst agrees)
  | withScope scopeFn body induction =>
      exact (induction (agrees.push scopeFn)).pop agrees.inside agrees.stack_eq
  | pushScope body induction =>
      exact (induction (agrees.push id)).pop agrees.inside agrees.stack_eq

/-- Every capture of a run has the scope the program has there when it is read
lexically, every block leaves the stack as it was, and the stack always has a
scope above the lower ones of the start. -/
theorem captures_lexical (program : ScopeProgram) (hub : HubId)
    (world : World) :
    let base := (world.hubs hub).scopes
    let ran := program.exec hub { world }
    let reading := program.read hub { world, scope := base.top }
    ran.captures = reading.captures ∧
      ran.world = reading.world.onHub hub
        (Hub.withScopes (base.withTop reading.scope)) ∧
      (∀ block ∈ ran.blocks, block.2 = block.1) ∧
      ∀ stack ∈ ran.seen,
        stack.scopes ≠ [] ∧ base.scopes.tail <:+ stack.scopes.tail := by
  intro base ran reading
  have start : Agrees hub base base { world } { world, scope := base.top } := by
    constructor
    case world =>
      rw [ScopeStack.withTop_top]
      exact (world.withScopes_self hub).symm
    case captures => rfl
    case inside => exact List.suffix_rfl
    case seen => exact fun stack member => nomatch member
    case blocks => exact fun block member => nomatch member
  have agrees : Agrees hub base base ran reading := agrees_exec program start
  refine ⟨agrees.captures, agrees.world, agrees.blocks, ?_⟩
  intro stack member
  exact ⟨stack.filled, agrees.seen stack member⟩

end

/-- A tag set for one block is not on what is captured after it. -/
example :
    letI := asciiTables
    (exec World.main
      (seq
        (withScope (fun scope => scope.setTag "temp" "yes")
          (captureEvent
            { eventId := 1, exceptionClass := "E", message := "inside" }))
        (captureEvent
          { eventId := 2, exceptionClass := "E", message := "outside" }))
      { world := World.initial }).captures.map
        (fun captured => (captured.1.message, captured.2.tags)) =
      [("inside", [("temp", "yes")]), ("outside", [])] := rfl

end ScopeProgram

end Allstak
