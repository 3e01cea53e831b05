import Allstak.Nesting

/-!
# Leaving blocks by unwinding

What one thread does with hubs, with the panics that unwind out of blocks and
the places that catch them.  A scope guard is dropped by the unwinding.  What
follows a body in `with_scope` and `Hub::run` is not run then.  A panic inside a
write section of a hub poisons the hub's lock, and sections do not enter it
again.
-/

namespace Allstak

/-- What one thread does with hubs.  A call is made on the hub `on`, or on the
thread's current one.  A configuration says what it makes of the scope,
and whether it panics then.  A client's hook that panics is a `panic`.  What a
panic hook does changes no context and is left out. -/
inductive ThreadProgram where
  | skip
  | configureScope (on : Option HubId) (configure : Scope → Scope × Bool)
  | addBreadcrumb (on : Option HubId) (turn : Nat) (breadcrumb : Breadcrumb)
  | captureEvent (on : Option HubId) (event : ErrorEvent)
  | panic
  | seq (first second : ThreadProgram)
  | catchUnwind (body : ThreadProgram)
  | run (hub : HubId) (body : ThreadProgram)
  | withScope (on : Option HubId) (scopeFn : Scope → Scope × Bool)
      (body : ThreadProgram)
  | pushScope (on : Option HubId) (body : ThreadProgram)

namespace ThreadProgram

/-- The thread's current hub, and the scope stack of a hub. -/
structure Context where
  current : HubId
  stack : ScopeStack

/-- The contexts a block was entered and left with. -/
structure Exit where
  entered : Context
  left : Context

def Exit.Restored (exit : Exit) : Prop := exit.left = exit.entered

/-- A thread with its `CURRENT_HUB`, the hubs whose locks are poisoned, and the
blocks left so far. -/
structure Thread where
  slot : Option HubId
  world : World
  poisoned : HubId → Bool := fun _ => false
  panicking : Bool := false
  exits : List Exit := []

namespace Thread

def current (thread : Thread) : HubId := World.current thread.slot

/-- The hub a call is made on. -/
def target (on : Option HubId) (thread : Thread) : HubId :=
  on.getD thread.current

def stack (hub : HubId) (thread : Thread) : ScopeStack :=
  (thread.world.hubs hub).scopes

def context (hub : HubId) (thread : Thread) : Context :=
  { current := thread.current, stack := thread.stack hub }

def operate (operation : World → World) (thread : Thread) : Thread :=
  { thread with world := operation thread.world }

/-- An operation that does nothing on a hub with a poisoned lock. -/
def unlessPoisoned (hub : HubId) (operation : World → World)
    (thread : Thread) : Thread :=
  if thread.poisoned hub then thread else thread.operate operation

def pushScope (hub : HubId) (scopeFn : Scope → Scope) : Thread → Thread :=
  operate fun world => world.onHub hub (Hub.pushScope scopeFn)

def popScope (hub : HubId) : Thread → Thread :=
  unlessPoisoned hub fun world => world.onHub hub Hub.popScope

/-- Note that a block is left which was entered as `before`. -/
def leave (hub : HubId) (thread before : Thread) : Thread :=
  { thread with
    exits := thread.exits ++ [⟨before.context hub, thread.context hub⟩] }

/-- A panic inside a write section, after which the lock is poisoned. -/
def panicInside (hub : HubId) (thread : Thread) : Thread :=
  { thread with
    poisoned := Function.update thread.poisoned hub true
    panicking := true }

end Thread

section

variable [UnicodeTables]

/-- The thread after a program.  A poisoned hub panics where it is locked. -/
def exec : ThreadProgram → Thread → Thread
  | skip, thread => thread
  | configureScope on configure, thread =>
      let hub := thread.target on
      let configured := thread.operate fun world =>
        world.onHub hub (Hub.configureScope fun scope => (configure scope).1)
      if thread.poisoned hub then thread
      else if (configure (thread.stack hub).top).2 then
        configured.panicInside hub
      else configured
  | addBreadcrumb on turn breadcrumb, thread =>
      let hub := thread.target on
      thread.unlessPoisoned hub (World.addBreadcrumb hub turn breadcrumb)
  | captureEvent on event, thread =>
      let hub := thread.target on
      thread.unlessPoisoned hub (World.captureEvent hub event)
  | panic, thread => { thread with panicking := true }
  | seq first second, thread =>
      let between := first.exec thread
      if between.panicking then between else second.exec between
  | catchUnwind body, thread => { body.exec thread with panicking := false }
  | run hub body, thread =>
      let ran := body.exec { thread with slot := some hub }
      let after :=
        if ran.panicking then ran else { ran with slot := thread.slot }
      after.leave thread.current thread
  | withScope on scopeFn body, thread =>
      let hub := thread.target on
      if thread.poisoned hub then
        ({ thread with panicking := true } : Thread).leave hub thread
      else if (scopeFn (thread.stack hub).top).2 then
        (thread.panicInside hub).leave hub thread
      else
        let pushed := thread.pushScope hub fun scope => (scopeFn scope).1
        let ran := body.exec pushed
        let after := if ran.panicking then ran else ran.popScope hub
        after.leave hub thread
  | pushScope on body, thread =>
      let hub := thread.target on
      let pushed :=
        if thread.poisoned hub then thread else thread.pushScope hub id
      ((body.exec pushed).popScope hub).leave hub thread

section

variable {thread : Thread} {on : Option HubId} {scopeFn : Scope → Scope × Bool}
  {body : ThreadProgram}

theorem exec_withScope_of_poisoned
    (poisoned : thread.poisoned (thread.target on) = true) :
    (withScope on scopeFn body).exec thread =
      ({ thread with panicking := true } : Thread).leave (thread.target on)
        thread := by
  rw [exec, if_pos poisoned]

theorem exec_withScope_of_panics
    (healthy : thread.poisoned (thread.target on) = false)
    (panics : (scopeFn (thread.stack (thread.target on)).top).2 = true) :
    (withScope on scopeFn body).exec thread =
      (thread.panicInside (thread.target on)).leave (thread.target on)
        thread := by
  rw [exec, if_neg (Bool.eq_false_iff.mp healthy), if_pos panics]

theorem exec_withScope_of_calm
    (healthy : thread.poisoned (thread.target on) = false)
    (calm : (scopeFn (thread.stack (thread.target on)).top).2 = false) :
    (withScope on scopeFn body).exec thread =
      let ran := body.exec
        (thread.pushScope (thread.target on) fun scope => (scopeFn scope).1)
      (if ran.panicking then ran else ran.popScope (thread.target on)).leave
        (thread.target on) thread := by
  rw [exec, if_neg (Bool.eq_false_iff.mp healthy),
    if_neg (Bool.eq_false_iff.mp calm)]

theorem exec_pushScope_of_poisoned
    (poisoned : thread.poisoned (thread.target on) = true) :
    (ThreadProgram.pushScope on body).exec thread =
      ((body.exec thread).popScope (thread.target on)).leave (thread.target on)
        thread := by
  rw [exec, if_pos poisoned]

theorem exec_pushScope_of_healthy
    (healthy : thread.poisoned (thread.target on) = false) :
    (ThreadProgram.pushScope on body).exec thread =
      ((body.exec (thread.pushScope (thread.target on) id)).popScope
        (thread.target on)).leave (thread.target on) thread := by
  rw [exec, if_neg (Bool.eq_false_iff.mp healthy)]

end

end

end ThreadProgram

/-- A program on one hub, as one that could panic. -/
def ScopeProgram.thread (hub : HubId) : ScopeProgram → ThreadProgram
  | skip => .skip
  | configureScope configure =>
      .configureScope (some hub) fun scope => (configure scope, false)
  | setUser user =>
      .configureScope (some hub) fun scope => (scope.setUser user, false)
  | clear => .configureScope (some hub) fun scope => (scope.clear, false)
  | addBreadcrumb turn breadcrumb => .addBreadcrumb (some hub) turn breadcrumb
  | captureEvent event => .captureEvent (some hub) event
  | seq first second => .seq (first.thread hub) (second.thread hub)
  | withScope scopeFn body =>
      .withScope (some hub) (fun scope => (scopeFn scope, false))
        (body.thread hub)
  | pushScope body => .pushScope (some hub) (body.thread hub)

namespace ThreadProgram

/-- A thread against a run of a program on one hub. -/
structure Mirrors (hub : HubId) (run : ScopeProgram.Run) (thread : Thread) :
    Prop where
  world : thread.world = run.world
  healthy : thread.poisoned hub = false
  calm : thread.panicking = false
  exits : thread.exits.map (fun exit => (exit.entered.stack, exit.left.stack)) =
    run.blocks

namespace Mirrors

variable {hub : HubId} {run : ScopeProgram.Run} {thread : Thread}

theorem operate (mirrors : Mirrors hub run thread)
    (operation : World → World) :
    Mirrors hub (run.operate hub operation) (thread.operate operation) := by
  constructor
  case world => exact congrArg operation mirrors.world
  case healthy => exact mirrors.healthy
  case calm => exact mirrors.calm
  case exits => exact mirrors.exits

theorem unlessPoisoned (mirrors : Mirrors hub run thread)
    (operation : World → World) :
    Mirrors hub (run.operate hub operation)
      (thread.unlessPoisoned hub operation) := by
  rw [Thread.unlessPoisoned, if_neg (Bool.eq_false_iff.mp mirrors.healthy)]
  exact mirrors.operate operation

theorem stack (mirrors : Mirrors hub run thread) :
    thread.stack hub = run.stack hub := by
  rw [Thread.stack, mirrors.world]
  rfl

theorem leave (mirrors : Mirrors hub run thread) {entered : ScopeStack}
    {before : Thread} (same : before.stack hub = entered) :
    Mirrors hub (run.leave hub entered) (thread.leave hub before) := by
  constructor
  case world => exact mirrors.world
  case healthy => exact mirrors.healthy
  case calm => exact mirrors.calm
  case exits =>
    rw [Thread.leave, ScopeProgram.Run.leave, List.map_append, mirrors.exits,
      ← same, ← mirrors.stack]
    rfl

end Mirrors

section

variable [UnicodeTables]

theorem Mirrors.configure {hub : HubId} {run : ScopeProgram.Run}
    {thread : Thread} (mirrors : Mirrors hub run thread)
    (configure : Scope → Scope) :
    Mirrors hub
      (run.operate hub fun world =>
        world.onHub hub (Hub.configureScope configure))
      ((configureScope (some hub) fun scope => (configure scope, false)).exec
        thread) := by
  have healthy : ¬ thread.poisoned (thread.target (some hub)) = true :=
    Bool.eq_false_iff.mp mirrors.healthy
  rw [exec, if_neg healthy, if_neg Bool.false_ne_true]
  exact mirrors.operate _

/-- Without panics, a thread does what the program on one hub does. -/
theorem mirrors_exec {hub : HubId} {run : ScopeProgram.Run} {thread : Thread}
    (program : ScopeProgram) (mirrors : Mirrors hub run thread) :
    Mirrors hub (program.exec hub run)
      ((program.thread hub).exec thread) := by
  induction program generalizing run thread with
  | skip => exact mirrors
  | configureScope configure => exact mirrors.configure configure
  | setUser user => exact mirrors.configure fun scope => scope.setUser user
  | clear => exact mirrors.configure Scope.clear
  | addBreadcrumb turn breadcrumb => exact mirrors.unlessPoisoned _
  | captureEvent event =>
      have captured := mirrors.unlessPoisoned (World.captureEvent hub event)
      exact ⟨captured.world, captured.healthy, captured.calm, captured.exits⟩
  | seq first second inFirst inSecond =>
      have between := inFirst mirrors
      rw [ScopeProgram.thread, exec, if_neg (Bool.eq_false_iff.mp between.calm)]
      exact inSecond between
  | withScope scopeFn body induction =>
      have ran : Mirrors hub _
          ((body.thread hub).exec (thread.pushScope hub scopeFn)) :=
        induction (mirrors.operate _)
      rw [ScopeProgram.thread, exec_withScope_of_calm mirrors.healthy rfl]
      change Mirrors hub _ (Thread.leave hub
        (if ((body.thread hub).exec (thread.pushScope hub scopeFn)).panicking
          then _ else Thread.popScope hub _) thread)
      rw [if_neg (Bool.eq_false_iff.mp ran.calm)]
      exact (ran.unlessPoisoned _).leave mirrors.stack
  | pushScope body induction =>
      have ran : Mirrors hub _
          ((body.thread hub).exec (thread.pushScope hub id)) :=
        induction (mirrors.operate _)
      rw [ScopeProgram.thread, exec_pushScope_of_healthy mirrors.healthy]
      exact (ran.unlessPoisoned _).leave mirrors.stack

end

end ThreadProgram

end Allstak
