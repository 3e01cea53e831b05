import Allstak.UnwindingReading

/-!
# Blocks that restore the context

A thread follows the reading of its program as long as every block restores the
context it was entered with, and the reading alone decides whether every block
does.
-/

namespace Allstak

namespace ThreadProgram

/-- Every block left so far was left with the context it was entered with. -/
def Thread.Restored (thread : Thread) : Prop :=
  ∀ exit ∈ thread.exits, exit.Restored

private theorem Thread.restored_leave (thread before : Thread) (hub : HubId) :
    (thread.leave hub before).Restored ↔
      thread.Restored ∧ thread.current = before.current ∧
        thread.stack hub = before.stack hub := by
  rw [Thread.Restored, Thread.leave, List.forall_mem_append,
    List.forall_mem_singleton, Exit.Restored, Thread.context, Thread.context,
    Context.mk.injEq]
  rfl

private theorem Thread.restored_unlessPoisoned (thread : Thread) (hub : HubId)
    (operation : World → World) :
    (thread.unlessPoisoned hub operation).Restored ↔ thread.Restored := by
  rw [Thread.unlessPoisoned]
  split
  · rfl
  · rfl

private theorem Thread.restored_popScope (thread : Thread) (hub : HubId) :
    (thread.popScope hub).Restored ↔ thread.Restored :=
  thread.restored_unlessPoisoned hub _

private theorem Thread.restored_withScope (thread : Thread) (hub : HubId) :
    (if thread.panicking then thread else thread.popScope hub).Restored ↔
      thread.Restored := by
  split
  · rfl
  · exact thread.restored_popScope hub

private theorem Thread.restored_run (thread : Thread) (slot : Option HubId) :
    (if thread.panicking then thread else { thread with slot }).Restored ↔
      thread.Restored := by
  split
  · rfl
  · rfl

private theorem Thread.popScope_current (thread : Thread) (hub : HubId) :
    (thread.popScope hub).current = thread.current := by
  rw [Thread.popScope, Thread.unlessPoisoned]
  split
  · rfl
  · rfl

/-- While a block's scope is on the stack, the stack is not the one before. -/
theorem Follows.pushed_ne {filter : Filter} {base : HubId → ScopeStack}
    {thread : Thread} {place : Place} {hub : HubId} {scope inner : Scope}
    (follows : Follows filter
      (Function.update base hub (((base hub).withTop scope).push inner))
      thread place) :
    thread.stack hub ≠ (base hub).withTop scope := by
  rw [follows.stack, Function.update_self]
  intro same
  have lengths := congrArg (fun stack => stack.scopes.length) same
  exact absurd lengths (Nat.succ_ne_self _)

/-- A block's scope is off the stack if the lock can still be taken. -/
theorem Follows.popScope_stack_iff {filter : Filter}
    {base : HubId → ScopeStack} {thread : Thread} {place : Place} {hub : HubId}
    {scope inner : Scope}
    (follows : Follows filter
      (Function.update base hub (((base hub).withTop scope).push inner))
      thread place) :
    (thread.popScope hub).stack hub = (base hub).withTop scope ↔
      place.poisoned hub = false := by
  cases health : place.poisoned hub with
  | true =>
      rw [Thread.popScope, Thread.unlessPoisoned, follows.poisoned, health,
        if_pos rfl]
      exact iff_of_false follows.pushed_ne Bool.noConfusion
  | false =>
      apply iff_of_true _ rfl
      rw [(follows.pop health).stack, Place.setTop_tops_self]

section

variable {filter : Filter} {base : HubId → ScopeStack} {thread ran : Thread}
  {place after : Place} {hub : HubId}

theorem Follows.leaves_pushScope (follows : Follows filter base thread place)
    {inner : Scope}
    (inside : Follows filter
      (Function.update base hub
        (((base hub).withTop (place.tops hub)).push inner)) ran after)
    (back : after.current = place.current) :
    (ran.popScope hub).current = thread.current ∧
        (ran.popScope hub).stack hub = thread.stack hub ↔
      after.poisoned hub = false := by
  rw [Thread.popScope_current, inside.current, back, follows.current,
    follows.stack, inside.popScope_stack_iff]
  exact and_iff_right rfl

theorem Follows.leaves_withScope (follows : Follows filter base thread place)
    {inner : Scope}
    (inside : Follows filter
      (Function.update base hub
        (((base hub).withTop (place.tops hub)).push inner)) ran after)
    (back : after.current = place.current) :
    (if ran.panicking then ran else ran.popScope hub).current =
          thread.current ∧
        (if ran.panicking then ran else ran.popScope hub).stack hub =
          thread.stack hub ↔
      after.panicking = false ∧ after.poisoned hub = false := by
  rw [inside.panicking]
  cases after.panicking with
  | true =>
      rw [if_pos rfl, follows.stack]
      apply iff_of_false
      · exact fun both => inside.pushed_ne both.2
      · exact fun both => nomatch both.1
  | false =>
      rw [if_neg Bool.false_ne_true, follows.leaves_pushScope inside back]
      exact (and_iff_right rfl).symm

theorem Follows.leaves_run (follows : Follows filter base thread place)
    (inside : Follows filter base ran after) (there : after.current = hub) :
    (if ran.panicking then ran
          else { ran with slot := thread.slot } : Thread).current =
          thread.current ∧
        (if ran.panicking then ran
          else { ran with slot := thread.slot } : Thread).stack thread.current =
          thread.stack thread.current ↔
      (after.panicking = true → hub = place.current) ∧
        after.tops place.current = place.tops place.current := by
  have tops : ran.stack thread.current = thread.stack thread.current ↔
      after.tops place.current = place.tops place.current := by
    rw [inside.stack, follows.stack, ScopeStack.withTop_inj, follows.current]
  rw [inside.panicking]
  cases after.panicking with
  | true =>
      rw [if_pos rfl, inside.current, there, tops, follows.current]
      exact and_congr_left' ⟨fun same _ => same, fun same => same rfl⟩
  | false =>
      rw [if_neg Bool.false_ne_true]
      exact and_congr (iff_of_true rfl fun panicking => nomatch panicking) tops

end

section

variable [UnicodeTables]

/-- What was not restored stays on record. -/
theorem restored_of_exec {program : ThreadProgram} {thread : Thread}
    (restored : (program.exec thread).Restored) : thread.Restored := by
  induction program generalizing thread with
  | skip | panic => exact restored
  | configureScope on configure =>
      rw [exec] at restored
      split at restored
      · exact restored
      · split at restored
        · exact restored
        · exact restored
  | addBreadcrumb on turn breadcrumb =>
      exact (Thread.restored_unlessPoisoned ..).mp restored
  | captureEvent on event =>
      exact (Thread.restored_unlessPoisoned ..).mp restored
  | seq first second inFirst inSecond =>
      rw [exec] at restored
      split at restored
      · exact inFirst restored
      · exact inFirst (inSecond restored)
  | catchUnwind body induction => exact induction restored
  | run hub body induction =>
      rw [exec, Thread.restored_leave, Thread.restored_run] at restored
      exact @induction { thread with slot := some hub } restored.1
  | withScope on scopeFn body induction =>
      rw [exec] at restored
      split at restored
      · exact ((Thread.restored_leave ..).mp restored).1
      split at restored
      · exact ((Thread.restored_leave ..).mp restored).1
      rw [Thread.restored_leave, Thread.restored_withScope] at restored
      exact @induction (thread.pushScope _ _) restored.1
  | pushScope on body induction =>
      rw [exec, Thread.restored_leave, Thread.restored_popScope] at restored
      have ran := restored.1
      split at ran
      · exact induction ran
      · exact @induction (thread.pushScope _ _) ran

/-- A thread that runs the program follows the reading if the program is orderly
there, and restores the context at every block only then. -/
structure Behaves (filter : Filter) (program : ThreadProgram) : Prop where
  follows : ∀ {base : HubId → ScopeStack} {thread : Thread} {place : Place},
    Follows filter base thread place → program.Orderly filter place →
      Follows filter base (program.exec thread) (program.read filter place)
  restored : ∀ {base : HubId → ScopeStack} {thread : Thread} {place : Place},
    Follows filter base thread place → thread.Restored →
      ((program.exec thread).Restored ↔ program.Orderly filter place)

namespace Behaves

variable {filter : Filter} {first second body : ThreadProgram}

theorem configureScope (on : Option HubId)
    (configure : Scope → Scope × Bool) :
    Behaves filter (.configureScope on configure) := by
  constructor
  case follows =>
    intro base thread place follows _
    rw [exec, read, follows.target, follows.poisoned, follows.top]
    have configured := follows.configure (place.target on) fun scope =>
      (configure scope).1
    split
    · exact follows
    · split
      · exact configured.panicInside _
      · exact configured
  case restored =>
    intro base thread place follows before
    apply iff_of_true _ trivial
    rw [exec]
    split
    · exact before
    · split
      · exact before
      · exact before

theorem addBreadcrumb (on : Option HubId) (turn : Nat)
    (breadcrumb : Breadcrumb) :
    Behaves filter (.addBreadcrumb on turn breadcrumb) := by
  constructor
  case follows =>
    intro base thread place follows _
    rw [exec, read, follows.target]
    exact follows.unlessPoisoned (follows.addBreadcrumb _ turn breadcrumb)
  case restored =>
    intro base thread place follows before
    exact iff_of_true ((Thread.restored_unlessPoisoned ..).mpr before) trivial

theorem captureEvent (on : Option HubId) (event : ErrorEvent) :
    Behaves filter (.captureEvent on event) := by
  constructor
  case follows =>
    intro base thread place follows _
    have captured : Follows filter base
        ((ThreadProgram.captureEvent on event).exec thread) _ :=
      follows.unlessPoisoned (follows.captureEvent (thread.target on) event)
    rwa [ite_self] at captured
  case restored =>
    intro base thread place follows before
    exact iff_of_true ((Thread.restored_unlessPoisoned ..).mpr before) trivial

theorem seq (inFirst : Behaves filter first)
    (inSecond : Behaves filter second) :
    Behaves filter (.seq first second) := by
  constructor
  case follows =>
    intro base thread place follows orderly
    obtain ⟨before, later⟩ := orderly
    have between := inFirst.follows follows before
    rw [exec, read, between.panicking]
    split
    · exact between
    · exact inSecond.follows between (later (Bool.eq_false_iff.mpr ‹_›))
  case restored =>
    intro base thread place follows before
    by_cases orderly : first.Orderly filter place
    · have between := inFirst.follows follows orderly
      have restored := (inFirst.restored follows before).mpr orderly
      rw [exec, Orderly, between.panicking]
      cases (first.read filter place).panicking with
      | true =>
          rw [if_pos rfl]
          apply iff_of_true restored
          exact ⟨orderly, fun returned => Bool.noConfusion returned⟩
      | false =>
          rw [if_neg Bool.false_ne_true, inSecond.restored between restored]
          exact ⟨fun later => ⟨orderly, fun _ => later⟩,
            fun both => both.2 rfl⟩
    · apply iff_of_false
      · intro restored
        rw [exec] at restored
        apply orderly
        rw [← inFirst.restored follows before]
        split at restored
        · exact restored
        · exact restored_of_exec restored
      · exact fun both => orderly both.1

theorem catchUnwind (inBody : Behaves filter body) :
    Behaves filter (.catchUnwind body) := by
  constructor
  case follows =>
    intro base thread place follows orderly
    exact (inBody.follows follows orderly).setPanicking false
  case restored =>
    intro base thread place follows before
    exact inBody.restored follows before

theorem run (inBody : Behaves filter body) (hub : HubId) :
    Behaves filter (.run hub body) := by
  have entered : ∀ {base : HubId → ScopeStack} {thread : Thread}
      {place : Place}, Follows filter base thread place →
        Follows filter base { thread with slot := some hub }
          { place with current := hub } :=
    fun follows => follows.moveTo rfl
  constructor
  case follows =>
    intro base thread place follows orderly
    obtain ⟨inside, onlyCurrent, -⟩ := orderly
    have ran := inBody.follows (entered follows) inside
    rw [exec, read]
    apply Follows.leave
    split
    · rename_i panicking
      apply ran.moveTo
      rw [ran.panicking] at panicking
      rw [← onlyCurrent panicking]
      exact ran.current.trans (read_current ..)
    · exact ran.moveTo follows.current
  case restored =>
    intro base thread place follows before
    rw [exec, Thread.restored_leave, Thread.restored_run,
      inBody.restored (entered follows) before, Orderly]
    apply and_congr_right
    intro orderly
    exact follows.leaves_run (inBody.follows (entered follows) orderly)
      (read_current ..)

theorem withScope (inBody : Behaves filter body) (on : Option HubId)
    (scopeFn : Scope → Scope × Bool) :
    Behaves filter (.withScope on scopeFn body) := by
  constructor
  case follows =>
    intro base thread place follows orderly
    have target := follows.target on
    rw [read]
    split
    · rename_i poisoned
      rw [exec_withScope_of_poisoned
        (by rw [target, follows.poisoned, poisoned])]
      exact (follows.setPanicking true).leave _ _
    rename_i healthy
    rw [Bool.not_eq_true] at healthy
    split
    · rename_i panics
      rw [exec_withScope_of_panics (by rw [target, follows.poisoned, healthy])
        (by rw [target, follows.top, panics]), target]
      exact (follows.panicInside _).leave _ _
    rename_i calm
    rw [Bool.not_eq_true] at calm
    obtain ⟨inside, returned, unharmed⟩ := orderly healthy calm
    have ran := inBody.follows (follows.push (place.target on) fun scope =>
      (scopeFn scope).1) inside
    rw [exec_withScope_of_calm (by rw [target, follows.poisoned, healthy])
      (by rw [target, follows.top, calm]), target]
    dsimp only
    rw [ran.panicking, returned, if_neg Bool.false_ne_true]
    exact (ran.pop unharmed).leave _ _
  case restored =>
    intro base thread place follows before
    have target := follows.target on
    cases health : place.poisoned (place.target on) with
    | true =>
        rw [exec_withScope_of_poisoned
          (by rw [target, follows.poisoned, health]), Thread.restored_leave]
        apply iff_of_true ⟨before, rfl, rfl⟩
        intro healthy
        rw [health] at healthy
        cases healthy
    | false =>
    cases panics : (scopeFn (place.tops (place.target on))).2 with
    | true =>
        rw [exec_withScope_of_panics
          (by rw [target, follows.poisoned, health])
          (by rw [target, follows.top, panics]), Thread.restored_leave]
        apply iff_of_true ⟨before, rfl, rfl⟩
        intro healthy calm
        rw [panics] at calm
        cases calm
    | false =>
        have pushed := follows.push (place.target on) fun scope =>
          (scopeFn scope).1
        have unfolded : (ThreadProgram.withScope on scopeFn body).Orderly
            filter place ↔ _ :=
          ⟨fun orderly => orderly health panics, fun all _ _ => all⟩
        rw [exec_withScope_of_calm
          (by rw [target, follows.poisoned, health])
          (by rw [target, follows.top, panics]), target,
          Thread.restored_leave, unfolded, Thread.restored_withScope,
          inBody.restored pushed before]
        apply and_congr_right
        intro orderly
        exact follows.leaves_withScope (inBody.follows pushed orderly)
          (read_current ..)

theorem pushScope (inBody : Behaves filter body) (on : Option HubId) :
    Behaves filter (.pushScope on body) := by
  constructor
  case follows =>
    intro base thread place follows orderly
    have target := follows.target on
    obtain ⟨inside, unharmed⟩ := orderly
    rw [read]
    cases health : place.poisoned (place.target on) with
    | true =>
        obtain ⟨still, same⟩ := read_of_poisoned filter body health
        have ran := inBody.follows follows inside
        rw [exec_pushScope_of_poisoned
          (by rw [target, follows.poisoned, health]), target, ← same,
          Place.setTop_top, Thread.popScope, Thread.unlessPoisoned,
          ran.poisoned, if_pos still]
        exact ran.leave _ _
    | false =>
        have pushed := follows.push (place.target on) id
        rw [id, Place.setTop_top] at pushed
        have ran := inBody.follows pushed inside
        rw [exec_pushScope_of_healthy
          (by rw [target, follows.poisoned, health]), target]
        exact (ran.pop (unharmed health)).leave _ _
  case restored =>
    intro base thread place follows before
    have target := follows.target on
    rw [Orderly]
    cases health : place.poisoned (place.target on) with
    | true =>
        rw [exec_pushScope_of_poisoned
          (by rw [target, follows.poisoned, health]), target,
          Thread.restored_leave, Thread.restored_popScope,
          inBody.restored follows before]
        apply and_congr_right
        intro orderly
        have ran := inBody.follows follows orderly
        obtain ⟨still, same⟩ := read_of_poisoned filter body health
        apply iff_of_true _ (fun healthy => Bool.noConfusion healthy)
        rw [Thread.popScope, Thread.unlessPoisoned, ran.poisoned,
          if_pos still, ran.stack, same, follows.stack, ran.current,
          read_current, follows.current]
        exact ⟨rfl, rfl⟩
    | false =>
        have pushed := follows.push (place.target on) id
        rw [id, Place.setTop_top] at pushed
        rw [exec_pushScope_of_healthy
          (by rw [target, follows.poisoned, health]), target,
          Thread.restored_leave, Thread.restored_popScope,
          inBody.restored pushed before]
        apply and_congr_right
        intro orderly
        rw [follows.leaves_pushScope (inBody.follows pushed orderly)
          (read_current ..)]
        exact ⟨fun unharmed _ => unharmed, fun unharmed => unharmed rfl⟩

end Behaves

theorem behaves (filter : Filter) (program : ThreadProgram) :
    Behaves filter program := by
  induction program with
  | skip =>
      exact ⟨fun follows _ => follows,
        fun _ before => iff_of_true before trivial⟩
  | configureScope on configure => exact .configureScope on configure
  | addBreadcrumb on turn breadcrumb =>
      exact .addBreadcrumb on turn breadcrumb
  | captureEvent on event => exact .captureEvent on event
  | panic =>
      exact ⟨fun follows _ => follows.setPanicking true,
        fun _ before => iff_of_true before trivial⟩
  | seq first second inFirst inSecond => exact inFirst.seq inSecond
  | catchUnwind body inBody => exact inBody.catchUnwind
  | run hub body inBody => exact inBody.run hub
  | withScope on scopeFn body inBody => exact inBody.withScope on scopeFn
  | pushScope on body inBody => exact inBody.pushScope on

/-- Every block a program leaves restores the context it was entered with if
and only if the program is orderly. -/
theorem contexts_restored_iff (program : ThreadProgram) (slot : Option HubId)
    (world : World) (poisoned : HubId → Bool) :
    (program.exec { slot, world, poisoned }).Restored ↔
      program.Orderly world.filter
        { current := World.current slot
          tops := fun hub => (world.hubs hub).scopes.top
          poisoned } := by
  have follows : Follows world.filter (fun hub => (world.hubs hub).scopes)
      { slot, world, poisoned }
      { current := World.current slot
        tops := fun hub => (world.hubs hub).scopes.top
        poisoned } := by
    constructor
    case current => rfl
    case stack => exact fun hub => ((world.hubs hub).scopes.withTop_top).symm
    case poisoned => rfl
    case panicking => rfl
    case filter => rfl
  exact (behaves world.filter program).restored follows
    fun exit member => nomatch member

end

/-- A caught panic leaves the scope of a `with_scope` on the stack, and the hub
of a `run` current. -/
theorem caught_panic_leaks :
    letI := asciiTables
    ¬ ((catchUnwind (withScope none (fun scope => (scope, false)) panic)).exec
        { slot := none, world := World.initial }).Restored ∧
      ¬ ((catchUnwind (run 1 panic)).exec
        { slot := none, world := World.initial }).Restored := by
  constructor
  · intro restored
    have same := restored _ (.head _)
    have depths := congrArg
      (fun context => context.stack.scopes.length) same
    exact absurd depths (by decide)
  · intro restored
    have same := restored _ (.head _)
    have hubs := congrArg Context.current same
    exact absurd hubs (by decide)

end ThreadProgram

end Allstak
