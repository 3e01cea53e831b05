import Allstak.Library.Machine
import Mathlib.Data.List.Basic

/-!
# Code under a readers-writer lock

Code is a tree of sections of one lock, with panics, the hooks they run and
the places that catch them.  Run without interference, a tree makes a list of
lock actions.  Threads interleave on their actions, and a thread conflicts with
itself when it asks for the lock in a mode that what it holds itself excludes.
Whether that can happen is decided by the trees alone.
-/

namespace Library

namespace Lock

inductive Mode where
  | read
  | write
  deriving DecidableEq

/-- Two guards of one lock that cannot exist together. -/
def Mode.conflicts : Mode → Mode → Bool
  | .read, .read => false
  | _, _ => true

/-- `abandon` is the release of a guard by a panic that unwinds past it. -/
inductive Action where
  | acquire (mode : Mode)
  | release
  | abandon
  deriving DecidableEq

inductive Code where
  | done
  /-- Take the lock, run code under it, release it, go on. -/
  | locked (mode : Mode) (inside rest : Code)
  /-- Run code; whether it returns or unwinds, take and release the lock. -/
  | guarded (mode : Mode) (body rest : Code)
  /-- The hook runs before unwinding starts, and must not panic itself. -/
  | panic (hook : Code)
  | catching (body rest : Code)

inductive Outcome where
  | returned
  | unwound
  | aborted
  deriving DecidableEq

/-- What follows code that returned decides. -/
def Outcome.next : Outcome → Outcome → Outcome
  | .returned, later => later
  | other, _ => other

/-- What has to hold after code that returned, and after code that unwound. -/
def Outcome.requires (outcome : Outcome) (returned unwound : Bool) : Bool :=
  match outcome with
  | .returned => returned
  | .unwound => unwound
  | .aborted => true

@[simp] theorem Outcome.returned_next (later : Outcome) :
    Outcome.returned.next later = later := rfl

@[simp] theorem Outcome.next_returned (outcome : Outcome) :
    outcome.next .returned = outcome := by
  cases outcome <;> rfl

@[simp] theorem Outcome.requires_returned (returned unwound : Bool) :
    Outcome.returned.requires returned unwound = returned := rfl

@[simp] theorem Outcome.requires_true (outcome : Outcome) :
    outcome.requires true true = true := by
  cases outcome <;> rfl

/-- The strongest mode among guards that a thread holds together. -/
def strongest : List Mode → Option Mode
  | [] => none
  | .write :: _ => some .write
  | .read :: held => some ((strongest held).getD .read)

/-- Whether the lock can be asked for next to the strongest mode held. -/
def permits : Option Mode → Mode → Bool
  | none, _ => true
  | some held, mode => !mode.conflicts held

namespace Code

def andThen : Code → Code → Code
  | done, later => later
  | locked mode inside rest, later => locked mode inside (rest.andThen later)
  | guarded mode body rest, later => guarded mode body (rest.andThen later)
  | panic hook, _ => panic hook
  | catching body rest, later => catching body (rest.andThen later)

/-- A panic while a hook runs aborts the process. -/
def outcome (hooking : Bool) : Code → Outcome
  | done => .returned
  | locked _ inside rest => (inside.outcome hooking).next (rest.outcome hooking)
  | guarded _ body rest => (body.outcome hooking).next (rest.outcome hooking)
  | panic hook =>
      if hooking then .aborted else (hook.outcome true).next .unwound
  | catching body rest =>
      match body.outcome hooking with
      | .aborted => .aborted
      | _ => rest.outcome hooking

def actions (hooking : Bool) : Code → List Action
  | done => []
  | locked mode inside rest =>
      .acquire mode :: (inside.actions hooking ++
        match inside.outcome hooking with
        | .returned => .release :: rest.actions hooking
        | .unwound => [.abandon]
        | .aborted => [])
  | guarded mode body rest =>
      body.actions hooking ++
        match body.outcome hooking with
        | .returned => .acquire mode :: .release :: rest.actions hooking
        | .unwound => [.acquire mode, .release]
        | .aborted => []
  | panic hook => if hooking then [] else hook.actions true
  | catching body rest =>
      body.actions hooking ++
        match body.outcome hooking with
        | .aborted => []
        | _ => rest.actions hooking

/-- No section is entered inside one that excludes it, and no panic unwinds out
of a write section. -/
def disciplined (hooking : Bool) (held : Option Mode) : Code → Bool
  | done => true
  | locked mode inside rest =>
      permits held mode && inside.disciplined hooking (some mode) &&
        (inside.outcome hooking).requires (rest.disciplined hooking held)
          (decide (mode = .read))
  | guarded mode body rest =>
      body.disciplined hooking held &&
        (body.outcome hooking).requires
          (permits held mode && rest.disciplined hooking held)
          (permits held mode)
  | panic hook => hooking || hook.disciplined true held
  | catching body rest =>
      body.disciplined hooking held &&
        (body.outcome hooking).requires (rest.disciplined hooking held)
          (rest.disciplined hooking held)

@[simp] theorem outcome_andThen (hooking : Bool) (code later : Code) :
    (code.andThen later).outcome hooking =
      (code.outcome hooking).next (later.outcome hooking) := by
  induction code with
  | done => rfl
  | locked mode inside rest _ induction =>
      simp only [andThen, outcome, induction]
      cases inside.outcome hooking <;> rfl
  | guarded mode body rest _ induction =>
      simp only [andThen, outcome, induction]
      cases body.outcome hooking <;> rfl
  | panic hook =>
      simp only [andThen, outcome]
      cases hooking with
      | true => rfl
      | false => cases hook.outcome true <;> rfl
  | catching body rest _ induction =>
      simp only [andThen, outcome, induction]
      cases body.outcome hooking <;> rfl

@[simp] theorem disciplined_andThen (hooking : Bool) (held : Option Mode)
    (code later : Code) :
    (code.andThen later).disciplined hooking held =
      (code.disciplined hooking held &&
        (code.outcome hooking).requires (later.disciplined hooking held) true) := by
  induction code with
  | done => simp [andThen, disciplined, outcome, Outcome.requires]
  | locked mode inside rest _ induction =>
      simp only [andThen, disciplined, outcome, induction]
      cases inside.outcome hooking <;>
        simp [Outcome.requires, Outcome.next, Bool.and_assoc]
  | guarded mode body rest _ induction =>
      simp only [andThen, disciplined, outcome, induction]
      cases body.outcome hooking <;>
        simp [Outcome.requires, Outcome.next, Bool.and_assoc]
  | panic hook =>
      simp only [andThen, disciplined, outcome]
      cases hooking with
      | true => simp [Outcome.requires]
      | false => cases hook.outcome true <;> simp [Outcome.requires, Outcome.next]
  | catching body rest _ induction =>
      simp only [andThen, disciplined, outcome, induction]
      cases body.outcome hooking <;> simp [Outcome.requires, Bool.and_assoc]

/-- A hook never unwinds: a panic in it aborts. -/
theorem outcome_hooking (code : Code) : code.outcome true ≠ .unwound := by
  induction code with
  | done => exact nofun
  | locked mode inside rest insideInduction restInduction =>
      rw [outcome]
      cases ended : inside.outcome true with
      | returned => exact restInduction
      | unwound => exact (insideInduction ended).elim
      | aborted => exact nofun
  | guarded mode body rest bodyInduction restInduction =>
      rw [outcome]
      cases ended : body.outcome true with
      | returned => exact restInduction
      | unwound => exact (bodyInduction ended).elim
      | aborted => exact nofun
  | panic hook => exact nofun
  | catching body rest _ restInduction =>
      rw [outcome]
      cases body.outcome true with
      | returned | unwound => exact restInduction
      | aborted => exact nofun

end Code

inductive Fault where
  | conflict
  | poison
  deriving DecidableEq

/-- The guards held after a list of actions, newest first, or the first fault:
a request that conflicts with what is held, or a write guard abandoned. -/
def follow : List Mode → List Action → Except Fault (List Mode)
  | held, [] => .ok held
  | held, .acquire mode :: later =>
      if held.any mode.conflicts then .error .conflict
      else follow (mode :: held) later
  | held, .release :: later => follow held.tail later
  | held, .abandon :: later =>
      if held.head? = some .write then .error .poison else follow held.tail later

theorem follow_append (held : List Mode) (before after : List Action) :
    follow held (before ++ after) =
      (follow held before).bind fun left => follow left after := by
  induction before generalizing held with
  | nil => rfl
  | cons action before induction =>
      cases action with
      | acquire mode | abandon =>
          rw [List.cons_append, follow, follow]
          split
          · rfl
          · exact induction _
      | release => exact induction _

theorem any_conflicts (held : List Mode) (mode : Mode) :
    held.any mode.conflicts = !permits (strongest held) mode := by
  induction held with
  | nil => rfl
  | cons head held induction =>
      rw [List.any_cons, induction]
      cases head with
      | write => cases mode <;> rfl
      | read =>
          rw [strongest]
          cases strongest held with
          | none => cases mode <;> rfl
          | some other => cases mode <;> cases other <;> rfl

theorem strongest_cons {held : List Mode} {mode : Mode}
    (allowed : permits (strongest held) mode = true) :
    strongest (mode :: held) = some mode := by
  cases mode with
  | write => rfl
  | read =>
      rw [strongest]
      cases found : strongest held with
      | none => rfl
      | some other =>
          cases other with
          | read => rfl
          | write => rw [found] at allowed; cases allowed

/-- The result of following code that began with some guards held: the code is
disciplined when there is no fault, and then gives back what it took. -/
def Followed (held : List Mode) (disciplined : Bool) (outcome : Outcome)
    (result : Except Fault (List Mode)) : Prop :=
  match result with
  | .ok left => disciplined = true ∧ (outcome ≠ .aborted → left = held)
  | .error _ => disciplined = false

/-- Code goes on after code that was followed, and does not when that aborted. -/
theorem Followed.append {under held : List Mode} {kept laterKept : Bool}
    {ended outcome : Outcome} {before later : List Action}
    (followed : Followed under kept ended (follow under before))
    (resumed : ended ≠ .aborted →
      Followed held laterKept outcome (follow under later))
    (aborted : ended = .aborted →
      later = [] ∧ laterKept = true ∧ outcome = .aborted) :
    Followed held (kept && laterKept) outcome (follow under (before ++ later)) := by
  rw [follow_append]
  cases reached : follow under before with
  | error fault =>
      rw [reached] at followed
      have broken : kept = false := followed
      rw [broken]
      exact rfl
  | ok left =>
      rw [reached] at followed
      obtain ⟨rfl, balanced⟩ := followed
      rw [Bool.true_and]
      by_cases stopped : ended = .aborted
      · obtain ⟨rfl, rfl, rfl⟩ := aborted stopped
        exact ⟨rfl, fun different => (different rfl).elim⟩
      · rw [balanced stopped]
        exact resumed stopped

theorem followed_actions (code : Code) (hooking : Bool) (held : List Mode) :
    Followed held (code.disciplined hooking (strongest held))
      (code.outcome hooking) (follow held (code.actions hooking)) := by
  induction code generalizing hooking held with
  | done => exact ⟨rfl, fun _ => rfl⟩
  | locked mode inside rest insideInduction restInduction =>
      rw [Code.actions, follow, any_conflicts, Code.disciplined, Code.outcome]
      cases allowed : permits (strongest held) mode with
      | false => exact rfl
      | true =>
          have under := insideInduction hooking (mode :: held)
          rw [strongest_cons allowed] at under
          rw [Bool.not_true, if_neg (by simp), Bool.true_and]
          apply under.append
          · intro running
            cases ended : inside.outcome hooking with
            | returned => exact restInduction hooking held
            | unwound =>
                cases mode <;>
                  simp [Outcome.requires, Outcome.next, follow, Followed]
            | aborted => exact (running ended).elim
          · intro ended
            rw [ended]
            exact ⟨rfl, rfl, rfl⟩
  | guarded mode body rest bodyInduction restInduction =>
      rw [Code.actions, Code.disciplined, Code.outcome]
      apply (bodyInduction hooking held).append
      · intro running
        cases ended : body.outcome hooking with
        | returned =>
            cases allowed : permits (strongest held) mode with
            | false =>
                simp [allowed, Outcome.requires, follow, any_conflicts, Followed]
            | true =>
                simpa [allowed, Outcome.requires, Outcome.next, follow,
                  any_conflicts] using restInduction hooking held
        | unwound =>
            cases allowed : permits (strongest held) mode with
            | false =>
                simp [allowed, Outcome.requires, follow, any_conflicts, Followed]
            | true =>
                simp [allowed, Outcome.requires, Outcome.next, follow,
                  any_conflicts, Followed]
        | aborted => exact (running ended).elim
      · intro ended
        rw [ended]
        exact ⟨rfl, rfl, rfl⟩
  | panic hook induction =>
      rw [Code.actions, Code.disciplined, Code.outcome]
      cases hooking with
      | true => exact ⟨rfl, fun different => (different rfl).elim⟩
      | false =>
          have hooked := induction true held
          cases ended : hook.outcome true with
          | returned => simpa [ended, Outcome.next, Followed] using hooked
          | unwound => exact (hook.outcome_hooking ended).elim
          | aborted => simpa [ended, Outcome.next, Followed] using hooked
  | catching body rest bodyInduction restInduction =>
      rw [Code.actions, Code.disciplined, Code.outcome]
      apply (bodyInduction hooking held).append
      · intro running
        cases ended : body.outcome hooking with
        | returned | unwound => exact restInduction hooking held
        | aborted => exact (running ended).elim
      · intro ended
        rw [ended]
        exact ⟨rfl, rfl, rfl⟩

namespace Code

/-- On its way to the end the code asks for the lock in write mode. -/
def requestsWrite : Code → Bool
  | done => false
  | locked mode _ rest => decide (mode = .write) || rest.requestsWrite
  | guarded mode _ rest => decide (mode = .write) || rest.requestsWrite
  | panic _ => true
  | catching _ rest => rest.requestsWrite

/-- Every hook in the code asks for writing. -/
def hooksRequestWrite : Code → Bool
  | done => true
  | locked _ inside rest => inside.hooksRequestWrite && rest.hooksRequestWrite
  | guarded _ body rest => body.hooksRequestWrite && rest.hooksRequestWrite
  | panic hook => hook.requestsWrite && hook.hooksRequestWrite
  | catching body rest => body.hooksRequestWrite && rest.hooksRequestWrite

theorem requestsWrite_andThen (code : Code) {later : Code}
    (requests : later.requestsWrite = true) :
    (code.andThen later).requestsWrite = true := by
  induction code with
  | done => exact requests
  | locked mode inside rest _ induction | guarded mode body rest _ induction =>
      simp [andThen, requestsWrite, induction]
  | panic hook => rfl
  | catching body rest _ induction => exact induction

theorem hooksRequestWrite_andThen {code later : Code}
    (hooks : code.hooksRequestWrite = true)
    (laterHooks : later.hooksRequestWrite = true) :
    (code.andThen later).hooksRequestWrite = true := by
  induction code with
  | done => exact laterHooks
  | locked mode inside rest _ induction | guarded mode inside rest _ induction
  | catching inside rest _ induction =>
      rw [hooksRequestWrite, Bool.and_eq_true] at hooks
      simp [andThen, hooksRequestWrite, hooks.1, induction hooks.2]
  | panic hook => exact hooks

/-- Next to a guard, disciplined code that asks for writing does not get to its
end. -/
theorem outcome_of_requestsWrite {code : Code} {hooking : Bool} {held : Mode}
    (requests : code.requestsWrite = true)
    (kept : code.disciplined hooking (some held) = true) :
    code.outcome hooking ≠ .returned := by
  induction code with
  | done => cases requests
  | locked mode inside rest _ restInduction =>
      rw [disciplined, Bool.and_eq_true, Bool.and_eq_true] at kept
      obtain ⟨⟨allowed, _⟩, later⟩ := kept
      rw [requestsWrite, Bool.or_eq_true] at requests
      rw [outcome]
      cases ended : inside.outcome hooking with
      | returned =>
          rw [ended] at later
          rcases requests with writes | restRequests
          · obtain rfl : mode = .write := by simpa using writes
            cases held <;> cases allowed
          · exact restInduction restRequests later
      | unwound | aborted => exact nofun
  | guarded mode body rest _ restInduction =>
      rw [disciplined, Bool.and_eq_true] at kept
      rw [requestsWrite, Bool.or_eq_true] at requests
      rw [outcome]
      cases ended : body.outcome hooking with
      | returned =>
          rw [ended] at kept
          obtain ⟨_, later⟩ := kept
          rw [Outcome.requires, Bool.and_eq_true] at later
          rcases requests with writes | restRequests
          · obtain rfl : mode = .write := by simpa using writes
            cases held <;> cases later.1
          · exact restInduction restRequests later.2
      | unwound | aborted => exact nofun
  | panic hook =>
      rw [outcome]
      cases hooking with
      | true => exact nofun
      | false => cases hook.outcome true <;> exact nofun
  | catching body rest _ restInduction =>
      rw [disciplined, Bool.and_eq_true] at kept
      rw [outcome]
      cases ended : body.outcome hooking with
      | returned | unwound =>
          rw [ended] at kept
          exact restInduction requests kept.2
      | aborted => exact nofun

/-- Next to a guard, disciplined code whose hooks ask for writing does not
unwind. -/
theorem outcome_of_hooksRequestWrite {code : Code} {hooking : Bool} {held : Mode}
    (hooks : code.hooksRequestWrite = true)
    (kept : code.disciplined hooking (some held) = true) :
    code.outcome hooking ≠ .unwound := by
  induction code generalizing hooking held with
  | done => exact nofun
  | locked mode inside rest insideInduction restInduction =>
      rw [hooksRequestWrite, Bool.and_eq_true] at hooks
      rw [disciplined, Bool.and_eq_true, Bool.and_eq_true] at kept
      obtain ⟨⟨_, under⟩, later⟩ := kept
      rw [outcome]
      cases ended : inside.outcome hooking with
      | returned =>
          rw [ended] at later
          exact restInduction hooks.2 later
      | unwound => exact (insideInduction hooks.1 under ended).elim
      | aborted => exact nofun
  | guarded mode body rest bodyInduction restInduction =>
      rw [hooksRequestWrite, Bool.and_eq_true] at hooks
      rw [disciplined, Bool.and_eq_true] at kept
      obtain ⟨under, later⟩ := kept
      rw [outcome]
      cases ended : body.outcome hooking with
      | returned =>
          rw [ended, Outcome.requires, Bool.and_eq_true] at later
          exact restInduction hooks.2 later.2
      | unwound => exact (bodyInduction hooks.1 under ended).elim
      | aborted => exact nofun
  | panic hook _ =>
      rw [hooksRequestWrite, Bool.and_eq_true] at hooks
      rw [outcome]
      cases hooking with
      | true => exact nofun
      | false =>
          have stuck := outcome_of_requestsWrite hooks.1 kept
          cases ended : hook.outcome true with
          | returned => exact (stuck ended).elim
          | unwound => exact (hook.outcome_hooking ended).elim
          | aborted => exact nofun
  | catching body rest _ restInduction =>
      rw [hooksRequestWrite, Bool.and_eq_true] at hooks
      rw [disciplined, Bool.and_eq_true] at kept
      rw [outcome]
      cases ended : body.outcome hooking with
      | returned | unwound =>
          rw [ended] at kept
          exact restInduction hooks.2 kept.2
      | aborted => exact nofun

end Code

/-- Code that goes on after code without poison does not poison before that. -/
theorem Followed.append_ne_poison {under : List Mode} {kept : Bool}
    {ended : Outcome} {before later : List Action}
    (followed : Followed under kept ended (follow under before))
    (sound : follow under before ≠ .error .poison)
    (resumed : kept = true → ended ≠ .aborted →
      follow under later ≠ .error .poison)
    (aborted : ended = .aborted → later = []) :
    follow under (before ++ later) ≠ .error .poison := by
  rw [follow_append]
  cases reached : follow under before with
  | error fault =>
      rw [reached] at sound
      exact sound
  | ok left =>
      rw [reached] at followed
      obtain ⟨kept, balanced⟩ := followed
      by_cases stopped : ended = .aborted
      · rw [aborted stopped]
        exact nofun
      · rw [balanced stopped]
        exact resumed kept stopped

/-- Code whose hooks ask for writing conflicts before it can poison. -/
theorem follow_actions_ne_poison {code : Code} (hooking : Bool)
    (held : List Mode) (hooks : code.hooksRequestWrite = true) :
    follow held (code.actions hooking) ≠ .error .poison := by
  induction code generalizing hooking held with
  | done => exact nofun
  | locked mode inside rest insideInduction restInduction =>
      rw [Code.hooksRequestWrite, Bool.and_eq_true] at hooks
      rw [Code.actions, follow]
      split
      · exact nofun
      · rename_i free
        have allowed : permits (strongest held) mode = true := by
          simpa [any_conflicts] using free
        have under := followed_actions inside hooking (mode :: held)
        rw [strongest_cons allowed] at under
        apply under.append_ne_poison (insideInduction hooking _ hooks.1)
        · intro kept running
          cases ended : inside.outcome hooking with
          | returned => exact restInduction hooking held hooks.2
          | unwound =>
              exact (Code.outcome_of_hooksRequestWrite hooks.1 kept ended).elim
          | aborted => exact (running ended).elim
        · intro ended
          rw [ended]
  | guarded mode body rest bodyInduction restInduction =>
      rw [Code.hooksRequestWrite, Bool.and_eq_true] at hooks
      rw [Code.actions]
      apply (followed_actions body hooking held).append_ne_poison
        (bodyInduction hooking held hooks.1)
      · intro _ running
        cases ended : body.outcome hooking with
        | returned =>
            simp only [follow, List.tail_cons]
            split
            · exact nofun
            · exact restInduction hooking held hooks.2
        | unwound =>
            simp only [follow]
            split <;> exact nofun
        | aborted => exact (running ended).elim
      · intro ended
        rw [ended]
  | panic hook induction =>
      rw [Code.hooksRequestWrite, Bool.and_eq_true] at hooks
      rw [Code.actions]
      split
      · exact nofun
      · exact induction true held hooks.2
  | catching body rest bodyInduction restInduction =>
      rw [Code.hooksRequestWrite, Bool.and_eq_true] at hooks
      rw [Code.actions]
      apply (followed_actions body hooking held).append_ne_poison
        (bodyInduction hooking held hooks.1)
      · intro _ running
        cases ended : body.outcome hooking with
        | returned | unwound => exact restInduction hooking held hooks.2
        | aborted => exact (running ended).elim
      · intro ended
        rw [ended]

structure Thread where
  held : List Mode
  todo : List Action

/-- The thread waits for the lock although what it holds excludes its request. -/
def Thread.selfConflict (thread : Thread) : Bool :=
  match thread.todo with
  | .acquire mode :: _ => thread.held.any mode.conflicts
  | _ => false

structure State where
  threads : List Thread
  poisoned : Bool

def State.selfConflict (state : State) : Bool :=
  state.threads.any Thread.selfConflict

/-- The fault has shown. -/
def State.shows (state : State) : Fault → Bool
  | .conflict => state.selfConflict
  | .poison => state.poisoned

/-- The next action of one thread.  A request is granted when no guard excludes
it.  What code does with a poisoned lock is not followed: nothing is granted
any more. -/
def step (state : State) (index : Nat) : Option State :=
  state.threads[index]?.bind fun thread =>
    match thread.todo with
    | [] => none
    | .acquire mode :: later =>
        if state.poisoned ||
            state.threads.any fun other => other.held.any mode.conflicts then none
        else
          some { state with
            threads := state.threads.set index
              { held := mode :: thread.held, todo := later } }
    | .release :: later =>
        some { state with
          threads := state.threads.set index
            { held := thread.held.tail, todo := later } }
    | .abandon :: later =>
        some
          { threads := state.threads.set index
              { held := thread.held.tail, todo := later }
            poisoned :=
              state.poisoned || decide (thread.held.head? = some .write) }

def Code.thread (code : Code) : Thread := { held := [], todo := code.actions false }

/-- Threads that hold nothing and have their code before them. -/
def machine (codes : List Code) : Machine State Nat where
  start state := state = { threads := codes.map Code.thread, poisoned := false }
  next := step

/-- Every thread can go on alone from where it is, and nothing is poisoned. -/
structure Clean (state : State) : Prop where
  sound : state.poisoned = false
  follows : ∀ thread ∈ state.threads,
    ∃ left, follow thread.held thread.todo = .ok left

theorem Clean.selfConflict {state : State} (clean : Clean state) :
    state.selfConflict = false := by
  apply List.any_eq_false.mpr
  intro thread member
  obtain ⟨left, followed⟩ := clean.follows thread member
  obtain ⟨held, todo⟩ := thread
  match todo with
  | [] => exact nofun
  | .release :: later => exact nofun
  | .abandon :: later => exact nofun
  | .acquire mode :: later =>
      dsimp only at followed
      rw [follow] at followed
      split at followed
      · cases followed
      · rename_i free
        exact free

/-- The thread that moved follows on, and the others did not change. -/
theorem Clean.step {state after : State} {index : Nat} (clean : Clean state)
    (moved : step state index = some after) : Clean after := by
  obtain ⟨thread, found, moved⟩ := Option.bind_eq_some_iff.mp moved
  obtain ⟨left, followed⟩ := clean.follows thread (List.mem_of_getElem? found)
  obtain ⟨held, todo⟩ := thread
  have others : ∀ moved : Thread,
      (∃ left, follow moved.held moved.todo = .ok left) →
      ∀ thread ∈ state.threads.set index moved,
        ∃ left, follow thread.held thread.todo = .ok left := by
    intro moved follows thread member
    rcases List.mem_or_eq_of_mem_set member with old | rfl
    · exact clean.follows thread old
    · exact follows
  match todo with
  | [] => cases moved
  | .acquire mode :: later =>
      dsimp only at moved followed
      rw [follow] at followed
      split at followed
      · cases followed
      · split at moved
        · cases moved
        · cases moved
          exact ⟨clean.sound, others _ ⟨left, followed⟩⟩
  | .release :: later =>
      cases moved
      exact ⟨clean.sound, others _ ⟨left, followed⟩⟩
  | .abandon :: later =>
      dsimp only at moved followed
      rw [follow] at followed
      split at followed
      · cases followed
      · rename_i reading
        cases moved
        refine ⟨?_, others _ ⟨left, followed⟩⟩
        simp [clean.sound, reading]

/-- Threads that run disciplined code never conflict with themselves and never
poison the lock. -/
theorem conflictFree_of_disciplined {codes : List Code} {state : State}
    (kept : ∀ code ∈ codes, code.disciplined false none = true)
    (reached : (machine codes).Reachable state) :
    state.selfConflict = false ∧ state.poisoned = false := by
  have clean : Clean state := by
    apply reached.induct
    · rintro state rfl
      refine ⟨rfl, ?_⟩
      intro thread member
      obtain ⟨code, listed, rfl⟩ := List.mem_map.mp member
      have followed := followed_actions code false []
      change ∃ left, follow [] (code.actions false) = .ok left
      cases result : follow [] (code.actions false) with
      | ok left => exact ⟨left, rfl⟩
      | error fault =>
          rw [result] at followed
          have broken : code.disciplined false none = false := followed
          rw [kept code listed] at broken
          cases broken
    · intro before index after clean _ moved
      exact clean.step moved
  exact ⟨clean.selfConflict, clean.sound⟩

/-- A request is granted when only its own thread holds guards and they permit
it. -/
theorem granted_of_alone {threads : List Thread} {index : Nat}
    {held : List Mode} {todo : List Action} {mode : Mode}
    (found : threads[index]? = some { held, todo })
    (alone : ∀ place other, place ≠ index →
      threads[place]? = some other → other.held = [])
    (free : held.any mode.conflicts = false) :
    (threads.any fun other => other.held.any mode.conflicts) = false := by
  apply List.any_eq_false.mpr
  intro other member
  obtain ⟨place, seen⟩ := List.mem_iff_getElem?.mp member
  by_cases own : place = index
  · subst own
    rw [found, Option.some.injEq] at seen
    subst seen
    simpa using free
  · rw [alone place other own seen]
    exact nofun

/-- A thread that runs into a fault alone does so in the run in which no other
thread moves. -/
theorem exists_fault {codes : List Code} {state : State} {index : Nat}
    {held : List Mode} {todo : List Action} {fault : Fault}
    (reached : (machine codes).Reachable state)
    (found : state.threads[index]? = some { held, todo })
    (alone : ∀ place other, place ≠ index →
      state.threads[place]? = some other → other.held = [])
    (sound : state.poisoned = false)
    (faulty : follow held todo = .error fault) :
    ∃ after, (machine codes).Reachable after ∧ after.shows fault = true := by
  induction todo generalizing state held with
  | nil => cases faulty
  | cons action later induction =>
      have present : index < state.threads.length :=
        (List.getElem?_eq_some_iff.mp found).1
      have goOn : ∀ (left : List Mode) (after : State),
          step state index = some after →
          after.threads = state.threads.set index { held := left, todo := later } →
          after.poisoned = false →
          follow left later = .error fault →
          ∃ after, (machine codes).Reachable after ∧
            after.shows fault = true := by
        intro left after moved threads stillSound stillFaulty
        apply induction (.step reached trivial moved) _ _ stillSound stillFaulty
        · rw [threads]
          exact List.getElem?_set_self present
        · intro place other apart seen
          rw [threads, List.getElem?_set_ne apart.symm] at seen
          exact alone place other apart seen
      cases action with
      | acquire mode =>
          rw [follow] at faulty
          split at faulty
          · rename_i conflict
            cases faulty
            refine ⟨state, reached, ?_⟩
            exact List.any_eq_true.mpr
              ⟨_, List.mem_of_getElem? found, conflict⟩
          · rename_i free
            have granted := granted_of_alone found alone (by simpa using free)
            have moved : step state index = some
                { state with
                  threads := state.threads.set index
                    { held := mode :: held, todo := later } } := by
              rw [step, found, Option.bind_some]
              dsimp only
              rw [sound, granted]
              rfl
            exact goOn (mode :: held) _ moved rfl sound faulty
      | release =>
          have moved : step state index = some
              { state with
                threads := state.threads.set index
                  { held := held.tail, todo := later } } := by
            simp [step, found]
          exact goOn held.tail _ moved rfl sound faulty
      | abandon =>
          rw [follow] at faulty
          split at faulty
          · rename_i writing
            cases faulty
            have moved : step state index = some
                { threads := state.threads.set index { held := held.tail, todo := later }
                  poisoned := true } := by
              simp [step, found, writing]
            exact ⟨_, .step reached trivial moved, rfl⟩
          · rename_i reading
            have moved : step state index = some
                { threads := state.threads.set index { held := held.tail, todo := later }
                  poisoned := false } := by
              simp [step, found, sound, reading]
            exact goOn held.tail _ moved rfl rfl faulty

/-- If no thread can come to conflict with itself, and all hooks ask for
writing, then every thread runs disciplined code. -/
theorem disciplined_of_conflictFree {codes : List Code}
    (hooks : ∀ code ∈ codes, code.hooksRequestWrite = true)
    (free : ∀ state, (machine codes).Reachable state →
      state.selfConflict = false) :
    ∀ code ∈ codes, code.disciplined false none = true := by
  intro code listed
  have followed := followed_actions code false []
  cases result : follow [] (code.actions false) with
  | ok left =>
      rw [result] at followed
      exact followed.1
  | error fault =>
      obtain ⟨index, found⟩ := List.mem_iff_getElem?.mp listed
      have started : (machine codes).Reachable
          { threads := codes.map Code.thread, poisoned := false } := .start rfl
      have atStart : (codes.map Code.thread)[index]? =
          some { held := [], todo := code.actions false } := by
        rw [List.getElem?_map, found]
        rfl
      have alone : ∀ place other, place ≠ index →
          (codes.map Code.thread)[place]? = some other → other.held = [] := by
        intro place other _ seen
        rw [List.getElem?_map] at seen
        obtain ⟨_, _, rfl⟩ := Option.map_eq_some_iff.mp seen
        rfl
      obtain ⟨after, reached, faulted⟩ :=
        exists_fault started atStart alone rfl result
      cases fault with
      | conflict =>
          rw [State.shows, free after reached] at faulted
          cases faulted
      | poison =>
          exact (follow_actions_ne_poison false [] (hooks code listed) result).elim

end Lock

end Library
