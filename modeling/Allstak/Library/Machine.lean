import Mathlib.Logic.Basic

/-!
# Labelled machines

A machine has start states and a partial next-state function.  A label names
the step together with every choice the environment makes in it, so that a
list of labels determines a run.  `Reach` collects the states of the runs all
of whose steps are admitted by a condition on the state before the step and
its label; invariants of runs are proved by the rules below.
-/

namespace Library

/-- Start states and a partial next-state function. -/
structure Machine (State Label : Type*) where
  start : State → Prop
  next : State → Label → Option State

namespace Machine

variable {State Label : Type*}

/-- The state after a list of labels, when every step is enabled and passes the
test. -/
def execWhere (machine : Machine State Label) (test : State → Label → Bool) :
    State → List Label → Option State
  | state, [] => some state
  | state, label :: labels =>
      if test state label then
        (machine.next state label).bind fun after =>
          machine.execWhere test after labels
      else none

abbrev exec (machine : Machine State Label) : State → List Label → Option State :=
  machine.execWhere fun _ _ => true

/-- States reached by runs all of whose steps are admitted. -/
inductive Reach (machine : Machine State Label)
    (allowed : State → Label → Prop) : State → Prop where
  | start {state : State} : machine.start state → Reach machine allowed state
  | step {before after : State} {label : Label} :
      Reach machine allowed before →
      allowed before label →
      machine.next before label = some after →
      Reach machine allowed after

/-- States reached by any run. -/
abbrev Reachable (machine : Machine State Label) : State → Prop :=
  machine.Reach fun _ _ => True

variable {machine : Machine State Label} {allowed : State → Label → Prop}

theorem Reach.mono {weaker : State → Label → Prop} {state : State}
    (reached : machine.Reach allowed state)
    (weaken : ∀ before label, allowed before label → weaker before label) :
    machine.Reach weaker state := by
  induction reached with
  | start started => exact .start started
  | step _ admitted moved induction =>
      exact .step induction (weaken _ _ admitted) moved

theorem Reach.reachable {state : State}
    (reached : machine.Reach allowed state) : machine.Reachable state :=
  reached.mono fun _ _ _ => trivial

/-- What holds at the start and is kept by every admitted step holds in every
state reached.  The step may use an invariant proved before. -/
theorem Reach.invariant {known motive : State → Prop}
    (knownHolds : ∀ state, machine.Reach allowed state → known state)
    (initial : ∀ state, machine.start state → motive state)
    (preserved : ∀ before label after, known before → motive before →
      allowed before label → machine.next before label = some after →
      motive after)
    {state : State} (reached : machine.Reach allowed state) : motive state := by
  induction reached with
  | start started => exact initial _ started
  | step earlier admitted moved induction =>
      exact preserved _ _ _ (knownHolds _ earlier) induction admitted moved

/-- The invariant rule for a property that needs no other. -/
theorem Reach.induct {motive : State → Prop}
    (initial : ∀ state, machine.start state → motive state)
    (preserved : ∀ before label after, motive before → allowed before label →
      machine.next before label = some after → motive after)
    {state : State} (reached : machine.Reach allowed state) : motive state :=
  reached.invariant (fun _ _ => trivial) initial
    fun before label after (_ : True) held admitted moved =>
      preserved before label after held admitted moved

/-- A machine each of whose steps another one answers with a step of its own, or
with none, stays related to it. -/
theorem Reach.simulated {State' Label' : Type*} {other : Machine State' Label'}
    {related : State → State' → Prop}
    (initial : ∀ state, machine.start state →
      ∃ state', other.start state' ∧ related state state')
    (answered : ∀ before label after before', related before before' →
      machine.next before label = some after →
      ∃ after', (after' = before' ∨
        ∃ label', other.next before' label' = some after') ∧
          related after after')
    {state : State} (reached : machine.Reach allowed state) :
    ∃ state', other.Reachable state' ∧ related state state' := by
  induction reached with
  | start started =>
      obtain ⟨state', started', same⟩ := initial _ started
      exact ⟨state', .start started', same⟩
  | step _ _ moved induction =>
      obtain ⟨before', reached', same⟩ := induction
      obtain ⟨after', rfl | ⟨label', moved'⟩, kept⟩ :=
        answered _ _ _ _ same moved
      · exact ⟨after', reached', kept⟩
      · exact ⟨after', .step reached' trivial moved', kept⟩

/-- An execution whose steps pass a test for being admitted reaches its end. -/
theorem Reach.execWhere {test : State → Label → Bool}
    (sound : ∀ state label, test state label = true → allowed state label)
    {before after : State} {labels : List Label}
    (reached : machine.Reach allowed before)
    (run : machine.execWhere test before labels = some after) :
    machine.Reach allowed after := by
  induction labels generalizing before with
  | nil =>
      cases run
      exact reached
  | cons label labels induction =>
      rw [Machine.execWhere] at run
      split at run
      · rename_i passed
        obtain ⟨middle, moved, rest⟩ := Option.bind_eq_some_iff.mp run
        exact induction (.step reached (sound before label passed) moved) rest
      · cases run

/-- What every step keeps holds at the end of an execution. -/
theorem exec_induct {motive : State → Prop}
    (preserved : ∀ before label after, motive before →
      machine.next before label = some after → motive after)
    {before after : State} {labels : List Label} (holds : motive before)
    (run : machine.exec before labels = some after) : motive after := by
  induction labels generalizing before with
  | nil =>
      cases run
      exact holds
  | cons label labels induction =>
      obtain ⟨middle, moved, rest⟩ := Option.bind_eq_some_iff.mp run
      exact induction (preserved before label middle holds moved) rest

/-- Any execution from a start state reaches its end. -/
theorem reachable_of_exec {initial final : State} {labels : List Label}
    (started : machine.start initial)
    (run : machine.exec initial labels = some final) :
    machine.Reachable final :=
  (Reach.start started).execWhere (fun _ _ _ => trivial) run

/-- All states of an execution, from the first on. -/
def visits (machine : Machine State Label) : State → List Label → List State
  | state, [] => [state]
  | state, label :: labels =>
      state :: match machine.next state label with
        | some after => machine.visits after labels
        | none => []

/-- When the test says exactly which steps keep a property, it says exactly
which executions keep it throughout. -/
theorem visits_iff {test : State → Label → Bool} {known property : State → Prop}
    (knownKept : ∀ before label after, known before →
      machine.next before label = some after → known after)
    (exactly : ∀ before label after, known before → property before →
      machine.next before label = some after →
      (property after ↔ test before label = true))
    {before after : State} {labels : List Label} (knownBefore : known before)
    (holds : property before)
    (run : machine.exec before labels = some after) :
    (∀ state ∈ machine.visits before labels, property state) ↔
      (machine.execWhere test before labels).isSome := by
  induction labels generalizing before with
  | nil => simp [visits, Machine.execWhere, holds]
  | cons label labels induction =>
      obtain ⟨middle, moved, rest⟩ := Option.bind_eq_some_iff.mp run
      have step := exactly before label middle knownBefore holds moved
      have first : middle ∈ machine.visits middle labels := by
        cases labels <;> exact List.mem_cons_self
      rw [Machine.execWhere, visits, moved, List.forall_mem_cons]
      cases passed : test before label with
      | true =>
          have kept : property middle := step.mpr passed
          have later := induction (knownKept _ _ _ knownBefore moved) kept rest
          simp only [if_true, Option.bind_some, later, holds, true_and]
      | false =>
          have broken : ¬ property middle := by
            intro kept
            rw [step.mp kept] at passed
            cases passed
          simp only [Bool.false_eq_true, if_false, Option.isSome_none, iff_false]
          exact fun all => broken (all.2 middle first)

/-- The weights of the steps of an execution, added up. -/
def cost (machine : Machine State Label) (weight : State → Label → Nat) :
    State → List Label → Nat
  | _, [] => 0
  | state, label :: labels =>
      weight state label +
        match machine.next state label with
        | some after => machine.cost weight after labels
        | none => 0

/-- An execution costs nothing exactly when all its steps weigh nothing. -/
theorem cost_eq_zero_iff {weight : State → Label → Nat} {before after : State}
    {labels : List Label} (run : machine.exec before labels = some after) :
    machine.cost weight before labels = 0 ↔
      (machine.execWhere (fun state label => weight state label == 0) before
        labels).isSome := by
  induction labels generalizing before with
  | nil => simp [cost, Machine.execWhere]
  | cons label labels induction =>
      obtain ⟨middle, moved, rest⟩ := Option.bind_eq_some_iff.mp run
      have later := induction rest
      simp only [cost, Machine.execWhere, moved, Option.bind_some, beq_iff_eq]
      by_cases free : weight before label = 0
      · simp [free, later]
      · simp [free]

/-- A balance that every step keeps, once its weight is added, holds at the end
of an execution with the cost of the execution added. -/
theorem balance_of_exec {weight : State → Label → Nat}
    {balance : State → Nat → Prop}
    (kept : ∀ before label after spent, balance before spent →
      machine.next before label = some after →
      balance after (spent + weight before label))
    {before after : State} {labels : List Label} {spent : Nat}
    (balanced : balance before spent)
    (run : machine.exec before labels = some after) :
    balance after (spent + machine.cost weight before labels) := by
  induction labels generalizing before spent with
  | nil =>
      cases run
      exact balanced
  | cons label labels induction =>
      obtain ⟨middle, moved, rest⟩ := Option.bind_eq_some_iff.mp run
      have later := induction (kept _ _ _ _ balanced moved) rest
      rw [cost, moved, ← Nat.add_assoc]
      exact later

end Machine

end Library
