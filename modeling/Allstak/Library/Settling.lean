import Allstak.Library.Machine

/-!
# Machines that settle

A test says which steps of a machine are its own, made without a call from
outside.  When every own step lowers a measure, an execution of own steps is
bounded by the measure; when moreover an own step is possible wherever the
machine is not at rest, every such execution can be continued to rest.
-/

namespace Library

namespace Machine

variable {State Label : Type*}

/-- Some own step of the machine is possible. -/
def Stirs (machine : Machine State Label) (own : State → Label → Bool)
    (state : State) : Prop :=
  ∃ label, own state label = true ∧ (machine.next state label).isSome

/-- On the states known to occur, the own steps lower the measure. -/
structure Ranked (machine : Machine State Label) (own : State → Label → Bool)
    (known : State → Prop) (measure : State → Nat) : Prop where
  kept : ∀ before label after, known before → own before label = true →
    machine.next before label = some after → known after
  lowered : ∀ before label after, known before → own before label = true →
    machine.next before label = some after → measure after < measure before

variable {machine : Machine State Label} {own : State → Label → Bool}
  {known rest : State → Prop} {measure : State → Nat}

theorem Ranked.known_of_exec (ranked : machine.Ranked own known measure)
    {before after : State} {labels : List Label} (knownBefore : known before)
    (run : machine.execWhere own before labels = some after) : known after := by
  induction labels generalizing before with
  | nil =>
      cases run
      exact knownBefore
  | cons label labels induction =>
      rw [Machine.execWhere] at run
      split at run
      · rename_i owned
        obtain ⟨middle, moved, later⟩ := Option.bind_eq_some_iff.mp run
        exact induction (ranked.kept _ _ _ knownBefore owned moved) later
      · cases run

/-- The measure pays for every own step of an execution. -/
theorem Ranked.length_le (ranked : machine.Ranked own known measure)
    {before after : State} {labels : List Label} (knownBefore : known before)
    (run : machine.execWhere own before labels = some after) :
    labels.length + measure after ≤ measure before := by
  induction labels generalizing before with
  | nil =>
      cases run
      simp
  | cons label labels induction =>
      rw [Machine.execWhere] at run
      split at run
      · rename_i owned
        obtain ⟨middle, moved, later⟩ := Option.bind_eq_some_iff.mp run
        have lower := ranked.lowered _ _ _ knownBefore owned moved
        have knownMiddle := ranked.kept _ _ _ knownBefore owned moved
        have remaining := induction knownMiddle later
        rw [List.length_cons]
        omega
      · cases run

/-- A machine that stirs wherever it is not at rest can be run to rest. -/
theorem Ranked.exec_to_rest (ranked : machine.Ranked own known measure)
    (stirring : ∀ state, known state → ¬ rest state → machine.Stirs own state)
    {state : State} (knownState : known state) :
    ∃ labels after, machine.execWhere own state labels = some after ∧
      rest after := by
  generalize bound : measure state = rank
  induction rank using Nat.strongRecOn generalizing state with
  | ind rank induction =>
      by_cases resting : rest state
      · exact ⟨[], state, rfl, resting⟩
      · obtain ⟨label, owned, possible⟩ := stirring state knownState resting
        obtain ⟨middle, moved⟩ := Option.isSome_iff_exists.mp possible
        have less := ranked.lowered _ _ _ knownState owned moved
        obtain ⟨labels, after, run, rests⟩ :=
          induction (measure middle) (bound ▸ less)
            (ranked.kept _ _ _ knownState owned moved) rfl
        refine ⟨label :: labels, after, ?_, rests⟩
        rw [Machine.execWhere, if_pos owned, moved]
        exact run

end Machine

end Library
