import Mathlib.Data.List.Basic

/-!
# Transducers

A transducer reads symbols one at a time and emits a word for each.  What it
emits for a text is followed through the state it is in: `Chained` words are
those every symbol of which may follow the one before it, and a rule below shows
that all output is chained, another that chained text is copied.
-/

namespace Library

/-- A next state and a word for each symbol read. -/
structure Transducer (State Input Output : Type*) where
  next : State → Input → State
  emit : State → Input → List Output

namespace Transducer

variable {State Input Output : Type*}
  (machine : Transducer State Input Output)

/-- The state after a text. -/
def after (state : State) (text : List Input) : State :=
  text.foldl machine.next state

/-- The words emitted for a text. -/
def output : State → List Input → List Output
  | _, [] => []
  | state, symbol :: text =>
      machine.emit state symbol ++ output (machine.next state symbol) text

@[simp]
theorem after_nil (state : State) : machine.after state [] = state :=
  rfl

@[simp]
theorem after_cons (state : State) (symbol : Input) (text : List Input) :
    machine.after state (symbol :: text) =
      machine.after (machine.next state symbol) text :=
  rfl

@[simp]
theorem output_nil (state : State) : machine.output state [] = [] :=
  rfl

@[simp]
theorem output_cons (state : State) (symbol : Input) (text : List Input) :
    machine.output state (symbol :: text) =
      machine.emit state symbol ++
        machine.output (machine.next state symbol) text :=
  rfl

theorem after_append (state : State) (text rest : List Input) :
    machine.after state (text ++ rest) =
      machine.after (machine.after state text) rest :=
  List.foldl_append

theorem after_concat (state : State) (text : List Input) (symbol : Input) :
    machine.after state (text ++ [symbol]) =
      machine.next (machine.after state text) symbol :=
  machine.after_append state text [symbol]

theorem output_append (state : State) (text rest : List Input) :
    machine.output state (text ++ rest) =
      machine.output state text ++
        machine.output (machine.after state text) rest := by
  induction text generalizing state with
  | nil => rfl
  | cons symbol text induction =>
      rw [List.cons_append, output_cons, output_cons, induction,
        List.append_assoc, after_cons]

variable {machine}

/-- What every step keeps holds after every text. -/
theorem after_invariant {Holds : State → Prop}
    (kept : ∀ state symbol, Holds state → Holds (machine.next state symbol))
    {state : State} (holds : Holds state) (text : List Input) :
    Holds (machine.after state text) := by
  induction text generalizing state with
  | nil => exact holds
  | cons symbol text induction =>
      apply induction
      exact kept state symbol holds

/-- Two states that act alike on a symbol. -/
theorem output_cons_congr {state other : State} {symbol : Input}
    (next : machine.next state symbol = machine.next other symbol)
    (emit : machine.emit state symbol = machine.emit other symbol)
    (text : List Input) :
    machine.output state (symbol :: text) =
      machine.output other (symbol :: text) := by
  rw [output_cons, output_cons, next, emit]

/-- Reading the symbol changes nothing. -/
def Skips (machine : Transducer State Input Output) (state : State)
    (symbol : Input) : Prop :=
  machine.next state symbol = state ∧ machine.emit state symbol = []

theorem after_skips {state : State} {text : List Input}
    (skips : ∀ symbol ∈ text, machine.Skips state symbol) :
    machine.after state text = state := by
  induction text with
  | nil => rfl
  | cons symbol text induction =>
      rw [List.forall_mem_cons] at skips
      rw [after_cons, skips.1.1, induction skips.2]

theorem output_skips {state : State} {text : List Input}
    (skips : ∀ symbol ∈ text, machine.Skips state symbol) :
    machine.output state text = [] := by
  induction text with
  | nil => rfl
  | cons symbol text induction =>
      rw [List.forall_mem_cons] at skips
      rw [output_cons, skips.1.1, skips.1.2, induction skips.2, List.nil_append]

/-- Every symbol of a text, with what comes before it. -/
def places : List Input → List (List Input × Input)
  | [] => []
  | symbol :: text =>
      ([], symbol) :: (places text).map fun place => (symbol :: place.1, place.2)

theorem mem_places {text before : List Input} {symbol : Input} :
    (before, symbol) ∈ places text ↔ ∃ rest, text = before ++ symbol :: rest := by
  induction text generalizing before with
  | nil => simp [places]
  | cons first text induction =>
      rw [places, List.mem_cons, List.mem_map]
      constructor
      · rintro (same | ⟨⟨front, last⟩, member, same⟩)
        · obtain ⟨rfl, rfl⟩ := Prod.mk.inj same
          exact ⟨text, rfl⟩
        · obtain ⟨rfl, rfl⟩ := Prod.mk.inj same
          obtain ⟨rest, rfl⟩ := induction.mp member
          exact ⟨rest, rfl⟩
      · rintro ⟨rest, split⟩
        cases before with
        | nil =>
            obtain ⟨rfl, _⟩ := List.cons.inj split
            exact .inl rfl
        | cons front before =>
            obtain ⟨rfl, tail⟩ := List.cons.inj split
            exact .inr ⟨(before, symbol), induction.mpr ⟨rest, tail⟩, rfl⟩

/-- The output is what is emitted at each place. -/
theorem output_eq_places (state : State) (text : List Input) :
    machine.output state text = (places text).flatMap fun place =>
      machine.emit (machine.after state place.1) place.2 := by
  induction text generalizing state with
  | nil => rfl
  | cons symbol text induction =>
      rw [output_cons, places, List.flatMap_cons, List.flatMap_map, induction]
      rfl

/-- Every symbol may follow the one before it, the first one what is given. -/
def Chained (Follows : Option Output → Output → Prop) :
    Option Output → List Output → Prop
  | _, [] => True
  | before, symbol :: word =>
      Follows before symbol ∧ Chained Follows (some symbol) word

theorem Chained.left {Follows : Option Output → Output → Prop}
    {before : Option Output} {word rest : List Output}
    (chained : Chained Follows before (word ++ rest)) :
    Chained Follows before word := by
  induction word generalizing before with
  | nil => trivial
  | cons symbol word induction => exact ⟨chained.1, induction chained.2⟩

/-- A symbol and what it follows. -/
theorem Chained.follows {Follows : Option Output → Output → Prop}
    {before : Option Output} {word rest : List Output} {symbol : Output}
    (chained : Chained Follows before (word ++ symbol :: rest)) :
    Follows (word.getLast?.or before) symbol := by
  induction word generalizing before with
  | nil => exact chained.1
  | cons first word induction =>
      have later := induction chained.2
      rw [Option.or_some] at later
      rw [List.getLast?_cons, Option.some_or]
      exact later

/-- A step emits nothing and leaves the last symbol, or one symbol that may
follow it. -/
def Extends (machine : Transducer State Input Output)
    (last : State → Option Output) (Follows : Option Output → Output → Prop)
    (state : State) (symbol : Input) : Prop :=
  machine.emit state symbol = [] ∧ last (machine.next state symbol) = last state ∨
    ∃ emitted, machine.emit state symbol = [emitted] ∧
      Follows (last state) emitted ∧
      last (machine.next state symbol) = some emitted

/-- All output is chained. -/
theorem output_chained {last : State → Option Output}
    {Follows : Option Output → Output → Prop} {Holds : State → Prop}
    (kept : ∀ state symbol, Holds state → Holds (machine.next state symbol))
    (extends_ : ∀ state symbol, Holds state →
      machine.Extends last Follows state symbol)
    {state : State} (holds : Holds state) (text : List Input) :
    Chained Follows (last state) (machine.output state text) := by
  induction text generalizing state with
  | nil => trivial
  | cons symbol text induction =>
      have later := induction (kept state symbol holds)
      rw [output_cons]
      rcases extends_ state symbol holds with
        ⟨silent, same⟩ | ⟨emitted, emits, follows, now⟩
      · rw [same] at later
        rwa [silent, List.nil_append]
      · rw [now] at later
        rw [emits]
        exact ⟨follows, later⟩

end Transducer

section

variable {State Symbol : Type*} {machine : Transducer State Symbol Symbol}
  {state : Option Symbol → State} {Follows : Option Symbol → Symbol → Prop}

/-- Chained text is copied by a machine that copies every symbol that may follow
the last one. -/
theorem Transducer.output_copied
    (copies : ∀ before symbol, Follows before symbol →
      machine.emit (state before) symbol = [symbol] ∧
        machine.next (state before) symbol = state (some symbol))
    {before : Option Symbol} {text : List Symbol}
    (chained : Chained Follows before text) :
    machine.output (state before) text = text := by
  induction text generalizing before with
  | nil => rfl
  | cons symbol text induction =>
      obtain ⟨emits, moves⟩ := copies before symbol chained.1
      rw [output_cons, emits, moves, induction chained.2, List.singleton_append]

theorem Transducer.after_copied
    (copies : ∀ before symbol, Follows before symbol →
      machine.emit (state before) symbol = [symbol] ∧
        machine.next (state before) symbol = state (some symbol))
    {before : Option Symbol} {text : List Symbol}
    (chained : Chained Follows before text) :
    machine.after (state before) text = state (text.getLast?.or before) := by
  induction text generalizing before with
  | nil => rfl
  | cons symbol text induction =>
      obtain ⟨_, moves⟩ := copies before symbol chained.1
      rw [after_cons, moves, induction chained.2, Option.or_some,
        List.getLast?_cons, Option.some_or]

end

end Library
