import Mathlib.Algebra.GroupWithZero.Nat
import Mathlib.Data.List.Basic
import Mathlib.Data.List.Count

/-!
# Pools of parties that hold things

A pool is a list of parties, each of which holds a list of things.  When one
party moves, what the pool holds changes by what that party gave up and took.
-/

namespace Library

namespace Pool

variable {α β : Type*}

/-- A pool of parties that hold nothing. -/
theorem flatMap_replicate {held : α → List β} {party : α} (size : Nat)
    (nothing : held party = []) :
    (List.replicate size party).flatMap held = [] := by
  apply List.flatMap_eq_nil_iff.mpr
  intro other member
  rw [List.eq_of_mem_replicate member, nothing]

theorem countP_set {holds : α → Bool} {pool : List α} {index : Nat} {old : α}
    (new : α) (found : pool[index]? = some old) :
    (pool.set index new).countP holds + (if holds old then 1 else 0) =
      pool.countP holds + if holds new then 1 else 0 := by
  induction pool generalizing index with
  | nil => simp at found
  | cons head rest induction =>
      cases index with
      | zero =>
          have same : head = old := by simpa using found
          subst same
          simp only [List.set_cons_zero, List.countP_cons]
          omega
      | succ index =>
          have later : rest[index]? = some old := by simpa using found
          have counted := induction later
          simp only [List.set_cons_succ, List.countP_cons]
          omega

/-- No party has the property after a move if none had it and the new one does
not. -/
theorem any_set_eq_false {holds : α → Bool} {pool : List α} {index : Nat}
    {new : α} (none : pool.any holds = false) (lacks : holds new = false) :
    (pool.set index new).any holds = false := by
  rw [List.any_eq_false] at none ⊢
  intro party member
  rcases List.mem_or_eq_of_mem_set member with old | rfl
  · exact none party old
  · simp [lacks]

/-- The property stays in the pool when the party that moves lacks it. -/
theorem any_set_of_lacks {holds : α → Bool} {pool : List α} {index : Nat}
    {old : α} (new : α) (found : pool[index]? = some old)
    (lacks : holds old = false) (some_ : pool.any holds = true) :
    (pool.set index new).any holds = true := by
  obtain ⟨party, member, has⟩ := List.any_eq_true.mp some_
  obtain ⟨place, atPlace⟩ := List.mem_iff_getElem?.mp member
  have apart : index ≠ place := by
    rintro rfl
    rw [found, Option.some.injEq] at atPlace
    rw [atPlace, has] at lacks
    cases lacks
  refine List.any_eq_true.mpr ⟨party, ?_, has⟩
  refine List.mem_iff_getElem?.mpr ⟨place, ?_⟩
  rw [List.getElem?_set_ne apart, atPlace]

theorem count_flatMap_set [DecidableEq β] (held : α → List β) {pool : List α}
    {index : Nat} {old : α} (new : α) (value : β)
    (found : pool[index]? = some old) :
    ((pool.set index new).flatMap held).count value + (held old).count value =
      (pool.flatMap held).count value + (held new).count value := by
  induction pool generalizing index with
  | nil => simp at found
  | cons head rest induction =>
      cases index with
      | zero =>
          have same : head = old := by simpa using found
          subst same
          simp only [List.set_cons_zero, List.flatMap_cons, List.count_append]
          omega
      | succ index =>
          have later : rest[index]? = some old := by simpa using found
          have counted := induction later
          simp only [List.set_cons_succ, List.flatMap_cons, List.count_append]
          omega

/-- A party of a pool that one party joined. -/
theorem getElem?_concat_cases {pool : List α} {new party : α} {index : Nat}
    (found : (pool ++ [new])[index]? = some party) :
    pool[index]? = some party ∨ index = pool.length ∧ party = new := by
  rw [List.getElem?_append] at found
  split at found
  · exact .inl found
  · obtain ⟨inside, same⟩ := List.getElem?_eq_some_iff.mp found
    have single : index - pool.length = 0 := by simpa using inside
    refine .inr ⟨by omega, ?_⟩
    simpa [single] using same.symm

/-- A party of a pool in which one party changed. -/
theorem getElem?_set_cases {pool : List α} {changed party : α} {index place : Nat}
    (inside : index < pool.length)
    (found : (pool.set index changed)[place]? = some party) :
    place = index ∧ party = changed ∨ place ≠ index ∧ pool[place]? = some party := by
  by_cases same : place = index
  · subst same
    rw [List.getElem?_set_self inside, Option.some.injEq] at found
    exact .inl ⟨rfl, found.symm⟩
  · rw [List.getElem?_set_ne (Ne.symm same)] at found
    exact .inr ⟨same, found⟩

/-- What a pool yields after a move comes from the party that moved or was
there before. -/
theorem mem_filterMap_set {yield : α → Option β} {pool : List α} {index : Nat}
    {new : α} {value : β}
    (member : value ∈ (pool.set index new).filterMap yield) :
    yield new = some value ∨ value ∈ pool.filterMap yield := by
  obtain ⟨party, inPool, yields⟩ := List.mem_filterMap.mp member
  rcases List.mem_or_eq_of_mem_set inPool with old | rfl
  · exact .inr (List.mem_filterMap.mpr ⟨party, old, yields⟩)
  · exact .inl yields

/-- What a pool holds after a move is held by the party that moved or was held
before. -/
theorem mem_flatMap_set {held : α → List β} {pool : List α} {index : Nat}
    {new : α} {value : β}
    (member : value ∈ (pool.set index new).flatMap held) :
    value ∈ held new ∨ value ∈ pool.flatMap held := by
  obtain ⟨party, inPool, holds⟩ := List.mem_flatMap.mp member
  rcases List.mem_or_eq_of_mem_set inPool with old | rfl
  · exact .inr (List.mem_flatMap.mpr ⟨party, old, holds⟩)
  · exact .inl holds

/-- A party that takes nothing adds nothing. -/
theorem flatMap_set_subset {held : α → List β} {pool : List α} {index : Nat}
    {old new : α} (found : pool[index]? = some old)
    (keeps : held new ⊆ held old) :
    (pool.set index new).flatMap held ⊆ pool.flatMap held := by
  intro value member
  rcases mem_flatMap_set member with own | before
  · exact List.mem_flatMap.mpr ⟨old, List.mem_of_getElem? found, keeps own⟩
  · exact before

/-- What a pool yielded before a move stays, but for the party that moved. -/
theorem mem_filterMap_of_set {yield : α → Option β} {pool : List α}
    {index : Nat} {old : α} (new : α) {value : β}
    (found : pool[index]? = some old) (member : value ∈ pool.filterMap yield) :
    yield old = some value ∨ value ∈ (pool.set index new).filterMap yield := by
  obtain ⟨party, inPool, yields⟩ := List.mem_filterMap.mp member
  obtain ⟨place, atPlace⟩ := List.mem_iff_getElem?.mp inPool
  by_cases same : index = place
  · subst same
    rw [found, Option.some.injEq] at atPlace
    subst atPlace
    exact .inl yields
  · refine .inr (List.mem_filterMap.mpr ⟨party, ?_, yields⟩)
    refine List.mem_iff_getElem?.mpr ⟨place, ?_⟩
    rw [List.getElem?_set_ne same, atPlace]

/-- The party that moved is in the pool. -/
theorem mem_filterMap_set_self {yield : α → Option β} {pool : List α}
    {index : Nat} {old new : α} {value : β} (found : pool[index]? = some old)
    (yields : yield new = some value) :
    value ∈ (pool.set index new).filterMap yield := by
  obtain ⟨inside, _⟩ := List.getElem?_eq_some_iff.mp found
  exact List.mem_filterMap.mpr ⟨new, List.mem_set inside new, yields⟩

/-- When one party moves, only its share of a sum changes. -/
theorem sum_map_set (weight : α → Nat) {pool : List α} {index : Nat} {old : α}
    (new : α) (found : pool[index]? = some old) :
    ((pool.set index new).map weight).sum + weight old =
      (pool.map weight).sum + weight new := by
  induction pool generalizing index with
  | nil => simp at found
  | cons head rest induction =>
      cases index with
      | zero =>
          have same : head = old := by simpa using found
          subst same
          simp only [List.set_cons_zero, List.map_cons, List.sum_cons]
          omega
      | succ index =>
          have later : rest[index]? = some old := by simpa using found
          have summed := induction later
          simp only [List.set_cons_succ, List.map_cons, List.sum_cons]
          omega

end Pool

end Library
