import Mathlib.Data.List.DropRight

/-!
# Rings

A ring of a fixed size keeps the last items put into it.  What it holds is a
suffix of all items, so putting more in after forgetting some changes nothing.
-/

namespace Library

namespace Ring

variable {α : Type*}

/-- Forgetting early is forgetting late. -/
theorem rtake_append_of_rtake (items more : List α) (size : Nat) :
    ((items.rtake size) ++ more).rtake size = (items ++ more).rtake size := by
  simp only [List.rtake, List.length_append, List.length_drop, List.drop_append,
    List.drop_drop]
  congr 2
  · omega
  · omega

theorem length_rtake (items : List α) (size : Nat) :
    (items.rtake size).length = min size items.length := by
  simp only [List.rtake, List.length_drop]
  omega

theorem rtake_min_length (items : List α) (size : Nat) :
    items.rtake (min size items.length) = items.rtake size := by
  simp only [List.rtake]
  congr 1
  omega

/-- Two sizes keep the same items when they keep equally many. -/
theorem rtake_eq_iff (items : List α) (size other : Nat) :
    items.rtake size = items.rtake other ↔
      min size items.length = min other items.length := by
  constructor
  · intro same
    have lengths := congrArg List.length same
    rw [length_rtake, length_rtake] at lengths
    exact lengths
  · intro same
    rw [← rtake_min_length items size, same, rtake_min_length]

end Ring

end Library
