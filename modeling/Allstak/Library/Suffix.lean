import Mathlib.Data.List.Infix

/-!
# The longest suffix that fits

A scan from the front of a list drops elements until what is left fits.  When
fitting passes to shorter suffixes, scans for one limit after the other come to
the scan for both limits.
-/

namespace Library

namespace Suffix

variable {α : Type*}

/-- The first suffix that fits, from the whole list on. -/
def longest (fits : List α → Prop) [DecidablePred fits] : List α → List α
  | [] => []
  | x :: rest => if fits (x :: rest) then x :: rest else longest fits rest

/-- Dropping the first element keeps a list that fits fitting. -/
def Closed (fits : List α → Prop) : Prop :=
  ∀ x rest, fits (x :: rest) → fits rest

/-- A suffix that fits, and every suffix that fits is a suffix of it. -/
structure IsLongest (fits : List α → Prop) (whole left : List α) : Prop where
  suffix : left <:+ whole
  admitted : fits left
  greatest : ∀ other, other <:+ whole → fits other → other <:+ left

theorem Closed.of_suffix {fits : List α → Prop} (closed : Closed fits)
    {left whole : List α} (suffix : left <:+ whole) (fit : fits whole) :
    fits left := by
  induction whole with
  | nil => exact List.suffix_nil.mp suffix ▸ fit
  | cons x rest induction =>
      rcases List.suffix_cons_iff.mp suffix with rfl | shorter
      · exact fit
      · exact induction shorter (closed x rest fit)

/-- One limit after the other. -/
theorem IsLongest.inner {outer inner : List α → Prop} (closed : Closed outer)
    {whole middle left : List α} (first : IsLongest outer whole middle)
    (second : IsLongest inner middle left) :
    IsLongest (fun list => outer list ∧ inner list) whole left where
  suffix := second.suffix.trans first.suffix
  admitted := ⟨closed.of_suffix second.suffix first.admitted, second.admitted⟩
  greatest := by
    rintro other suffix ⟨fitOuter, fitInner⟩
    exact second.greatest other (first.greatest other suffix fitOuter) fitInner

/-- An element is left exactly when the suffix from it on fits. -/
theorem IsLongest.mem_iff {fits : List α → Prop}
    {whole left before after : List α} {x : α}
    (closed : Closed fits) (scanned : IsLongest fits whole left)
    (distinct : whole.Nodup) (split : whole = before ++ x :: after) :
    x ∈ left ↔ fits (x :: after) := by
  have tail : x :: after <:+ whole := ⟨before, split.symm⟩
  constructor
  · intro member
    rcases List.suffix_or_suffix_of_suffix tail scanned.suffix with inside | larger
    · exact closed.of_suffix inside scanned.admitted
    · obtain ⟨gone, append⟩ := larger
      cases gone with
      | nil =>
          rw [List.nil_append] at append
          exact append ▸ scanned.admitted
      | cons y gone =>
          obtain ⟨rfl, rest⟩ := List.cons_eq_cons.mp append
          have again : y ∈ after := rest ▸ List.mem_append_right gone member
          rw [split] at distinct
          exact absurd again
            (List.nodup_cons.mp (List.nodup_append.mp distinct).2.1).1
  · intro fit
    exact (scanned.greatest _ tail fit).subset List.mem_cons_self

variable {fits : List α → Prop} [DecidablePred fits]

theorem longest_suffix (whole : List α) : longest fits whole <:+ whole := by
  induction whole with
  | nil => exact List.suffix_refl _
  | cons x rest induction =>
      rw [longest]
      split
      · exact List.suffix_refl _
      · exact induction.trans (List.suffix_cons x rest)

theorem fits_longest (empty : fits []) (whole : List α) :
    fits (longest fits whole) := by
  induction whole with
  | nil => exact empty
  | cons x rest induction =>
      rw [longest]
      split
      · assumption
      · exact induction

theorem suffix_longest {other whole : List α} (suffix : other <:+ whole)
    (fit : fits other) : other <:+ longest fits whole := by
  induction whole with
  | nil => exact suffix
  | cons x rest induction =>
      rw [longest]
      split
      · exact suffix
      · rename_i large
        rcases List.suffix_cons_iff.mp suffix with rfl | shorter
        · exact absurd fit large
        · exact induction shorter

theorem longest_isLongest (empty : fits []) (whole : List α) :
    IsLongest fits whole (longest fits whole) :=
  ⟨longest_suffix whole, fits_longest empty whole,
    fun _ suffix fit => suffix_longest suffix fit⟩

end Suffix

end Library
