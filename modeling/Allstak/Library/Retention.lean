import Mathlib.Data.List.Sort
import Mathlib.Order.Lattice

/-!
# Keeping the newest

A store takes elements one after the other and gives some of them up.  It keeps
its elements in an order of their own, in which it is listed and emptied; this
is the order of arrival exactly as long as each new element comes after those
listed, and each one given up is the first of the list.
-/

namespace Library

namespace Retention

variable {α : Type*}

/-- The listing is in the order of arrival, and what was given up arrived
before all that is listed. -/
def OldestFirst (arrived givenUp listing : List α) : Prop :=
  listing.Sublist arrived ∧
    ∀ old ∈ givenUp, ∀ left ∈ listing, [old, left].Sublist arrived

/-- Two elements stand in one order only. -/
theorem not_both_orders {arrived : List α} {one other : α}
    (distinct : arrived.Nodup) (before : [one, other].Sublist arrived)
    (after : [other, one].Sublist arrived) : False := by
  induction arrived with
  | nil => cases before
  | cons head rest induction =>
      obtain ⟨fresh, distinct⟩ := List.nodup_cons.mp distinct
      cases before with
      | cons _ before =>
          cases after with
          | cons _ after => exact induction distinct before after
          | cons_cons _ after => exact fresh (before.subset (by simp))
      | cons_cons _ before =>
          cases after with
          | cons _ after => exact fresh (after.subset (by simp))
          | cons_cons _ after =>
              exact fresh (after.subset (List.mem_singleton_self _))

section Sorted

variable [LinearOrder α]

/-- Listings with the same elements are the same. -/
theorem listing_unique {listing other : List α} (sorted : listing.Pairwise (· ≤ ·))
    (distinct : listing.Nodup) (sortedOther : other.Pairwise (· ≤ ·))
    (distinctOther : other.Nodup) (same : ∀ x, x ∈ listing ↔ x ∈ other) :
    listing = other :=
  ((List.perm_ext_iff_of_nodup distinct distinctOther).mpr same).eq_of_pairwise
    (fun _ _ _ _ below above => le_antisymm below above) sorted sortedOther

/-- A sorted listing shows the smaller of two elements first. -/
theorem pair_sublist {listing : List α} {one other : α}
    (sorted : listing.Pairwise (· ≤ ·)) (first : one ∈ listing)
    (second : other ∈ listing) (below : one < other) :
    [one, other].Sublist listing := by
  induction listing with
  | nil => cases first
  | cons head rest induction =>
      obtain ⟨least, sorted⟩ := List.pairwise_cons.mp sorted
      rcases List.mem_cons.mp first with rfl | firstLater
      · rcases List.mem_cons.mp second with rfl | secondLater
        · exact absurd below (lt_irrefl _)
        · exact (List.singleton_sublist.mpr secondLater).cons_cons _
      · rcases List.mem_cons.mp second with rfl | secondLater
        · exact absurd below (not_lt.mpr (least one firstLater))
        · exact (induction sorted firstLater secondLater).cons head

/-- An arrival keeps the order exactly when it comes after all that is listed. -/
theorem oldestFirst_arrive_iff {arrived givenUp listing after : List α} {new : α}
    (distinct : arrived.Nodup) (fresh : new ∉ arrived)
    (known : givenUp ⊆ arrived) (sorted : listing.Pairwise (· ≤ ·))
    (sortedAfter : after.Pairwise (· ≤ ·)) (distinctAfter : after.Nodup)
    (members : ∀ x, x ∈ after ↔ x ∈ listing ∨ x = new)
    (kept : OldestFirst arrived givenUp listing) :
    OldestFirst (arrived ++ [new]) givenUp after ↔ ∀ x ∈ listing, x < new := by
  obtain ⟨inOrder, older⟩ := kept
  have unlisted : new ∉ listing := fun member => fresh (inOrder.subset member)
  constructor
  · rintro ⟨order, -⟩ x member
    have different : x ≠ new := fun same => unlisted (same ▸ member)
    by_contra notBelow
    have above : new < x := lt_of_le_of_ne (not_lt.mp notBelow) (Ne.symm different)
    have arrives : [x, new].Sublist (arrived ++ [new]) :=
      (List.singleton_sublist.mpr (inOrder.subset member)).append
        (List.Sublist.refl [new])
    have listed : [new, x].Sublist (arrived ++ [new]) :=
      (pair_sublist sortedAfter ((members new).mpr (.inr rfl))
        ((members x).mpr (.inl member)) above).trans order
    have distinct : (arrived ++ [new]).Nodup :=
      List.nodup_append.mpr ⟨distinct, List.nodup_singleton _, by
        intro y old z single
        rw [List.mem_singleton.mp single]
        rintro rfl
        exact fresh old⟩
    exact not_both_orders distinct arrives listed
  · intro below
    have same : after = listing ++ [new] := by
      apply listing_unique sortedAfter distinctAfter
      · apply List.pairwise_append.mpr
        refine ⟨sorted, List.pairwise_singleton _ _, ?_⟩
        intro x member y single
        rw [List.mem_singleton.mp single]
        exact (below x member).le
      · exact List.nodup_append.mpr ⟨inOrder.nodup distinct,
          List.nodup_singleton _, by
            intro x member y single
            rw [List.mem_singleton.mp single]
            rintro rfl
            exact unlisted member⟩
      · intro x
        rw [members, List.mem_append, List.mem_singleton]
    rw [same]
    refine ⟨inOrder.append (List.Sublist.refl [new]), ?_⟩
    intro old gone left member
    rcases List.mem_append.mp member with listed | single
    · exact (older old gone left listed).trans (List.sublist_append_left _ _)
    · rw [List.mem_singleton.mp single]
      exact (List.singleton_sublist.mpr (known gone)).append
        (List.Sublist.refl [new])

/-- Giving up an element keeps the order exactly when it is the first listed. -/
theorem oldestFirst_giveUp_iff {arrived givenUp listing after : List α} {gone : α}
    (distinct : arrived.Nodup) (listed : gone ∈ listing)
    (sorted : listing.Pairwise (· ≤ ·)) (sortedAfter : after.Pairwise (· ≤ ·))
    (distinctAfter : after.Nodup)
    (members : ∀ x, x ∈ after ↔ x ∈ listing ∧ x ≠ gone)
    (kept : OldestFirst arrived givenUp listing) :
    OldestFirst arrived (givenUp ++ [gone]) after ↔
      listing.head? = some gone := by
  obtain ⟨inOrder, older⟩ := kept
  have distinctListing := inOrder.nodup distinct
  cases listing with
  | nil => cases listed
  | cons head rest =>
      obtain ⟨least, sortedRest⟩ := List.pairwise_cons.mp sorted
      obtain ⟨fresh, distinctRest⟩ := List.nodup_cons.mp distinctListing
      rw [List.head?_cons, Option.some.injEq]
      constructor
      · rintro ⟨-, all⟩
        by_contra different
        have first : [gone, head].Sublist arrived :=
          all gone (List.mem_append_right _ (List.mem_singleton_self gone)) head
            ((members head).mpr ⟨List.mem_cons_self, different⟩)
        have later : gone ∈ rest := by
          rcases List.mem_cons.mp listed with same | later
          · exact absurd same.symm different
          · exact later
        have second : [head, gone].Sublist arrived :=
          ((List.singleton_sublist.mpr later).cons_cons head).trans inOrder
        exact not_both_orders distinct first second
      · rintro rfl
        have same : after = rest := by
          apply listing_unique sortedAfter distinctAfter sortedRest distinctRest
          intro x
          rw [members, List.mem_cons]
          constructor
          · rintro ⟨rfl | later, different⟩
            · exact absurd rfl different
            · exact later
          · intro later
            exact ⟨.inr later, fun equal => fresh (equal ▸ later)⟩
        rw [same]
        refine ⟨(List.sublist_cons_self head rest).trans inOrder, ?_⟩
        intro old gone left member
        rcases List.mem_append.mp gone with before | single
        · exact older old before left (List.mem_cons_of_mem _ member)
        · rw [List.mem_singleton.mp single]
          exact ((List.singleton_sublist.mpr member).cons_cons head).trans inOrder

end Sorted

end Retention

end Library
