import Mathlib.Data.List.Basic

/-!
# Ordered association lists

A map kept as a list of entries in key order, the shape of a `BTreeMap`.
Lookup goes through `List.lookup`, and insertion replaces the entry of an
equal key.
-/

namespace Library

namespace OrderedMap

variable {κ α : Type*} [LT κ] [DecidableLT κ] [DecidableEq κ]

/-- Insert at the key's place, replacing an equal key. -/
def insert (key : κ) (value : α) : List (κ × α) → List (κ × α)
  | [] => [(key, value)]
  | (head, stored) :: rest =>
      if key < head then (key, value) :: (head, stored) :: rest
      else if key = head then (key, value) :: rest
      else (head, stored) :: insert key value rest

/-- Insert a list of entries from left to right. -/
def insertAll (entries target : List (κ × α)) : List (κ × α) :=
  entries.foldl (fun map entry => insert entry.1 entry.2 map) target

@[simp] theorem lookup_insert_self (key : κ) (value : α)
    (entries : List (κ × α)) :
    (insert key value entries).lookup key = some value := by
  induction entries with
  | nil => simp [insert]
  | cons head rest induction =>
      rw [insert]
      split
      · simp
      · split
        · simp
        · rename_i different
          have test : (key == head.1) = false := by simpa using different
          simp only [List.lookup_cons, test]
          exact induction

theorem lookup_insert_of_ne {key other : κ} (value : α)
    (entries : List (κ × α)) (different : other ≠ key) :
    (insert key value entries).lookup other = entries.lookup other := by
  have test : (other == key) = false := by simpa using different
  induction entries with
  | nil => simp [insert, List.lookup_cons, test]
  | cons head rest induction =>
      obtain ⟨headKey, stored⟩ := head
      rw [insert]
      split
      · simp only [List.lookup_cons, test]
      · split
        · rename_i same
          subst same
          simp only [List.lookup_cons, test]
        · simp only [List.lookup_cons, induction]

/-- After inserting entries none of which has the key, lookup of the key is
unchanged. -/
theorem lookup_insertAll_of_notMem {key : κ} {entries target : List (κ × α)}
    (absent : key ∉ entries.map Prod.fst) :
    (insertAll entries target).lookup key = target.lookup key := by
  induction entries generalizing target with
  | nil => rfl
  | cons head rest induction =>
      simp only [List.map_cons, List.mem_cons, not_or] at absent
      change (insertAll rest (insert head.1 head.2 target)).lookup key = _
      rw [induction absent.2, lookup_insert_of_ne _ _ absent.1]

/-- A list of entries with distinct keys is looked up entry by entry. -/
theorem lookup_insertAll_of_mem {key : κ} {value : α}
    {entries target : List (κ × α)}
    (distinct : (entries.map Prod.fst).Nodup)
    (member : (key, value) ∈ entries) :
    (insertAll entries target).lookup key = some value := by
  induction entries generalizing target with
  | nil => simp at member
  | cons head rest induction =>
      simp only [List.map_cons, List.nodup_cons] at distinct
      change (insertAll rest (insert head.1 head.2 target)).lookup key = _
      rcases List.mem_cons.mp member with first | later
      · subst first
        rw [lookup_insertAll_of_notMem distinct.1, lookup_insert_self]
      · exact induction distinct.2 later

/-- The last entry of a key wins. -/
theorem lookup_insertAll (entries target : List (κ × α)) (key : κ) :
    (insertAll entries target).lookup key =
      (entries.reverse.lookup key).or (target.lookup key) := by
  induction entries generalizing target with
  | nil => rfl
  | cons head rest induction =>
      obtain ⟨name, value⟩ := head
      change (insertAll rest (insert name value target)).lookup key = _
      rw [induction, List.reverse_cons, List.lookup_append, Option.or_assoc]
      apply congrArg ((rest.reverse.lookup key).or ·)
      by_cases same : key = name
      · subst same
        simp
      · rw [lookup_insert_of_ne _ _ same, List.lookup_cons]
        have test : (key == name) = false := by simpa using same
        simp [test]

theorem insert_ne_nil (key : κ) (value : α) (entries : List (κ × α)) :
    insert key value entries ≠ [] := by
  cases entries with
  | nil => exact List.cons_ne_nil _ _
  | cons head rest =>
      rw [insert]
      split
      · exact List.cons_ne_nil _ _
      · split <;> exact List.cons_ne_nil _ _

theorem insertAll_eq_nil_iff {entries target : List (κ × α)} :
    insertAll entries target = [] ↔ entries = [] ∧ target = [] := by
  induction entries generalizing target with
  | nil => simp [insertAll]
  | cons head rest induction =>
      change insertAll rest (insert head.1 head.2 target) = [] ↔ _
      rw [induction]
      simp [insert_ne_nil]

/-- Entries in key order, with every key once. -/
def Sorted (entries : List (κ × α)) : Prop :=
  entries.Pairwise fun first second => first.1 < second.1

theorem key_mem_insert {key : κ} {value : α} {entries : List (κ × α)}
    {entry : κ × α} (member : entry ∈ insert key value entries) :
    entry.1 = key ∨ entry ∈ entries := by
  induction entries with
  | nil =>
      rw [insert] at member
      exact .inl (congrArg Prod.fst (List.mem_singleton.mp member))
  | cons head rest induction =>
      rw [insert] at member
      split at member
      · rcases List.mem_cons.mp member with rfl | old
        · exact .inl rfl
        · exact .inr old
      · split at member
        · rcases List.mem_cons.mp member with rfl | old
          · exact .inl rfl
          · exact .inr (List.mem_cons_of_mem _ old)
        · rcases List.mem_cons.mp member with rfl | later
          · exact .inr List.mem_cons_self
          · exact (induction later).imp_right (List.mem_cons_of_mem _)

section

variable [Trans (fun a b : κ => a < b) (fun a b : κ => a < b)
  (fun a b : κ => a < b)] [@Std.Trichotomous κ (fun a b => a < b)]

theorem Sorted.insert {entries : List (κ × α)} (sorted : Sorted entries)
    (key : κ) (value : α) : Sorted (insert key value entries) := by
  induction entries with
  | nil => exact List.pairwise_singleton _ _
  | cons head rest induction =>
      obtain ⟨below, later⟩ := List.pairwise_cons.mp sorted
      rw [OrderedMap.insert]
      split
      · rename_i before
        refine List.pairwise_cons.mpr ⟨?_, sorted⟩
        intro entry member
        rcases List.mem_cons.mp member with rfl | old
        · exact before
        · exact Trans.trans before (below entry old)
      · split
        · rename_i same
          subst same
          exact List.pairwise_cons.mpr ⟨below, later⟩
        · rename_i notBefore different
          refine List.pairwise_cons.mpr ⟨?_, induction later⟩
          intro entry member
          rcases key_mem_insert member with same | old
          · rw [same]
            by_contra notAfter
            exact different
              (Std.Trichotomous.trichotomous _ _ notBefore notAfter)
          · exact below entry old

theorem sorted_insertAll (entries : List (κ × α)) {target : List (κ × α)}
    (sorted : Sorted target) : Sorted (insertAll entries target) := by
  induction entries generalizing target with
  | nil => exact sorted
  | cons head rest induction => exact induction (sorted.insert head.1 head.2)

end

section

variable [@Std.Asymm κ (fun a b => a < b)]

theorem insert_above {key : κ} {value : α} {entries : List (κ × α)}
    (above : ∀ entry ∈ entries, entry.1 < key) :
    insert key value entries = entries ++ [(key, value)] := by
  induction entries with
  | nil => rfl
  | cons head rest induction =>
      have less := above head List.mem_cons_self
      have notBefore : ¬ key < head.1 :=
        Std.Asymm.asymm (r := fun a b : κ => a < b) _ _ less
      have different : key ≠ head.1 := by
        rintro rfl
        exact notBefore less
      rw [insert, if_neg notBefore, if_neg different,
        induction fun entry member => above entry
          (List.mem_cons_of_mem _ member)]
      rfl

/-- Inserting the entries of a map into an empty one builds the map again. -/
theorem insertAll_sorted {entries : List (κ × α)} (sorted : Sorted entries) :
    insertAll entries [] = entries := by
  have appends (entries target : List (κ × α))
      (sorted : Sorted (target ++ entries)) :
      insertAll entries target = target ++ entries := by
    induction entries generalizing target with
    | nil => simp [insertAll]
    | cons head rest induction =>
        have above : ∀ entry ∈ target, entry.1 < head.1 := by
          intro entry member
          exact (List.pairwise_append.mp sorted).2.2 entry member head
            List.mem_cons_self
        change insertAll rest (insert head.1 head.2 target) = _
        rw [insert_above above, induction _ (by simpa using sorted)]
        simp
  exact appends entries [] sorted

end

end OrderedMap

end Library
