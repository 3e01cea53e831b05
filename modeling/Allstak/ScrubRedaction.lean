import Allstak.Scrub

/-!
# What scrubbing guarantees about sensitive keys

`Value.Redacted` is the promise: wherever a sensitive key stands in the tree,
its entry is the marker.  The scrubber keeps it except below identity keys,
which it does not enter; `Value.Guarded` says that nothing is exposed there.
The two agree exactly through `scrubValue`.
-/

namespace Allstak

namespace Value

/-- Every entry of a sensitive key, at any depth, is the marker. -/
def Redacted (value : Value) : Prop :=
  ∀ key entry, HasEntry key entry value → isSensitiveKey key = true →
    entry = .string REDACTED

private theorem redacted_array_iff {items : List Value} :
    (Value.array items).Redacted ↔ ∀ item ∈ items, item.Redacted := by
  constructor
  · intro redacted item member key entry found
    exact redacted key entry (.item member found)
  · intro redacted key entry found
    cases found with
    | item member inside => exact redacted _ member key entry inside

theorem redacted_object_iff {entries : Map} :
    (Value.object entries).Redacted ↔
      ∀ key value, (key, value) ∈ entries →
        (isSensitiveKey key = true → value = .string REDACTED) ∧
          value.Redacted := by
  constructor
  · intro redacted key value member
    constructor
    · exact redacted key value (.here member)
    · intro inner entry found
      exact redacted inner entry (.within member found)
  · intro redacted key entry found
    cases found with
    | here member => exact (redacted key entry member).1
    | within member inside => exact (redacted _ _ member).2 key entry inside

@[simp] theorem redacted_null : Value.null.Redacted := by
  intro key entry found
  cases found

@[simp] theorem redacted_bool (value : Bool) : (Value.bool value).Redacted := by
  intro key entry found
  cases found

@[simp] theorem redacted_number (value : Number) :
    (Value.number value).Redacted := by
  intro key entry found
  cases found

@[simp] theorem redacted_string (text : String) :
    (Value.string text).Redacted := by
  intro key entry found
  cases found

mutual

/-- Every subtree the scrubber skips is redacted already: the walk goes
through arrays and ordinary keys, stops at a sensitive key, and asks for the
promise itself at an identity key. -/
def Guarded : Value → Prop
  | .array items => GuardedItems items
  | .object entries => GuardedEntries entries
  | .null => True
  | .bool _ => True
  | .number _ => True
  | .string _ => True

def GuardedItems : List Value → Prop
  | [] => True
  | item :: items => Guarded item ∧ GuardedItems items

def GuardedEntries : List (String × Value) → Prop
  | [] => True
  | (key, value) :: entries =>
      (if isSensitiveKey key then True
        else if isIdentityKey key then Redacted value
        else Guarded value) ∧ GuardedEntries entries

end

section

variable [UnicodeTables]

mutual

/-- Scrubbing redacts a value exactly when nothing is exposed below its
identity keys. -/
theorem redacted_scrubValue_iff (value : Value) :
    (scrubValue value).Redacted ↔ value.Guarded := by
  cases value with
  | null => simp [scrubValue, Guarded]
  | bool value => simp [scrubValue, Guarded]
  | number value => simp [scrubValue, Guarded]
  | string text =>
      rw [scrubValue]
      split <;> simp [Guarded]
  | array items =>
      rw [scrubValue, Guarded, redacted_array_iff]
      exact redacted_scrubItems_iff items
  | object entries =>
      rw [scrubValue, Guarded, redacted_object_iff]
      exact redacted_scrubEntries_iff entries

/-- List counterpart of `redacted_scrubValue_iff`. -/
theorem redacted_scrubItems_iff (items : List Value) :
    (∀ item ∈ scrubItems items, item.Redacted) ↔ GuardedItems items := by
  cases items with
  | nil => simp [scrubItems, GuardedItems]
  | cons item items =>
      simp only [scrubItems, GuardedItems, List.forall_mem_cons]
      rw [redacted_scrubValue_iff item, redacted_scrubItems_iff items]

/-- Entry counterpart: the three key rules. -/
theorem redacted_scrubEntries_iff (entries : List (String × Value)) :
    (∀ key value, (key, value) ∈ scrubEntries entries →
        (isSensitiveKey key = true → value = .string REDACTED) ∧
          value.Redacted) ↔ GuardedEntries entries := by
  cases entries with
  | nil => simp [scrubEntries, GuardedEntries]
  | cons entry entries =>
      obtain ⟨key, value⟩ := entry
      have tail := redacted_scrubEntries_iff entries
      have head :
          (isSensitiveKey key = true → scrubEntry key value = .string REDACTED) ∧
              (scrubEntry key value).Redacted ↔
            if isSensitiveKey key then True
            else if isIdentityKey key then Redacted value
            else Guarded value := by
        by_cases sensitive : isSensitiveKey key = true
        · simp [scrubEntry, sensitive]
        · by_cases identity : isIdentityKey key = true
          · simp [scrubEntry, sensitive, identity]
          · simp [scrubEntry, sensitive, identity,
              redacted_scrubValue_iff value]
      rw [GuardedEntries, ← head, ← tail]
      constructor
      · intro all
        exact ⟨all key (scrubEntry key value) (by simp [scrubEntries, scrubEntry]),
          fun other inner member =>
            all other inner (by simp [scrubEntries, member])⟩
      · rintro ⟨first, rest⟩ other inner member
        simp only [scrubEntries, List.mem_cons, Prod.mk.injEq] at member
        rcases member with ⟨rfl, rfl⟩ | later
        · exact first
        · exact rest other inner later

end

end

end Value

end Allstak
