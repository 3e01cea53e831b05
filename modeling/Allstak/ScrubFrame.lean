import Allstak.Scrub

/-!
# What scrubbing leaves alone

A place in a tree is a path of positions.  Scrubbing keeps every place that is
not below a sensitive key, with the keys on its path, and changes at most the
text of a string there.
-/

namespace Allstak

namespace Value

/-- The value at a position of an array or an object, and its key, none in an
array. -/
def child : Value → Nat → Option (Option String × Value)
  | .array items, position => (items[position]?).map fun item => (none, item)
  | .object entries, position =>
      (entries[position]?).map fun entry => (some entry.1, entry.2)
  | _, _ => none

/-- The value at a path of positions, and the keys passed. -/
def walk (value : Value) : List Nat → Option (List (Option String) × Value)
  | [] => some ([], value)
  | position :: path =>
      (value.child position).bind fun inner =>
        (inner.2.walk path).map fun last => (inner.1 :: last.1, last.2)

theorem walk_cons_eq_some {value found : Value} {position : Nat}
    {path : List Nat} {steps : List (Option String)} :
    value.walk (position :: path) = some (steps, found) ↔
      ∃ key inner later, steps = key :: later ∧
        value.child position = some (key, inner) ∧
        inner.walk path = some (later, found) := by
  rw [walk, Option.bind_eq_some_iff]
  constructor
  · rintro ⟨⟨key, inner⟩, here, rest⟩
    obtain ⟨⟨later, last⟩, walked, same⟩ := Option.map_eq_some_iff.mp rest
    cases same
    exact ⟨key, inner, later, rfl, here, walked⟩
  · rintro ⟨key, inner, later, rfl, here, walked⟩
    refine ⟨(key, inner), here, ?_⟩
    rw [walked]
    rfl

/-- The walk passes no sensitive key. -/
def Open (steps : List (Option String)) : Prop :=
  ∀ key, some key ∈ steps → isSensitiveKey key = false

end Value

section Frame

variable [UnicodeTables]

/-- What may become of a value that stands directly under a key, or under none:
the same constructor, the same length, the same keys in the same order, the same
number, boolean or null; a string may be scrubbed if it looks sensitive and the
key is no identity key. -/
def Framed (direct : Option String) : Value → Value → Prop
  | .null, .null => True
  | .bool value, .bool after => after = value
  | .number value, .number after => after = value
  | .string text, .string after =>
      (after = text ∨ after = scrubString text) ∧
        (looksSensitive text = false ∨
            (∃ key, direct = some key ∧ isIdentityKey key = true) →
          after = text)
  | .array items, .array after => after.length = items.length
  | .object entries, .object after => after.map Prod.fst = entries.map Prod.fst
  | _, _ => False

theorem Framed.refl (direct : Option String) (value : Value) :
    Framed direct value value := by
  cases value with
  | null => trivial
  | bool | number | array | object => rfl
  | string => exact ⟨.inl rfl, fun _ => rfl⟩

private theorem scrubItems_eq_map (items : List Value) :
    scrubItems items = items.map scrubValue := by
  induction items with
  | nil => rfl
  | cons item items induction =>
      rw [scrubItems, induction]
      rfl

theorem asArray?_scrubValue (value : Value) :
    (scrubValue value).asArray? =
      value.asArray?.map fun items => items.map scrubValue := by
  cases value with
  | array items =>
      rw [scrubValue, scrubItems_eq_map]
      rfl
  | string content =>
      rw [scrubValue]
      split
      · rfl
      · rfl
  | null | bool | number | object => rfl

private theorem scrubEntries_eq_map (entries : List (String × Value)) :
    scrubEntries entries =
      entries.map fun entry => (entry.1, scrubEntry entry.1 entry.2) := by
  induction entries with
  | nil => rfl
  | cons entry entries induction =>
      rw [scrubEntries, induction]
      rfl

/-- A value that is scrubbed, under no key or under one that is no identity
key. -/
theorem framed_scrubValue {direct : Option String} (value : Value)
    (plain : ∀ key, direct = some key → isIdentityKey key = false) :
    Framed direct value (scrubValue value) := by
  cases value with
  | null => trivial
  | bool | number => rfl
  | string text =>
      rw [scrubValue]
      by_cases sensitive : looksSensitive text = true
      · rw [if_pos sensitive]
        refine ⟨.inr rfl, ?_⟩
        rintro (clean | ⟨key, rfl, identity⟩)
        · rw [clean] at sensitive
          cases sensitive
        · rw [plain key rfl] at identity
          cases identity
      · rw [if_neg sensitive]
        exact ⟨.inl rfl, fun _ => rfl⟩
  | array items =>
      rw [scrubValue, scrubItems_eq_map]
      exact List.length_map _
  | object entries =>
      rw [scrubValue, scrubEntries_eq_map]
      simp only [Framed, List.map_map, Function.comp_def]

/-- What scrubbing leaves under a key, or in an array. -/
def scrubChild (key : Option String) (inner : Value) : Value :=
  match key with
  | none => scrubValue inner
  | some key => scrubEntry key inner

theorem child_scrubValue (value : Value) (position : Nat) :
    (scrubValue value).child position =
      (value.child position).map fun inner =>
        (inner.1, scrubChild inner.1 inner.2) := by
  cases value with
  | null | bool | number => rfl
  | string text =>
      rw [scrubValue]
      split <;> rfl
  | array items =>
      rw [scrubValue, scrubItems_eq_map, Value.child, Value.child,
        List.getElem?_map, Option.map_map, Option.map_map]
      rfl
  | object entries =>
      rw [scrubValue, scrubEntries_eq_map, Value.child, Value.child,
        List.getElem?_map, Option.map_map, Option.map_map]
      rfl

/-- Under a key that is not sensitive a value stays, or is scrubbed and the key
is no identity key. -/
theorem scrubChild_cases {key : Option String} (inner : Value)
    (ordinary : ∀ name, key = some name → isSensitiveKey name = false) :
    scrubChild key inner = inner ∨
      scrubChild key inner = scrubValue inner ∧
        ∀ name, key = some name → isIdentityKey name = false := by
  cases key with
  | none => exact .inr ⟨rfl, nofun⟩
  | some key =>
      have plain : ¬ isSensitiveKey key = true := by
        rw [ordinary key rfl]
        exact Bool.false_ne_true
      rw [scrubChild, scrubEntry, if_neg plain]
      cases identity : isIdentityKey key with
      | true => exact .inl rfl
      | false =>
          refine .inr ⟨rfl, ?_⟩
          rintro name ⟨⟩
          exact identity

/-- A place is kept, and what stands there is framed. -/
theorem walk_scrubValue {value found : Value} {direct : Option String}
    {path : List Nat} {steps : List (Option String)}
    (plain : ∀ key, direct = some key → isIdentityKey key = false)
    (walked : value.walk path = some (steps, found)) (opened : Value.Open steps) :
    ∃ after, (scrubValue value).walk path = some (steps, after) ∧
      Framed (steps.getLastD direct) found after := by
  induction path generalizing value direct steps with
  | nil =>
      cases walked
      exact ⟨_, rfl, framed_scrubValue found plain⟩
  | cons position path induction =>
      obtain ⟨key, inner, later, rfl, here, walked⟩ :=
        Value.walk_cons_eq_some.mp walked
      have ordinary : ∀ name, key = some name → isSensitiveKey name = false :=
        fun name same => opened name (same ▸ List.mem_cons_self)
      have openLater : Value.Open later :=
        fun name inside => opened name (List.mem_cons_of_mem _ inside)
      have arrives : ∃ after,
          (scrubChild key inner).walk path = some (later, after) ∧
            Framed (later.getLastD key) found after := by
        rcases scrubChild_cases inner ordinary with same | ⟨same, plain⟩
        · rw [same]
          exact ⟨found, walked, .refl _ _⟩
        · rw [same]
          exact induction plain walked openLater
      obtain ⟨after, arrives, framed⟩ := arrives
      have moved : (scrubValue value).child position =
          some (key, scrubChild key inner) := by
        rw [child_scrubValue, here]
        rfl
      refine ⟨after, Value.walk_cons_eq_some.mpr
        ⟨key, _, later, rfl, moved, arrives⟩, ?_⟩
      rw [List.getLastD_cons]
      exact framed

/-- A place of the result was there before. -/
theorem walk_of_walk_scrubValue {value after : Value} {path : List Nat}
    {steps : List (Option String)}
    (walked : (scrubValue value).walk path = some (steps, after))
    (opened : Value.Open steps) :
    ∃ found, value.walk path = some (steps, found) := by
  induction path generalizing value steps with
  | nil =>
      cases walked
      exact ⟨value, rfl⟩
  | cons position path induction =>
      obtain ⟨key, _, later, rfl, moved, walked⟩ :=
        Value.walk_cons_eq_some.mp walked
      rw [child_scrubValue] at moved
      obtain ⟨⟨name, inner⟩, here, same⟩ := Option.map_eq_some_iff.mp moved
      cases same
      have ordinary : ∀ other, name = some other → isSensitiveKey other = false :=
        fun other same => opened other (same ▸ List.mem_cons_self)
      have arrives : ∃ found, inner.walk path = some (later, found) := by
        rcases scrubChild_cases inner ordinary with same | ⟨same, -⟩
        · exact ⟨after, same ▸ walked⟩
        · rw [same] at walked
          exact induction walked
            fun other inside => opened other (List.mem_cons_of_mem _ inside)
      obtain ⟨found, arrives⟩ := arrives
      exact ⟨found, Value.walk_cons_eq_some.mpr
        ⟨name, inner, later, rfl, here, arrives⟩⟩

/-- Scrubbing keeps all places that are not below a sensitive key and adds none;
at each of them it changes at most the text of a string. -/
theorem scrubValue_frame (value : Value) (path : List Nat)
    (steps : List (Option String)) :
    (∀ found, value.walk path = some (steps, found) → Value.Open steps →
        ∃ after, (scrubValue value).walk path = some (steps, after) ∧
          Framed (steps.getLastD none) found after) ∧
      ∀ after, (scrubValue value).walk path = some (steps, after) →
        Value.Open steps → ∃ found, value.walk path = some (steps, found) :=
  ⟨fun _ walked opened => walk_scrubValue nofun walked opened,
    fun _ walked opened => walk_of_walk_scrubValue walked opened⟩

end Frame

/-- A release name that could be a card number, two keys deep. -/
def taggedRelease : Value :=
  .object [("tags", .object [("release", .string "20260605054443")])]

theorem scrubValue_frame_release :
    ∃ after,
      (@scrubValue asciiTables taggedRelease).walk [0, 0] =
          some ([some "tags", some "release"], after) ∧
        @Framed asciiTables (some "release") (.string "20260605054443") after :=
  (@scrubValue_frame asciiTables taggedRelease [0, 0]
    [some "tags", some "release"]).1 (.string "20260605054443") rfl (by
      intro key inside
      simp only [List.mem_cons, Option.some.injEq, List.not_mem_nil, or_false] at inside
      rcases inside with rfl | rfl <;> decide)

end Allstak
