import Allstak.ScrubFrame
import Allstak.ScrubGuard

/-!
# Counting redactions

`REDACTION_COUNT` goes up while a value is scrubbed.  What it counts are places
of the value: the entries of sensitive keys and the strings that look sensitive,
as far as the scrubber gets to them.
-/

namespace Allstak

namespace Value

/-- The scrubber gets through these keys. -/
def Scanned (steps : List (Option String)) : Prop :=
  ∀ key, some key ∈ steps →
    isSensitiveKey key = false ∧ isIdentityKey key = false

theorem scanned_cons {key : Option String} {steps : List (Option String)} :
    Scanned (key :: steps) ↔ Scanned [key] ∧ Scanned steps := by
  unfold Scanned
  simp only [List.mem_cons, List.not_mem_nil, or_false]
  constructor
  · intro all
    exact ⟨fun name here => all name (.inl here),
      fun name later => all name (.inr later)⟩
  · rintro ⟨first, rest⟩ name (here | later)
    · exact first name here
    · exact rest name later

/-- The place is the entry of a sensitive key. -/
def KeyedAt (value : Value) (path : List Nat) : Prop :=
  ∃ steps key found, value.walk path = some (steps ++ [some key], found) ∧
    Scanned steps ∧ isSensitiveKey key = true

private theorem not_keyedAt_nil (value : Value) : ¬ value.KeyedAt [] := by
  rintro ⟨steps, key, found, walked, -⟩
  simp [walk] at walked

/-- A string that passes the test stands at the place. -/
def TextAt (test : String → Bool) (value : Value) (path : List Nat) :
    Prop :=
  ∃ steps text, value.walk path = some (steps, .string text) ∧
    Scanned steps ∧ test text = true

private theorem textAt_nil {test : String → Bool} {value : Value} :
    value.TextAt test [] ↔ ∃ text, value = .string text ∧ test text = true := by
  constructor
  · rintro ⟨steps, text, walked, -, passes⟩
    simp only [walk, Option.some.injEq, Prod.mk.injEq] at walked
    exact ⟨text, walked.2, passes⟩
  · rintro ⟨text, rfl, passes⟩
    exact ⟨[], text, rfl, by simp [Scanned], passes⟩

theorem keyedAt_cons {value : Value} {position : Nat} {path : List Nat} :
    value.KeyedAt (position :: path) ↔
      ∃ key inner, value.child position = some (key, inner) ∧
        ((∃ name, key = some name ∧ isSensitiveKey name = true ∧ path = []) ∨
          Scanned [key] ∧ inner.KeyedAt path) := by
  constructor
  · rintro ⟨steps, name, found, walked, scanned, sensitive⟩
    obtain ⟨key, inner, later, same, here, rest⟩ := walk_cons_eq_some.mp walked
    refine ⟨key, inner, here, ?_⟩
    cases steps with
    | nil =>
        simp only [List.nil_append, List.cons.injEq] at same
        obtain ⟨rfl, rfl⟩ := same
        left
        refine ⟨name, rfl, sensitive, ?_⟩
        cases path with
        | nil => rfl
        | cons next path =>
            obtain ⟨_, _, _, nothing, -⟩ := walk_cons_eq_some.mp rest
            cases nothing
    | cons step steps =>
        simp only [List.cons_append, List.cons.injEq] at same
        obtain ⟨rfl, rfl⟩ := same
        obtain ⟨first, others⟩ := scanned_cons.mp scanned
        exact .inr ⟨first, steps, name, found, rest, others, sensitive⟩
  · rintro ⟨key, inner, here, ⟨name, rfl, sensitive, rfl⟩ |
      ⟨first, steps, name, found, rest, others, sensitive⟩⟩
    · exact ⟨[], name, inner,
        walk_cons_eq_some.mpr ⟨_, inner, [], rfl, here, rfl⟩,
        by simp [Scanned], sensitive⟩
    · exact ⟨key :: steps, name, found,
        walk_cons_eq_some.mpr ⟨key, inner, _, rfl, here, rest⟩,
        scanned_cons.mpr ⟨first, others⟩, sensitive⟩

theorem textAt_cons {test : String → Bool} {value : Value} {position : Nat}
    {path : List Nat} :
    value.TextAt test (position :: path) ↔
      ∃ key inner, value.child position = some (key, inner) ∧
        Scanned [key] ∧ inner.TextAt test path := by
  constructor
  · rintro ⟨steps, text, walked, scanned, passes⟩
    obtain ⟨key, inner, later, rfl, here, rest⟩ := walk_cons_eq_some.mp walked
    obtain ⟨first, others⟩ := scanned_cons.mp scanned
    exact ⟨key, inner, here, first, later, text, rest, others, passes⟩
  · rintro ⟨key, inner, here, first, later, text, rest, others, passes⟩
    exact ⟨key :: later, text,
      walk_cons_eq_some.mpr ⟨key, inner, later, rfl, here, rest⟩,
      scanned_cons.mpr ⟨first, others⟩, passes⟩

end Value

/-- The places of one element and those of the elements after it differ in
their first position. -/
theorem nodup_append_places {position : Nat} {here later : List (List Nat)}
    (first : here.Nodup) (rest : later.Nodup)
    (beyond : ∀ path ∈ later, ∃ index tail, path = (position + 1 + index) ::
      tail) :
    (here.map (position :: ·) ++ later).Nodup := by
  apply List.nodup_append.mpr
  refine ⟨first.map fun _ _ same => (List.cons.inj same).2, rest, ?_⟩
  intro path inHere other inLater same
  obtain ⟨tail, -, rfl⟩ := List.mem_map.mp inHere
  obtain ⟨index, tail', at_⟩ := beyond other inLater
  rw [at_, List.cons.injEq] at same
  omega

section

variable [UnicodeTables]

/-- `scrub_string`, with the counter. -/
def scrubStringCounted (text : String) (count : Nat) : String × Nat :=
  let out := scrubString text
  (out, if out ≠ text then count + 1 else count)

mutual

/-- `scrub_value`, with the counter. -/
def scrubValueCounted : Value → Nat → Value × Nat
  | .string text, count =>
      if looksSensitive text then
        let (out, count) := scrubStringCounted text count
        (.string out, count)
      else (.string text, count)
  | .array items, count =>
      let (items, count) := scrubItemsCounted items count
      (.array items, count)
  | .object entries, count =>
      let (entries, count) := scrubEntriesCounted entries count
      (.object entries, count)
  | .null, count => (.null, count)
  | .bool value, count => (.bool value, count)
  | .number value, count => (.number value, count)

def scrubItemsCounted : List Value → Nat → List Value × Nat
  | [], count => ([], count)
  | item :: items, count =>
      let (item, count) := scrubValueCounted item count
      let (items, count) := scrubItemsCounted items count
      (item :: items, count)

def scrubEntriesCounted :
    List (String × Value) → Nat → List (String × Value) × Nat
  | [], count => ([], count)
  | (key, value) :: entries, count =>
      let (value, count) :=
        if isSensitiveKey key then (.string REDACTED, count + 1)
        else if isIdentityKey key then (value, count)
        else scrubValueCounted value count
      let (entries, count) := scrubEntriesCounted entries count
      ((key, value) :: entries, count)

end

/-- Whether the scrubber redacts at the place. -/
def Value.RedactedAt (value : Value) (path : List Nat) : Prop :=
  value.KeyedAt path ∨ value.TextAt looksSensitive path

mutual

/-- The places at which a value is redacted, in the order of the scrubber. -/
def redactions : Value → List (List Nat)
  | .string text => if looksSensitive text then [[]] else []
  | .array items => itemRedactions 0 items
  | .object entries => entryRedactions 0 entries
  | _ => []

def itemRedactions (position : Nat) : List Value → List (List Nat)
  | [] => []
  | item :: items =>
      (redactions item).map (position :: ·) ++
        itemRedactions (position + 1) items

def entryRedactions (position : Nat) :
    List (String × Value) → List (List Nat)
  | [] => []
  | (key, value) :: entries =>
      (if isSensitiveKey key then [[position]]
        else if isIdentityKey key then []
        else (redactions value).map (position :: ·)) ++
        entryRedactions (position + 1) entries

end

private theorem scrubStringCounted_eq {text : String} (count : Nat)
    (sensitive : looksSensitive text = true) :
    scrubStringCounted text count = (scrubString text, count + 1) := by
  have changed := (looksSensitive_iff_scrubString_ne text).1.mp sensitive
  simp [scrubStringCounted, changed]

mutual

theorem scrubValueCounted_eq (value : Value) (count : Nat) :
    scrubValueCounted value count =
      (scrubValue value, count + (redactions value).length) := by
  cases value with
  | null | bool | number => rfl
  | string text =>
      rw [scrubValueCounted, scrubValue, redactions]
      split
      · rename_i sensitive
        rw [scrubStringCounted_eq count sensitive]
        rfl
      · rfl
  | array items =>
      rw [scrubValueCounted, scrubItemsCounted_eq items 0, scrubValue,
        redactions]
  | object entries =>
      rw [scrubValueCounted, scrubEntriesCounted_eq entries 0, scrubValue,
        redactions]

theorem scrubItemsCounted_eq (items : List Value) (position : Nat)
    (count : Nat) :
    scrubItemsCounted items count =
      (scrubItems items, count + (itemRedactions position items).length) := by
  cases items with
  | nil => rfl
  | cons item items =>
      rw [scrubItemsCounted, scrubValueCounted_eq item, scrubItems,
        itemRedactions]
      simp only [scrubItemsCounted_eq items (position + 1), List.length_append,
        List.length_map, Nat.add_assoc]

theorem scrubEntriesCounted_eq (entries : List (String × Value))
    (position : Nat) (count : Nat) :
    scrubEntriesCounted entries count =
      (scrubEntries entries,
        count + (entryRedactions position entries).length) := by
  cases entries with
  | nil => rfl
  | cons entry entries =>
      obtain ⟨key, value⟩ := entry
      rw [scrubEntriesCounted, scrubEntries, entryRedactions]
      by_cases sensitive : isSensitiveKey key = true
      · simp only [sensitive, if_true,
          scrubEntriesCounted_eq entries (position + 1), List.length_append,
          List.length_singleton, Nat.add_assoc]
      · by_cases identity : isIdentityKey key = true
        · simp only [sensitive, identity, if_true, Bool.false_eq_true, if_false,
            scrubEntriesCounted_eq entries (position + 1), List.nil_append]
        · simp only [sensitive, identity, Bool.false_eq_true, if_false,
            scrubValueCounted_eq value,
            scrubEntriesCounted_eq entries (position + 1), List.length_append,
            List.length_map, Nat.add_assoc]

end

/-- The places of a value that stands directly under a key, or under none. -/
def childRedactions (key : Option String) (inner : Value) : List (List Nat) :=
  match key with
  | none => redactions inner
  | some key =>
      if isSensitiveKey key then [[]]
      else if isIdentityKey key then []
      else redactions inner

theorem mem_itemRedactions {items : List Value} {base : Nat}
    {path : List Nat} :
    path ∈ itemRedactions base items ↔
      ∃ index item rest, items[index]? = some item ∧
        path = (base + index) :: rest ∧ rest ∈ redactions item := by
  induction items generalizing base with
  | nil => simp [itemRedactions]
  | cons item items induction =>
      rw [itemRedactions, List.mem_append, induction, List.mem_map]
      constructor
      · rintro (⟨rest, member, rfl⟩ | ⟨index, later, rest, found, rfl, member⟩)
        · exact ⟨0, item, rest, rfl, rfl, member⟩
        · refine ⟨index + 1, later, rest, found, ?_, member⟩
          rw [Nat.add_right_comm, Nat.add_assoc]
      · rintro ⟨index, found, rest, at_, rfl, member⟩
        cases index with
        | zero =>
            cases at_
            exact .inl ⟨rest, member, rfl⟩
        | succ index =>
            refine .inr ⟨index, found, rest, at_, ?_, member⟩
            rw [Nat.add_right_comm, Nat.add_assoc]

theorem mem_entryRedactions {entries : List (String × Value)} {base : Nat}
    {path : List Nat} :
    path ∈ entryRedactions base entries ↔
      ∃ index entry rest, entries[index]? = some entry ∧
        path = (base + index) :: rest ∧
        rest ∈ childRedactions (some entry.1) entry.2 := by
  induction entries generalizing base with
  | nil => simp [entryRedactions]
  | cons entry entries induction =>
      obtain ⟨key, value⟩ := entry
      have here : (if isSensitiveKey key then [[base]]
          else if isIdentityKey key then []
          else (redactions value).map (base :: ·)) =
            (childRedactions (some key) value).map (base :: ·) := by
        by_cases sensitive : isSensitiveKey key = true
        · simp [childRedactions, sensitive]
        · by_cases identity : isIdentityKey key = true
          · simp [childRedactions, sensitive, identity]
          · simp [childRedactions, sensitive, identity]
      rw [entryRedactions, here, List.mem_append, induction, List.mem_map]
      constructor
      · rintro (⟨rest, member, rfl⟩ | ⟨index, later, rest, found, rfl, member⟩)
        · exact ⟨0, (key, value), rest, rfl, rfl, member⟩
        · refine ⟨index + 1, later, rest, found, ?_, member⟩
          rw [Nat.add_right_comm, Nat.add_assoc]
      · rintro ⟨index, found, rest, at_, rfl, member⟩
        cases index with
        | zero =>
            cases at_
            exact .inl ⟨rest, member, rfl⟩
        | succ index =>
            refine .inr ⟨index, found, rest, at_, ?_, member⟩
            rw [Nat.add_right_comm, Nat.add_assoc]

theorem mem_redactions_nil {value : Value} :
    [] ∈ redactions value ↔
      ∃ text, value = .string text ∧ looksSensitive text = true := by
  cases value with
  | string text =>
      rw [redactions]
      by_cases sensitive : looksSensitive text = true
      · simp [sensitive]
      · simp [sensitive]
  | array items => simp [redactions, mem_itemRedactions]
  | object entries => simp [redactions, mem_entryRedactions]
  | null | bool | number => simp [redactions]

theorem mem_redactions_cons {value : Value} {position : Nat} {path : List Nat} :
    position :: path ∈ redactions value ↔
      ∃ key inner, value.child position = some (key, inner) ∧
        path ∈ childRedactions key inner := by
  cases value with
  | string text =>
      rw [redactions]
      split <;> simp [Value.child]
  | array items =>
      simp only [redactions, mem_itemRedactions, Value.child, Nat.zero_add]
      constructor
      · rintro ⟨index, inner, rest, found, same, member⟩
        cases same
        exact ⟨none, inner, by rw [found]; rfl, member⟩
      · rintro ⟨key, inner, found, member⟩
        obtain ⟨item, at_, same⟩ := Option.map_eq_some_iff.mp found
        cases same
        exact ⟨position, inner, path, at_, rfl, member⟩
  | object entries =>
      simp only [redactions, mem_entryRedactions, Value.child, Nat.zero_add]
      constructor
      · rintro ⟨index, entry, rest, found, same, member⟩
        cases same
        exact ⟨some entry.1, entry.2, by rw [found]; rfl, member⟩
      · rintro ⟨key, inner, found, member⟩
        obtain ⟨entry, at_, same⟩ := Option.map_eq_some_iff.mp found
        cases same
        exact ⟨position, entry, path, at_, rfl, member⟩
  | null | bool | number => simp [redactions, Value.child]

theorem mem_childRedactions {key : Option String} {inner : Value}
    {path : List Nat} :
    path ∈ childRedactions key inner ↔
      (∃ name, key = some name ∧ isSensitiveKey name = true ∧ path = []) ∨
        Value.Scanned [key] ∧ path ∈ redactions inner := by
  cases key with
  | none => simp [childRedactions, Value.Scanned]
  | some name =>
      by_cases sensitive : isSensitiveKey name = true
      · simp [childRedactions, Value.Scanned, sensitive]
      · by_cases identity : isIdentityKey name = true
        · simp [childRedactions, Value.Scanned, sensitive, identity]
        · simp [childRedactions, Value.Scanned, sensitive, identity]

theorem mem_redactions_iff {value : Value} {path : List Nat} :
    path ∈ redactions value ↔ value.RedactedAt path := by
  induction path generalizing value with
  | nil =>
      rw [mem_redactions_nil, Value.RedactedAt, Value.textAt_nil]
      simp [value.not_keyedAt_nil]
  | cons position path induction =>
      rw [mem_redactions_cons, Value.RedactedAt, Value.keyedAt_cons,
        Value.textAt_cons]
      constructor
      · rintro ⟨key, inner, here, member⟩
        rcases mem_childRedactions.mp member with keyed | ⟨scanned, inside⟩
        · exact .inl ⟨key, inner, here, .inl keyed⟩
        · rcases induction.mp inside with keyed | text
          · exact .inl ⟨key, inner, here, .inr ⟨scanned, keyed⟩⟩
          · exact .inr ⟨key, inner, here, scanned, text⟩
      · rintro (⟨key, inner, here, keyed | ⟨scanned, keyed⟩⟩ |
          ⟨key, inner, here, scanned, text⟩)
        · exact ⟨key, inner, here, mem_childRedactions.mpr (.inl keyed)⟩
        · exact ⟨key, inner, here,
            mem_childRedactions.mpr (.inr
              ⟨scanned, induction.mpr (.inl keyed)⟩)⟩
        · exact ⟨key, inner, here,
            mem_childRedactions.mpr (.inr ⟨scanned, induction.mpr (.inr text)⟩)⟩

mutual

theorem nodup_redactions (value : Value) : (redactions value).Nodup := by
  cases value with
  | null | bool | number => exact List.nodup_nil
  | string text =>
      rw [redactions]
      split <;> simp
  | array items =>
      rw [redactions]
      exact nodup_itemRedactions items 0
  | object entries =>
      rw [redactions]
      exact nodup_entryRedactions entries 0

theorem nodup_itemRedactions (items : List Value) (position : Nat) :
    (itemRedactions position items).Nodup := by
  cases items with
  | nil => exact List.nodup_nil
  | cons item items =>
      apply nodup_append_places (nodup_redactions item)
        (nodup_itemRedactions items (position + 1))
      intro path member
      obtain ⟨index, _, tail, _, same, _⟩ := mem_itemRedactions.mp member
      exact ⟨index, tail, same⟩

theorem nodup_entryRedactions (entries : List (String × Value))
    (position : Nat) : (entryRedactions position entries).Nodup := by
  cases entries with
  | nil => exact List.nodup_nil
  | cons entry entries =>
      obtain ⟨key, value⟩ := entry
      have beyond : ∀ path ∈ entryRedactions (position + 1) entries,
          ∃ index tail, path = (position + 1 + index) :: tail := by
        intro path member
        obtain ⟨index, _, tail, _, same, _⟩ := mem_entryRedactions.mp member
        exact ⟨index, tail, same⟩
      have later := nodup_entryRedactions entries (position + 1)
      rw [entryRedactions]
      by_cases sensitive : isSensitiveKey key = true
      · rw [if_pos sensitive]
        exact nodup_append_places (List.nodup_singleton []) later beyond
      · rw [if_neg sensitive]
        split
        · exact later
        · exact nodup_append_places (nodup_redactions value) later beyond

end

/-- The scrubber leaves nothing but the marker under a sensitive key, and gets
through every other key as before. -/
theorem scrubChild_of_scanned {key : Option String} (inner : Value)
    (scanned : Value.Scanned [key]) : scrubChild key inner = scrubValue
      inner := by
  cases key with
  | none => rfl
  | some name =>
      obtain ⟨ordinary, plain⟩ := scanned name (by simp)
      simp [scrubChild, scrubEntry, ordinary, plain]

theorem keyedAt_scrubValue {value : Value} {path : List Nat} :
    (scrubValue value).KeyedAt path ↔ value.KeyedAt path := by
  induction path generalizing value with
  | nil => simp [Value.not_keyedAt_nil]
  | cons position path induction =>
      rw [Value.keyedAt_cons, Value.keyedAt_cons, child_scrubValue]
      constructor
      · rintro ⟨key, _, found, rest⟩
        obtain ⟨⟨name, inner⟩, here, same⟩ := Option.map_eq_some_iff.mp found
        cases same
        refine ⟨name, inner, here, ?_⟩
        rcases rest with keyed | ⟨scanned, inside⟩
        · exact .inl keyed
        · rw [scrubChild_of_scanned inner scanned] at inside
          exact .inr ⟨scanned, induction.mp inside⟩
      · rintro ⟨key, inner, here, rest⟩
        refine ⟨key, scrubChild key inner, by rw [here]; rfl, ?_⟩
        rcases rest with keyed | ⟨scanned, inside⟩
        · exact .inl keyed
        · rw [scrubChild_of_scanned inner scanned]
          exact .inr ⟨scanned, induction.mpr inside⟩

theorem textAt_scrubValue {test : String → Bool} {value : Value}
    {path : List Nat} :
    (scrubValue value).TextAt test path ↔
      value.TextAt (fun text => test (scrubString text)) path := by
  induction path generalizing value with
  | nil =>
      rw [Value.textAt_nil, Value.textAt_nil]
      have content (text : String) :
          scrubValue (.string text) = .string (scrubString text) :=
        (looksSensitive_iff_scrubString_ne text).2
      constructor
      · rintro ⟨text, same, passes⟩
        cases value with
        | string original =>
            rw [content, Value.string.injEq] at same
            exact ⟨original, rfl, same ▸ passes⟩
        | array items =>
            rw [scrubValue] at same
            cases same
        | object entries =>
            rw [scrubValue] at same
            cases same
        | null | bool | number => cases same
      · rintro ⟨text, rfl, passes⟩
        exact ⟨scrubString text, content text, passes⟩
  | cons position path induction =>
      rw [Value.textAt_cons, Value.textAt_cons, child_scrubValue]
      constructor
      · rintro ⟨key, _, found, scanned, inside⟩
        obtain ⟨⟨name, inner⟩, here, same⟩ := Option.map_eq_some_iff.mp found
        cases same
        rw [scrubChild_of_scanned inner scanned] at inside
        exact ⟨name, inner, here, scanned, induction.mp inside⟩
      · rintro ⟨key, inner, here, scanned, inside⟩
        refine ⟨key, scrubChild key inner, by rw [here]; rfl, scanned, ?_⟩
        rw [scrubChild_of_scanned inner scanned]
        exact induction.mpr inside

/-- The counter goes up by one for each place that is redacted: the outermost
entries of sensitive keys, and the sensitive strings outside all sensitive and
identity keys.  Scrubbing the result once more counts the entries of sensitive
keys a second time, and of the strings those that are still sensitive. -/
theorem redactions_counted (value : Value) (count : Nat) :
    scrubValueCounted value count =
        (scrubValue value, count + (redactions value).length) ∧
      (redactions value).Nodup ∧
      (∀ path, path ∈ redactions value ↔ value.RedactedAt path) ∧
      ∀ path, path ∈ redactions (scrubValue value) ↔
        value.KeyedAt path ∨
          value.TextAt (fun text => looksSensitive (scrubString text)) path :=
            by
  refine ⟨scrubValueCounted_eq value count, nodup_redactions value,
    fun _ => mem_redactions_iff, ?_⟩
  intro path
  rw [mem_redactions_iff, Value.RedactedAt, keyedAt_scrubValue,
    textAt_scrubValue]

end

end Allstak
