import Allstak.TracingLayer

/-!
# The fields of an event

Every field of an event or a span goes to one place: a string named `message`
is the message, a field named `tags.` and something is a tag, and any other is
data.  A later field replaces an earlier one of the same place.
-/

namespace Allstak

namespace Tracing

def messageText (field : Field) : Option String :=
  if field.1 = "message" then field.2.toValue.asString? else none

def tagEntry (field : Field) : Option (String × String) :=
  (tagName field.1).map fun tag => (tag, field.2.tagText)

def dataEntry (field : Field) : Option (String × Value) :=
  if (messageText field).isSome || (tagName field.1).isSome then none
  else some (field.1, field.2.toValue)

theorem tagName_eq_some {name tag : String} :
    tagName name = some tag ↔ name = "tags." ++ tag := by
  rw [tagName]
  constructor
  · intro named
    split at named
    · rename_i starts
      obtain ⟨rest, same⟩ := List.isPrefixOf_iff_prefix.mp starts
      rw [Option.some.injEq] at named
      apply String.toList_inj.mp
      rw [← named, ← same]
      simp
    · cases named
  · rintro rfl
    simp

private theorem tagName_message : tagName "message" = none := by decide

/-- A field is recorded in its place alone. -/
theorem record_eq (visitor : FieldVisitor) (field : Field) :
    visitor.record field =
      { message := (messageText field).or visitor.message
        data :=
          Library.OrderedMap.insertAll (dataEntry field).toList visitor.data
        tags :=
          Library.OrderedMap.insertAll (tagEntry field).toList visitor.tags
            } := by
  obtain ⟨name, value⟩ := field
  have stored (noText : messageText (name, value) = none) :
      visitor.store (name, value) =
        { message := (messageText (name, value)).or visitor.message
          data := Library.OrderedMap.insertAll
            (dataEntry (name, value)).toList visitor.data
          tags := Library.OrderedMap.insertAll
            (tagEntry (name, value)).toList visitor.tags } := by
    rw [FieldVisitor.store, dataEntry, tagEntry, noText]
    dsimp only
    cases tagged : tagName name with
    | none => rfl
    | some tag => rfl
  rw [FieldVisitor.record]
  split
  · rename_i named
    change name = "message" at named
    subst named
    split
    · rename_i text written
      have noTag := tagName_message
      have isText : messageText ("message", value) = some text := by
        rw [messageText, if_pos rfl, written]
        rfl
      rw [dataEntry, tagEntry, isText, noTag]
      rfl
    · rename_i written
      apply stored
      rw [messageText, if_pos rfl]
      cases shape : value.toValue with
      | string text => exact (written text shape).elim
      | _ => rfl
  · rename_i other
    exact stored (if_neg other)

/-- The fields in the order they came, each in its place. -/
theorem visit_eq (fields : List Field) :
    FieldVisitor.visit fields =
      { message := (fields.filterMap messageText).getLast?
        data := Library.OrderedMap.insertAll (fields.filterMap dataEntry) []
        tags :=
          Library.OrderedMap.insertAll (fields.filterMap tagEntry) [] } := by
  induction fields using List.reverseRecOn with
  | nil => rfl
  | append_singleton fields field induction =>
      have visited : FieldVisitor.visit (fields ++ [field]) =
          (FieldVisitor.visit fields).record field := by
        simp [FieldVisitor.visit]
      have single {α : Type} (place : Field → Option α) :
          [field].filterMap place = (place field).toList := by
        cases found : place field <;> simp [found]
      rw [visited, record_eq, induction]
      simp only [List.filterMap_append, single, List.getLast?_append,
        Library.OrderedMap.insertAll, List.foldl_append]
      cases messageText field <;> rfl

theorem lookup_filterMap {α β : Type} (place : α → Option (String × β))
    (items : List α) (key : String) :
    (items.filterMap place).lookup key =
      items.findSome? fun item => (place item).bind fun entry =>
        if entry.1 = key then some entry.2 else none := by
  induction items with
  | nil => rfl
  | cons item items induction =>
      rw [List.filterMap_cons, List.findSome?_cons]
      cases placed : place item with
      | none => exact induction
      | some entry =>
          obtain ⟨name, content⟩ := entry
          rw [Option.bind_some]
          by_cases same : name = key
          · subst same
            simp
          · have test : (key == name) = false := by
              simpa using Ne.symm same
            rw [List.lookup_cons, test, if_neg same]
            exact induction

/-- Where a map of fields has its entry from. -/
theorem lookup_visited {α : Type} (place : Field → Option (String × α))
    (fields : List Field) (key : String) :
    (Library.OrderedMap.insertAll (fields.filterMap place) []).lookup key =
      fields.reverse.findSome? fun field => (place field).bind fun entry =>
        if entry.1 = key then some entry.2 else none := by
  rw [Library.OrderedMap.lookup_insertAll, ← List.filterMap_reverse,
    lookup_filterMap]
  simp

/-- What an event or a span takes from its fields, whatever they are: the last
string named `message`, the last field `tags.key` as the tag `key`, and the last
other field of a name as the data of that name.  There is no metadata exactly
when every field is a message or a tag. -/
theorem fields_read (fields : List Field) :
    let visitor := FieldVisitor.visit fields
    visitor.message = fields.reverse.findSome? messageText ∧
      (∀ key, visitor.tags.lookup key =
        fields.reverse.findSome? fun field =>
          if field.1 = "tags." ++ key then some field.2.tagText else none) ∧
      (∀ name, visitor.data.get name =
        fields.reverse.findSome? fun field =>
          if field.1 = name ∧ messageText field = none ∧ tagName name = none
            then
            some field.2.toValue
          else none) ∧
      (visitor.metadata = none ↔
        ∀ field ∈ fields, (messageText field).isSome ∨
          ∃ key, field.1 = "tags." ++ key) := by
  intro visitor
  have visited : visitor = _ := visit_eq fields
  refine ⟨?_, ?_, ?_, ?_⟩
  · rw [visited]
    exact List.getLast?_filterMap
  · intro key
    rw [visited]
    dsimp only
    rw [lookup_visited]
    apply congrArg fields.reverse.findSome?
    funext field
    rw [tagEntry]
    by_cases named : field.1 = "tags." ++ key
    · rw [if_pos named, tagName_eq_some.mpr named]
      simp
    · rw [if_neg named]
      cases tagged : tagName field.1 with
      | none => rfl
      | some tag =>
          have other : tag ≠ key := by
            rintro rfl
            exact named (tagName_eq_some.mp tagged)
          simp [other]
  · intro name
    rw [visited]
    dsimp only
    rw [Map.get, lookup_visited]
    apply congrArg fields.reverse.findSome?
    funext field
    rw [dataEntry]
    by_cases named : field.1 = name
    · subst named
      cases messageText field <;> cases tagName field.1 <;> simp
    · have apart : ¬ (field.1 = name ∧ messageText field = none ∧
          tagName name = none) := fun all => named all.1
      rw [if_neg apart]
      split <;> simp [named]
  · have empty : visitor.metadata = none ↔
        fields.filterMap dataEntry = [] := by
      rw [visited, FieldVisitor.metadata]
      simp [Library.OrderedMap.insertAll_eq_nil_iff]
    rw [empty, List.filterMap_eq_nil_iff]
    apply forall₂_congr
    intro field _
    have tagged : (∃ key, field.1 = "tags." ++ key) ↔
        (tagName field.1).isSome := by
      simp [Option.isSome_iff_exists, tagName_eq_some]
    rw [dataEntry, tagged]
    cases messageText field <;> cases tagName field.1 <;> simp

end Tracing

end Allstak
