import Allstak.Scope

/-!
# What an event keeps under a scope

Laying a scope over an event fills in what the event leaves open.  The metadata
is rebuilt on the way, from an object or from nothing, so metadata of another
kind is lost with every scope.
-/

namespace Allstak

namespace Scope

/-- The scope has an item of its own under the key. -/
def SetsItem (scope : Scope) (key : String) : Prop :=
  (key = "tags" ∧ scope.tags ≠ []) ∨
    (key = "extra" ∧ scope.extra ≠ []) ∨
    (key = "contexts" ∧ scope.contexts ≠ []) ∨
    (key = "fingerprint" ∧ scope.fingerprint ≠ none) ∨
    (key = "transaction" ∧ scope.transaction ≠ none)

/-- A scope with nothing to lay over an event. -/
structure Unset (scope : Scope) : Prop where
  user : scope.user = none
  traceId : scope.traceId = none
  level : scope.level = none
  breadcrumbs : scope.breadcrumbs = []
  items : ∀ key, ¬ scope.SetsItem key

/-- An object keeps the entries the scope has no item for, and any other value
is kept as it is. -/
def KeepsMetadata (scope : Scope) (result : Option Value) : Option Value → Prop
  | none => True
  | some (.object entries) =>
      ∀ key value, Map.get entries key = some value → ¬ scope.SetsItem key →
        (result.bind fun metadata => metadata.get key) = some value
  | some metadata => result = some metadata

/-- What the event carries is still there. -/
structure Keeps (scope : Scope) (event result : ErrorEvent) : Prop where
  user : ∀ user, event.user = some user → result.user = some user
  traceId : ∀ id, event.traceId = some id → result.traceId = some id
  level : ∀ level, event.level = some level → result.level = some level
  breadcrumbs : ∀ own, event.breadcrumbs = some own →
    ∃ earlier, result.breadcrumbs = some (earlier ++ own)
  metadata : scope.KeepsMetadata result.metadata event.metadata
  others : result =
    { event with
      user := result.user
      traceId := result.traceId
      level := result.level
      breadcrumbs := result.breadcrumbs
      metadata := result.metadata }
  unset : scope.Unset → event.metadata ≠ none →
    event.metadata ≠ some (.object []) → result = event

/-- An entry that is made of something there. -/
theorem eq_of_mem_item {empty : Bool} {item entry : String × Value}
    (member : entry ∈ if empty then [] else [item]) :
    empty = false ∧ entry = item := by
  cases empty with
  | true => cases member
  | false => exact ⟨rfl, List.mem_singleton.mp member⟩

private theorem eq_of_mem_option {content : Option α}
    {item : α → String × Value}
    {entry : String × Value} (member : entry ∈ content.toList.map item) :
    ∃ value, content = some value ∧ entry = item value := by
  obtain ⟨value, set, same⟩ := List.mem_map.mp member
  exact ⟨value, Option.mem_toList.mp set, same.symm⟩

theorem setsItem_of_mem {scope : Scope} {key : String}
    (member : key ∈ scope.metadataEntries.map Prod.fst) : scope.SetsItem key := by
  obtain ⟨entry, listed, rfl⟩ := List.mem_map.mp member
  simp only [metadataEntries, List.mem_append] at listed
  rcases listed with (((tags | extra) | contexts) | fingerprint) | transaction
  · obtain ⟨filled, rfl⟩ := eq_of_mem_item tags
    exact .inl ⟨rfl, List.isEmpty_eq_false_iff.mp filled⟩
  · obtain ⟨filled, rfl⟩ := eq_of_mem_item extra
    exact .inr (.inl ⟨rfl, List.isEmpty_eq_false_iff.mp filled⟩)
  · obtain ⟨filled, rfl⟩ := eq_of_mem_item contexts
    exact .inr (.inr (.inl ⟨rfl, List.isEmpty_eq_false_iff.mp filled⟩))
  · obtain ⟨parts, set, rfl⟩ := eq_of_mem_option fingerprint
    refine .inr (.inr (.inr (.inl ⟨rfl, ?_⟩)))
    rw [set]
    exact Option.some_ne_none parts
  · obtain ⟨name, set, rfl⟩ := eq_of_mem_option transaction
    refine .inr (.inr (.inr (.inr ⟨rfl, ?_⟩)))
    rw [set]
    exact Option.some_ne_none name

/-- The merge gives an object or nothing. -/
theorem mergeMetadata_object {scope : Scope} {metadata : Option Value}
    {value : Value} (merged : scope.mergeMetadata metadata = some value) :
    ∃ entries, value = .object entries := by
  have result : ∃ entries : Map, scope.mergeMetadata metadata =
      if entries.isEmpty then none else some (.object entries) := ⟨_, rfl⟩
  obtain ⟨entries, result⟩ := result
  rw [result] at merged
  split at merged
  · cases merged
  · exact ⟨entries, (Option.some.inj merged).symm⟩

/-- The scope's items are merged into an object. -/
theorem mergeMetadata_entries (scope : Scope) (entries : Map) :
    scope.mergeMetadata (some (.object entries)) =
      if (Library.OrderedMap.insertAll scope.metadataEntries entries).isEmpty then
        none
      else
        some (.object
          (Library.OrderedMap.insertAll scope.metadataEntries entries)) :=
  rfl

theorem mergeMetadata_get (scope : Scope) (entries : Map) (key : String) :
    ((scope.mergeMetadata (some (.object entries))).bind
        fun metadata => metadata.get key) =
      (Library.OrderedMap.insertAll scope.metadataEntries entries).lookup key := by
  rw [mergeMetadata_entries]
  split
  · rename_i empty
    rw [List.isEmpty_iff.mp empty]
    rfl
  · rfl

private theorem mergeMetadata_keeps (scope : Scope) (entries : Map) :
    scope.KeepsMetadata (scope.mergeMetadata (some (.object entries)))
      (some (.object entries)) := by
  intro key value carried free
  rw [mergeMetadata_get, Library.OrderedMap.lookup_insertAll_of_notMem]
  · exact carried
  · intro member
    exact free (setsItem_of_mem member)

namespace Unset

variable {scope : Scope}

theorem metadataEntries (unset : scope.Unset) : scope.metadataEntries = [] := by
  cases entries : scope.metadataEntries with
  | nil => rfl
  | cons entry rest =>
      apply absurd _ (unset.items entry.1)
      apply setsItem_of_mem
      rw [entries]
      exact List.mem_cons_self

theorem mergeMetadata (unset : scope.Unset) {entries : Map}
    (filled : entries ≠ []) :
    scope.mergeMetadata (some (.object entries)) = some (.object entries) := by
  rw [mergeMetadata_entries, unset.metadataEntries]
  apply if_neg
  rw [List.isEmpty_iff]
  exact filled

theorem applyToEvent (unset : scope.Unset) {event : ErrorEvent}
    (merged : scope.mergeMetadata event.metadata = event.metadata) :
    scope.applyToEvent event = event := by
  rw [Scope.applyToEvent, unset.user, unset.traceId, unset.level,
    unset.breadcrumbs, merged]
  cases event
  simp

end Unset

theorem applyToEvent_breadcrumbs (scope : Scope) {event : ErrorEvent}
    {own : List Breadcrumb} (carried : event.breadcrumbs = some own) :
    ∃ earlier, (scope.applyToEvent event).breadcrumbs =
      some (earlier ++ own) := by
  rw [applyToEvent, carried]
  dsimp only
  split
  · exact ⟨[], rfl⟩
  · exact ⟨scope.breadcrumbs, rfl⟩

/-- The event keeps what it carries if and only if its metadata, where it has
any, is an object. -/
theorem applyToEvent_keeps_iff (scope : Scope) (event : ErrorEvent) :
    scope.Keeps event (scope.applyToEvent event) ↔
      ∀ metadata, event.metadata = some metadata →
        ∃ entries, metadata = .object entries := by
  constructor
  · intro keeps metadata carried
    have kept := keeps.metadata
    rw [carried] at kept
    cases metadata with
    | object entries => exact ⟨entries, rfl⟩
    | null | bool | number | string | array =>
        exact mergeMetadata_object kept
  · intro objects
    constructor
    · intro user carried
      rw [applyToEvent, carried]
      rfl
    · intro id carried
      rw [applyToEvent, carried]
      rfl
    · intro level carried
      rw [applyToEvent, carried]
      rfl
    · intro own carried
      exact scope.applyToEvent_breadcrumbs carried
    · change scope.KeepsMetadata (scope.mergeMetadata event.metadata) _
      cases carried : event.metadata with
      | none => trivial
      | some metadata =>
          obtain ⟨entries, rfl⟩ := objects metadata carried
          exact scope.mergeMetadata_keeps entries
    · rfl
    · intro unset present filled
      apply unset.applyToEvent
      cases carried : event.metadata with
      | none => exact absurd carried present
      | some metadata =>
          obtain ⟨entries, rfl⟩ := objects metadata carried
          apply unset.mergeMetadata
          rintro rfl
          exact filled carried

/-- An event with a note for metadata. -/
def noted : ErrorEvent :=
  { eventId := 1
    exceptionClass := "E"
    message := "m"
    metadata := some (.string "seen before") }

/-- The note is lost under an empty scope. -/
theorem empty_scope_drops_note :
    (new 100).Unset ∧ ((new 100).applyToEvent noted).metadata = none ∧
      ¬ (new 100).Keeps noted ((new 100).applyToEvent noted) := by
  have unset : (new 100).Unset := by
    constructor
    · rfl
    · rfl
    · rfl
    · rfl
    · intro key
      simp [SetsItem, new]
  refine ⟨unset, rfl, ?_⟩
  intro keeps
  cases keeps.metadata

end Scope

end Allstak
