import Mathlib.Data.List.Nodup
import Allstak.Library.OrderedMap

/-!
# JSON values

The tree type of the JSON library the SDK serializes with.  An object is a
list of entries in key order; `Map.insert` is the only way the SDK adds one.
-/

namespace Allstak

/-- A JSON number: an unsigned or a negative integer, or the bits of a
finite double. -/
inductive Number where
  | posInt (value : UInt64)
  | negInt (value : Int64)
  | float (bits : UInt64)
  deriving DecidableEq

inductive Value where
  | null
  | bool (value : Bool)
  | number (value : Number)
  | string (value : String)
  | array (items : List Value)
  | object (entries : List (String × Value))

abbrev Map := List (String × Value)

namespace Map

def insert (map : Map) (key : String) (value : Value) : Map :=
  Library.OrderedMap.insert key value map

def get (map : Map) (key : String) : Option Value :=
  map.lookup key

end Map

namespace Value

def ofNat64 (value : UInt64) : Value := .number (.posInt value)

/-- A serialized record: every field that is present, under its wire name. -/
def record (fields : List (String × Option Value)) : Value :=
  .object (Library.OrderedMap.insertAll
    (fields.filterMap fun field => field.2.map fun value => (field.1, value)) [])

def asString? : Value → Option String
  | .string value => some value
  | _ => none

def asBool? : Value → Option Bool
  | .bool value => some value
  | _ => none

/-- An unsigned integer no greater than `limit`. -/
def asUnsigned? (limit : Nat) : Value → Option Nat
  | .number (.posInt value) => if value.toNat ≤ limit then some value.toNat else none
  | _ => none

def asArray? : Value → Option (List Value)
  | .array items => some items
  | _ => none

def asObject? : Value → Option Map
  | .object entries => some entries
  | _ => none

/-- The entry of an object under a key. -/
def get (value : Value) (key : String) : Option Value :=
  value.asObject?.bind fun map => map.get key

/-- A present field of a record is read back under its name. -/
theorem get_record {fields : List (String × Option Value)} {name : String}
    {value : Value} (distinct : (fields.map Prod.fst).Nodup)
    (present : (name, some value) ∈ fields) :
    (record fields).get name = some value := by
  have names : ((fields.filterMap fun field =>
      field.2.map fun value => (field.1, value)).map Prod.fst).Sublist
        (fields.map Prod.fst) := by
    clear distinct present
    induction fields with
    | nil => exact .slnil
    | cons field fields induction =>
        obtain ⟨key, content⟩ := field
        cases content with
        | none => exact induction.cons _
        | some content => exact induction.cons_cons _
  apply Library.OrderedMap.lookup_insertAll_of_mem (names.nodup distinct)
  exact List.mem_filterMap.mpr ⟨(name, some value), present, rfl⟩

/-- A field of a record is read back as it is, present or absent. -/
theorem get_record_field {fields : List (String × Option Value)}
    (distinct : (fields.map Prod.fst).Nodup) {field : String × Option Value}
    (member : field ∈ fields) : (record fields).get field.1 = field.2 := by
  obtain ⟨name, content⟩ := field
  cases content with
  | some value => exact get_record distinct member
  | none =>
      apply Library.OrderedMap.lookup_insertAll_of_notMem
      intro named
      obtain ⟨_, kept, same⟩ := List.mem_map.mp named
      obtain ⟨⟨other, content⟩, present, written⟩ := List.mem_filterMap.mp kept
      obtain ⟨value, rfl, rfl⟩ := Option.map_eq_some_iff.mp written
      have equal := List.inj_on_of_nodup_map distinct present member same
      cases congrArg Prod.snd equal

end Value

/-- The value stands somewhere in the tree as the entry of the key. -/
inductive Value.HasEntry (key : String) (entry : Value) : Value → Prop where
  | here {entries : Map} :
      (key, entry) ∈ entries → HasEntry key entry (.object entries)
  | within {entries : Map} {other : String} {value : Value} :
      (other, value) ∈ entries → HasEntry key entry value →
      HasEntry key entry (.object entries)
  | item {items : List Value} {value : Value} :
      value ∈ items → HasEntry key entry value →
      HasEntry key entry (.array items)

end Allstak
