import Mathlib.Algebra.GroupWithZero.Nat
import Mathlib.Data.List.Sort
import Allstak.Protocol
import Allstak.Transport.Deliver

/-!
# The offline spool

A directory of files, one for each stored envelope.  Replay and limit
enforcement both work on the listing of the spool's files in path order.  A
file also records which envelope it was written for; nothing the transport does
depends on that record.
-/

namespace Allstak

/-- An envelope the transport has to answer for: sent through it, or found in
the spool when it started. -/
inductive Item where
  | sent (id : Nat)
  | found (index : Nat)
  deriving DecidableEq

structure File where
  name : String
  content : Bytes
  item : Item
  deriving DecidableEq

/-- `Uuid::simple`: 32 lower-case hexadecimal digits. -/
def Uuid.simple (uuid : Uuid) : String :=
  String.ofList ((List.range 32).reverse.map fun place =>
    Nat.digitChar (uuid.toNat / 16 ^ place % 16))

def SPOOL_SUFFIX : String := ".allstak-spool.json"

def spoolFileName (nowMillis : Nat) (uuid : Uuid) : String :=
  toString nowMillis ++ "-" ++ Uuid.simple uuid ++ SPOOL_SUFFIX

def isSpoolName (name : String) : Bool :=
  decide (SPOOL_SUFFIX.toList <:+ name.toList)

/-- Session envelopes are never stored. -/
def isPersistable (path : String) : Bool :=
  path ≠ "/ingest/v1/sessions/start" && path ≠ "/ingest/v1/sessions/end"

def knownIngestPath : String → Option String
  | "/ingest/v1/errors" => some "/ingest/v1/errors"
  | "/ingest/v1/spans" => some "/ingest/v1/spans"
  | "/ingest/v1/logs" => some "/ingest/v1/logs"
  | "/ingest/v1/http-requests" => some "/ingest/v1/http-requests"
  | "/ingest/v1/db" => some "/ingest/v1/db"
  | "/ingest/v1/heartbeat" => some "/ingest/v1/heartbeat"
  | "/ingest/v1/releases" => some "/ingest/v1/releases"
  | "/ingest/v1/sessions/start" => some "/ingest/v1/sessions/start"
  | "/ingest/v1/sessions/end" => some "/ingest/v1/sessions/end"
  | _ => none

def categoryFromStr : String → Option DataCategory
  | "error" => some .error
  | "transaction" => some .transaction
  | "session" => some .session
  | "log" => some .log
  | "http_request" => some .httpRequest
  | "db" => some .db
  | "heartbeat" => some .heartbeat
  | "release" => some .release
  | _ => none

def Envelope.persisted (envelope : Envelope) : PersistedEnvelope :=
  { path := envelope.path
    category := envelope.category.asStr
    body := envelope.body }

def PersistedEnvelope.intoEnvelope (persisted : PersistedEnvelope) :
    Option Envelope := do
  let path ← knownIngestPath persisted.path
  let category ← categoryFromStr persisted.category
  return { path, category, body := persisted.body }

/-- The files of the spool in path order, with their sizes. -/
def filesWithSizes (directory : List File) : List (String × Nat) :=
  ((directory.filter fun file => isSpoolName file.name).map fun file =>
    (file.name, file.content.length)).insertionSort fun left right =>
      left.1 ≤ right.1

def spoolFiles (directory : List File) : List String :=
  (filesWithSizes directory).map Prod.fst

def readFile (directory : List File) (path : String) : Option Bytes :=
  (directory.find? fun file => file.name = path).map File.content

def loadFile (codec : Codec) (directory : List File) (path : String) :
    Option Envelope := do
  let content ← readFile directory path
  let persisted ← codec.persistedFromSlice content
  persisted.intoEnvelope

/-- The directory without the file. -/
def removeFile (directory : List File) (path : String) : List File :=
  directory.filter fun file => file.name ≠ path

/-- Apply an update to the file of this name, if it still exists. -/
def updateFile (directory : List File) (path : String) (update : File → File) :
    List File :=
  directory.map fun file => if file.name = path then update file else file

theorem names_updateFile (directory : List File) (path : String)
    (update : File → File) (kept : ∀ file, (update file).name = file.name) :
    (updateFile directory path update).map File.name =
      directory.map File.name := by
  rw [updateFile]
  rw [List.map_map]
  apply List.map_congr_left
  intro file _
  simp only [Function.comp_apply]
  split <;> simp [kept]

theorem mem_of_mem_removeFile {directory : List File} {path name : String}
    (member : name ∈ (removeFile directory path).map File.name) :
    name ∈ directory.map File.name := by
  obtain ⟨file, inside, rfl⟩ := List.mem_map.mp member
  exact List.mem_map_of_mem (List.mem_of_mem_filter inside)

theorem not_mem_removeFile (directory : List File) (path : String) :
    path ∉ (removeFile directory path).map File.name := by
  intro member
  obtain ⟨file, inside, same⟩ := List.mem_map.mp member
  have other := (List.mem_filter.mp inside).2
  simp [same] at other

theorem mem_of_loadFile {codec : Codec} {directory : List File} {path : String}
    {envelope : Envelope} (loaded : loadFile codec directory path = some envelope) :
    path ∈ directory.map File.name := by
  obtain ⟨content, read, _⟩ := Option.bind_eq_some_iff.mp loaded
  obtain ⟨file, found, _⟩ := Option.map_eq_some_iff.mp read
  have named : file.name = path := by
    simpa using List.find?_some found
  exact named ▸ List.mem_map_of_mem (List.mem_of_find?_eq_some found)

/-- The clamped limits of a spool. -/
structure EventSpool where
  maxEvents : Nat
  maxBytes : Nat
  eventsInRange : 1 ≤ maxEvents ∧ maxEvents ≤ 10000
  bytesInRange : 1 ≤ maxBytes ∧ maxBytes ≤ 1024 * 1024 * 1024

def EventSpool.fromOptions (maxEvents maxBytes : Nat) : EventSpool where
  maxEvents := min (max maxEvents 1) 10000
  maxBytes := min (max maxBytes 1) (1024 * 1024 * 1024)
  eventsInRange := by omega
  bytesInRange := by omega

/-- The first loop of `enforce_limits`: the files it removes and those left. -/
def removeExcess (maxEvents : Nat) :
    List (String × Nat) → List String × List (String × Nat)
  | [] => ([], [])
  | file :: files =>
      if maxEvents < files.length + 1 then
        let (removed, kept) := removeExcess maxEvents files
        (file.1 :: removed, kept)
      else ([], file :: files)

/-- The second loop, with the total size of the files left. -/
def removeOversize (maxBytes : Nat) : Nat → List (String × Nat) → List String
  | _, [] => []
  | total, file :: files =>
      if maxBytes < total then
        file.1 :: removeOversize maxBytes (total - file.2) files
      else []

/-- The files `enforce_limits` removes from a listing, in order. -/
def EventSpool.enforceLimits (spool : EventSpool) (files : List (String × Nat)) :
    List String :=
  let (removed, kept) := removeExcess spool.maxEvents files
  removed ++ removeOversize spool.maxBytes (kept.map Prod.snd).sum kept

/-- The listing keeps to both limits. -/
def EventSpool.Within (spool : EventSpool) (files : List (String × Nat)) : Prop :=
  files.length ≤ spool.maxEvents ∧ (files.map Prod.snd).sum ≤ spool.maxBytes

private theorem removeExcess_of_length_le {maxEvents : Nat}
    {files : List (String × Nat)} (few : files.length ≤ maxEvents) :
    removeExcess maxEvents files = ([], files) := by
  cases files with
  | nil => rfl
  | cons file files =>
      have notMore : ¬ maxEvents < files.length + 1 := by
        simpa using few
      rw [removeExcess, if_neg notMore]

private theorem removeOversize_of_le {maxBytes total : Nat}
    {files : List (String × Nat)} (small : total ≤ maxBytes) :
    removeOversize maxBytes total files = [] := by
  cases files with
  | nil => rfl
  | cons file files => rw [removeOversize, if_neg (Nat.not_lt.mpr small)]

/-- Nothing is removed from a listing within the limits. -/
theorem EventSpool.enforceLimits_of_within {spool : EventSpool}
    {files : List (String × Nat)} (within : spool.Within files) :
    spool.enforceLimits files = [] := by
  rw [EventSpool.enforceLimits]
  rw [removeExcess_of_length_le within.1]
  exact removeOversize_of_le within.2

theorem mem_spoolFiles_iff {directory : List File} {path : String} :
    path ∈ spoolFiles directory ↔
      isSpoolName path = true ∧ path ∈ directory.map File.name := by
  unfold spoolFiles filesWithSizes
  simp only [List.mem_map, List.mem_insertionSort, List.mem_filter]
  constructor
  · rintro ⟨listed, ⟨file, ⟨member, named⟩, rfl⟩, rfl⟩
    exact ⟨named, file, member, rfl⟩
  · rintro ⟨named, file, member, rfl⟩
    exact ⟨_, ⟨file, ⟨member, named⟩, rfl⟩, rfl⟩

theorem spoolFiles_nodup {directory : List File}
    (distinct : (directory.map File.name).Nodup) :
    (spoolFiles directory).Nodup := by
  unfold spoolFiles filesWithSizes
  have sorted :=
    (List.perm_insertionSort (fun left right : String × Nat => left.1 ≤ right.1)
      ((directory.filter fun file => isSpoolName file.name).map fun file =>
        (file.name, file.content.length))).map Prod.fst
  apply sorted.nodup_iff.mpr
  rw [List.map_map]
  exact (List.filter_sublist.map File.name).nodup distinct

end Allstak
