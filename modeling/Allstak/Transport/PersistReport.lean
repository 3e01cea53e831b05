import Allstak.Transport.Eviction
import Allstak.Transport.SpoolRoundTrip

/-!
# What `persist` reports

`EventSpool::persist` answers whether the envelope is in the spool.  It decides
this by the write alone: the limits are enforced after it and may take the file
it has just written, and a write that fails leaves behind what was written
before.
-/

namespace Allstak

/-- What the file system, the clock and the generator of uuids do in a call. -/
structure FileAnswers where
  dirReady : Bool
  /-- The name drawn, or no file could be created. -/
  created : Option (Nat × Uuid)
  /-- The write fails after so many bytes. -/
  failedAfter : Option Nat

/-- `fs::write`: the file is truncated, or created. -/
def writeFile (directory : List File) (path : String) (content : Bytes)
    (item : Item) : List File :=
  if path ∈ directory.map File.name then
    updateFile directory path fun file => { file with content }
  else directory ++ [{ name := path, content, item }]

/-- `EventSpool::persist` while nobody else touches the directory and every
removal succeeds: its report and the directory after it. -/
def persist (codec : Codec) (spool : EventSpool) (directory : List File)
    (envelope : Envelope) (item : Item) (answers : FileAnswers) :
    Bool × List File :=
  if !isPersistable envelope.path || !answers.dirReady then (false, directory)
  else
    match codec.persistedToVec envelope.persisted with
    | none => (false, directory)
    | some content =>
        match answers.created with
        | none => (false, directory)
        | some (nowMillis, uuid) =>
            let path := spoolFileName nowMillis uuid
            match answers.failedAfter with
            | some written =>
                (false, writeFile directory path (content.take written) item)
            | none =>
                (true,
                  enforceLimits spool.maxEvents spool.maxBytes
                    (writeFile directory path content item))

theorem readFile_eq_some_iff {directory : List File}
    (distinct : (directory.map File.name).Nodup) {path : String}
    {content : Bytes} :
    readFile directory path = some content ↔
      ∃ file ∈ directory, file.name = path ∧ file.content = content := by
  rw [readFile, Option.map_eq_some_iff]
  constructor
  · rintro ⟨file, found, same⟩
    have named := List.find?_some found
    exact ⟨file, List.mem_of_find?_eq_some found, of_decide_eq_true named, same⟩
  · rintro ⟨file, member, named, same⟩
    refine ⟨file, ?_, same⟩
    cases found : directory.find? fun other => other.name = path with
    | none =>
        have other := List.find?_eq_none.mp found file member
        exact absurd (decide_eq_true named) other
    | some other =>
        have chosen := List.find?_some found
        have otherNamed : other.name = path := of_decide_eq_true chosen
        rw [List.inj_on_of_nodup_map distinct (List.mem_of_find?_eq_some found)
          member (otherNamed.trans named.symm)]

theorem names_writeFile (directory : List File) (path : String)
    (content : Bytes) (item : Item) :
    (writeFile directory path content item).map File.name =
      if path ∈ directory.map File.name then directory.map File.name
      else directory.map File.name ++ [path] := by
  rw [writeFile]
  split
  · exact names_updateFile directory path _ fun _ => rfl
  · rw [List.map_append]
    rfl

theorem distinct_writeFile {directory : List File}
    (distinct : (directory.map File.name).Nodup) (path : String)
    (content : Bytes) (item : Item) :
    ((writeFile directory path content item).map File.name).Nodup := by
  rw [names_writeFile]
  split
  · exact distinct
  · rename_i fresh
    refine List.nodup_append.mpr ⟨distinct, List.nodup_singleton _, ?_⟩
    intro name old other new
    rw [List.mem_singleton.mp new]
    rintro rfl
    exact fresh old

/-- A written file is read back. -/
theorem readFile_writeFile (directory : List File) (path : String)
    (content : Bytes) (item : Item) :
    readFile (writeFile directory path content item) path = some content := by
  rw [writeFile]
  split
  · rename_i present
    exact readFile_updateFile present
  · rename_i fresh
    rw [readFile, List.find?_append]
    have absent : directory.find? (fun file => file.name = path) = none := by
      apply List.find?_eq_none.mpr
      intro file member same
      exact fresh (List.mem_map.mpr ⟨file, member, of_decide_eq_true same⟩)
    simp [absent]

theorem readFile_updateFile_other {directory : List File} {path other : String}
    (different : other ≠ path) (content : Bytes) :
    readFile (updateFile directory path fun file => { file with content })
        other = readFile directory other := by
  rw [readFile, readFile, updateFile]
  induction directory with
  | nil => rfl
  | cons file files induction =>
      rw [List.map_cons, List.find?_cons, List.find?_cons]
      by_cases same : file.name = path
      · have skipped : file.name ≠ other := fun equal =>
          different (equal.symm.trans same)
        simp only [same, if_true]
        rw [same] at skipped
        simp only [skipped, decide_false]
        exact induction
      · simp only [same, if_false]
        by_cases equal : file.name = other
        · simp [equal]
        · simp only [equal, decide_false]
          exact induction

theorem readFile_writeFile_other {directory : List File} {path other : String}
    (different : other ≠ path) (content : Bytes) (item : Item) :
    readFile (writeFile directory path content item) other =
      readFile directory other := by
  rw [writeFile]
  split
  · exact readFile_updateFile_other different content
  · rw [readFile, readFile, List.find?_append]
    cases directory.find? fun file => file.name = other with
    | some file => rfl
    | none => simp [different.symm]

/-- A report of true finds the whole envelope in the spool, one of false the
spool as it was. -/
def Truthful (codec : Codec) (envelope : Envelope) (before : List File) :
    Bool × List File → Prop
  | (true, after) =>
      ∃ path content, isSpoolName path = true ∧
        codec.persistedToVec envelope.persisted = some content ∧
        readFile after path = some content
  | (false, after) =>
      ∀ path, isSpoolName path = true → readFile after path = readFile before path

/-- Once a file is created, the write fails only where it changes nothing, and
after it some file with the content, together with the files that sort after it,
keeps to the limits. -/
def Lasting (codec : Codec) (spool : EventSpool) (directory : List File)
    (envelope : Envelope) (item : Item) (answers : FileAnswers) : Prop :=
  ∀ content nowMillis uuid,
    isPersistable envelope.path = true → answers.dirReady = true →
    codec.persistedToVec envelope.persisted = some content →
    answers.created = some (nowMillis, uuid) →
    match answers.failedAfter with
    | some written =>
        readFile directory (spoolFileName nowMillis uuid) =
          some (content.take written)
    | none =>
        ∃ path, isSpoolName path = true ∧
          readFile (writeFile directory (spoolFileName nowMillis uuid) content
            item) path = some content ∧
          Fits spool.maxEvents spool.maxBytes
            (writeFile directory (spoolFileName nowMillis uuid) content item)
            path

theorem lasting_iff {codec : Codec} {spool : EventSpool}
    {directory : List File} {envelope : Envelope} {item : Item}
    {answers : FileAnswers} {content : Bytes} {nowMillis : Nat} {uuid : Uuid}
    (accepted : isPersistable envelope.path = true)
    (ready : answers.dirReady = true)
    (encoded : codec.persistedToVec envelope.persisted = some content)
    (created : answers.created = some (nowMillis, uuid)) :
    Lasting codec spool directory envelope item answers ↔
      match answers.failedAfter with
      | some written =>
          readFile directory (spoolFileName nowMillis uuid) =
            some (content.take written)
      | none =>
          ∃ path, isSpoolName path = true ∧
            readFile (writeFile directory (spoolFileName nowMillis uuid) content
              item) path = some content ∧
            Fits spool.maxEvents spool.maxBytes
              (writeFile directory (spoolFileName nowMillis uuid) content item)
              path := by
  constructor
  · intro lasting
    exact lasting content nowMillis uuid accepted ready encoded created
  · intro lasts other millis drawn _ _ encodedOther createdOther
    rw [encoded] at encodedOther
    rw [created] at createdOther
    cases encodedOther
    cases createdOther
    exact lasts

private theorem distinct_enforceLimits {directory : List File}
    (distinct : (directory.map File.name).Nodup) (maxEvents maxBytes : Nat) :
    ((enforceLimits maxEvents maxBytes directory).map File.name).Nodup := by
  rw [enforceLimits, removeFiles_eq_filter]
  exact (List.filter_sublist.map File.name).nodup distinct

/-- What can be read after the limits are enforced. -/
theorem readFile_enforceLimits_iff {maxEvents maxBytes : Nat}
    {directory : List File} (distinct : (directory.map File.name).Nodup)
    {path : String} (named : isSpoolName path = true) {content : Bytes} :
    readFile (enforceLimits maxEvents maxBytes directory) path = some content ↔
      readFile directory path = some content ∧
        Fits maxEvents maxBytes directory path := by
  rw [readFile_eq_some_iff (distinct_enforceLimits distinct maxEvents maxBytes),
    readFile_eq_some_iff distinct]
  constructor
  · rintro ⟨file, left, rfl, same⟩
    have member : file ∈ directory := by
      rw [enforceLimits, removeFiles_eq_filter] at left
      exact List.mem_of_mem_filter left
    exact ⟨⟨file, member, rfl, same⟩,
      (mem_enforceLimits_iff distinct member named).mp left⟩
  · rintro ⟨⟨file, member, rfl, same⟩, fits⟩
    exact ⟨file, (mem_enforceLimits_iff distinct member named).mpr fits, rfl, same⟩

/-- A failed write changes the spool unless the file held just what it left. -/
theorem readFile_writeFile_same_iff {directory : List File} {path : String}
    (named : isSpoolName path = true) (content : Bytes) (item : Item) :
    (∀ other, isSpoolName other = true →
      readFile (writeFile directory path content item) other =
        readFile directory other) ↔
      readFile directory path = some content := by
  constructor
  · intro same
    rw [← same path named, readFile_writeFile]
  · intro held other _
    by_cases equal : other = path
    · rw [equal, readFile_writeFile, held]
    · exact readFile_writeFile_other equal content item

/-- `persist` reports truthfully exactly when what it wrote lasts. -/
theorem persist_truthful_iff (codec : Codec) (spool : EventSpool)
    (directory : List File) (envelope : Envelope) (item : Item)
    (answers : FileAnswers) (distinct : (directory.map File.name).Nodup) :
    Truthful codec envelope directory
        (persist codec spool directory envelope item answers) ↔
      Lasting codec spool directory envelope item answers := by
  have unchanged : Truthful codec envelope directory (false, directory) :=
    fun path _ => rfl
  unfold persist
  split
  · rename_i refused
    refine iff_of_true unchanged ?_
    intro content nowMillis uuid accepted ready
    simp [accepted, ready] at refused
  · rename_i accepted
    simp only [Bool.or_eq_true, not_or, Bool.not_eq_true',
      Bool.not_eq_false] at accepted
    cases encoded : codec.persistedToVec envelope.persisted with
    | none => exact iff_of_true unchanged (by simp [Lasting, encoded])
    | some content =>
        cases created : answers.created with
        | none => exact iff_of_true unchanged (by simp [Lasting, created])
        | some drawn =>
            obtain ⟨nowMillis, uuid⟩ := drawn
            have named := isSpoolName_spoolFileName nowMillis uuid
            have whole := distinct_writeFile distinct
              (spoolFileName nowMillis uuid) content item
            rw [lasting_iff accepted.1 accepted.2 encoded created]
            cases failed : answers.failedAfter with
            | some written => exact readFile_writeFile_same_iff named _ item
            | none =>
                constructor
                · rintro ⟨path, other, spoolName, encodedOther, read⟩
                  rw [encoded] at encodedOther
                  cases encodedOther
                  exact ⟨path, spoolName,
                    (readFile_enforceLimits_iff whole spoolName).mp read⟩
                · rintro ⟨path, spoolName, read, fits⟩
                  exact ⟨path, content, spoolName, encoded,
                    (readFile_enforceLimits_iff whole spoolName).mpr ⟨read, fits⟩⟩

namespace Transport

namespace State

/-- The steps of one call of `persist_or_drop`, up to its return. -/
def persistRun (settings : Settings) (parcel : Parcel) :
    PersistStage → List PersistAction → State → Option State
  | _, [], _ => none
  | stage, action :: actions, state =>
      match persistStep settings parcel stage action state with
      | none => none
      | some (none, after) => if actions.isEmpty then some after else none
      | some (some next, after) => persistRun settings parcel next actions after

theorem persistRun_cons {settings : Settings} {parcel : Parcel}
    {stage : PersistStage} {actions : List PersistAction} {state after : State}
    (run : persistRun settings parcel stage actions state = some after) :
    ∃ action rest next middle, actions = action :: rest ∧
      persistStep settings parcel stage action state = some (next, middle) ∧
      (next = none ∧ middle = after ∨
        ∃ later, next = some later ∧
          persistRun settings parcel later rest middle = some after) := by
  cases actions with
  | nil => cases run
  | cons action rest =>
      rw [persistRun] at run
      split at run
      · cases run
      · rename_i middle stepped
        split at run
        · exact ⟨action, rest, none, middle, rfl, stepped,
            .inl ⟨rfl, Option.some.inj run⟩⟩
        · cases run
      · rename_i later middle stepped
        exact ⟨action, rest, some later, middle, rfl, stepped,
          .inr ⟨later, rfl, run⟩⟩

/-- The removals of a call, when they succeed. -/
theorem persistRun_evicting {settings : Settings} {parcel : Parcel}
    {paths : List String} {actions : List PersistAction} {state after : State}
    (succeed : .evict false ∉ actions)
    (run : persistRun settings parcel (.evicting paths) actions state =
      some after) :
    after.files = removeFiles state.files paths ∧
      after.stored = state.stored ++ [parcel.id] ∧
      after.dropped = state.dropped := by
  induction paths generalizing actions state with
  | nil =>
      obtain ⟨action, rest, next, middle, rfl, stepped, ends⟩ :=
        persistRun_cons run
      cases persistMove_of_step stepped with
      | stored =>
          rcases ends with ⟨-, rfl⟩ | ⟨later, goes, -⟩
          · exact ⟨rfl, rfl, rfl⟩
          · cases goes
  | cons path paths induction =>
      obtain ⟨action, rest, next, middle, rfl, stepped, ends⟩ :=
        persistRun_cons run
      cases persistMove_of_step stepped with
      | @evicted _ _ removed =>
          rcases ends with ⟨goes, -⟩ | ⟨later, goes, run⟩
          · cases goes
          · cases goes
            have done : removed = true := by
              cases removed with
              | true => rfl
              | false => exact absurd List.mem_cons_self succeed
            subst done
            exact induction
              (fun failed => succeed (List.mem_cons_of_mem _ failed)) run

/-- A call is refused, or creates its file. -/
theorem begin_cases {settings : Settings} {spool : EventSpool}
    (configured : settings.spool = some spool) {parcel : Parcel}
    {dirReady : Bool} {created : Option (Nat × Uuid)} {state after : State}
    {next : Option PersistStage}
    (stepped : persistStep settings parcel .start (.begin dirReady created)
      state = some (next, after)) :
    (next = none ∧ after = state.drop parcel.id ∧
        persist settings.codec spool state.files parcel.envelope
            (.sent parcel.id) { dirReady, created, failedAfter := none } =
          (false, state.files)) ∨
      ∃ nowMillis uuid content,
        spoolFileName nowMillis uuid ∉ state.names ∧
          next = some (.writing (spoolFileName nowMillis uuid) content) ∧
          after = state.createFile (spoolFileName nowMillis uuid) parcel.id ∧
          ∀ failedAfter,
            persist settings.codec spool state.files parcel.envelope
                (.sent parcel.id) { dirReady, created, failedAfter } =
              match failedAfter with
              | some written =>
                  (false,
                    Allstak.writeFile state.files (spoolFileName nowMillis uuid)
                      (content.take written) (.sent parcel.id))
              | none =>
                  (true, enforceLimits spool.maxEvents spool.maxBytes
                    (Allstak.writeFile state.files
                      (spoolFileName nowMillis uuid) content
                      (.sent parcel.id))) := by
  unfold persistStep at stepped
  simp only [configured] at stepped
  unfold persist
  split at stepped
  · rename_i refused
    cases stepped
    exact .inl ⟨rfl, rfl, if_pos refused⟩
  · rename_i accepted
    cases encoded : settings.codec.persistedToVec parcel.envelope.persisted with
    | none =>
        rw [encoded] at stepped
        cases stepped
        exact .inl ⟨rfl, rfl, if_neg accepted⟩
    | some content =>
        rw [encoded] at stepped
        cases created with
        | none =>
            cases stepped
            exact .inl ⟨rfl, rfl, if_neg accepted⟩
        | some drawn =>
            obtain ⟨nowMillis, uuid⟩ := drawn
            dsimp only at stepped
            split at stepped
            · cases stepped
            · rename_i fresh
              cases stepped
              refine .inr ⟨nowMillis, uuid, content, fresh, rfl, rfl, ?_⟩
              intro failedAfter
              rw [if_neg accepted]

/-- Creating a file and then writing it. -/
theorem files_written {state : State} {path : String}
    (known : ∀ file ∈ state.files, file.name ∈ state.names)
    (fresh : path ∉ state.names) (content : Bytes) (id : Nat) :
    ((state.createFile path id).writeFile path content).files =
      Allstak.writeFile state.files path content (.sent id) := by
  have absent : path ∉ state.files.map File.name := by
    intro member
    obtain ⟨file, inside, same⟩ := List.mem_map.mp member
    exact fresh (same ▸ known file inside)
  have others : state.files.map (fun file =>
      if file.name = path then { file with content } else file) =
        state.files := by
    refine Eq.trans (List.map_congr_left fun file member => if_neg ?_)
      (List.map_id _)
    exact fun same => absent (List.mem_map.mpr ⟨file, member, same⟩)
  rw [Allstak.writeFile, if_neg absent]
  simp only [writeFile, createFile, updateFile, List.map_append, List.map_cons,
    List.map_nil, if_true, others]

/-- A call as steps of the system, in which nobody else moves, reports and
leaves what `persist` says. -/
theorem persist_of_run {settings : Settings} {spool : EventSpool}
    (configured : settings.spool = some spool) {parcel : Parcel}
    {actions : List PersistAction} {state after : State}
    (known : ∀ file ∈ state.files, file.name ∈ state.names)
    (succeed : .evict false ∉ actions)
    (run : persistRun settings parcel .start actions state = some after) :
    ∃ answers reported,
      persist settings.codec spool state.files parcel.envelope (.sent parcel.id)
          answers = (reported, after.files) ∧
        after.stored = state.stored ++ (if reported then [parcel.id] else []) ∧
        after.dropped =
          state.dropped ++ if reported then [] else [parcel.id] := by
  obtain ⟨action, rest, next, middle, rfl, stepped, ends⟩ := persistRun_cons run
  have later : .evict false ∉ rest :=
    fun failed => succeed (List.mem_cons_of_mem _ failed)
  obtain ⟨dirReady, created, rfl⟩ : ∃ dirReady created,
      action = .begin dirReady created := by
    cases persistMove_of_step stepped with
    | refused | created => exact ⟨_, _, rfl⟩
  rcases begin_cases configured stepped with
    ⟨rfl, rfl, reports⟩ | ⟨nowMillis, uuid, content, fresh, rfl, rfl, reports⟩
  · rcases ends with ⟨-, rfl⟩ | ⟨_, goes, -⟩
    · exact ⟨_, false, reports, (List.append_nil _).symm, rfl⟩
    · cases goes
  · rcases ends with ⟨goes, -⟩ | ⟨_, goes, run⟩
    · cases goes
    cases goes
    obtain ⟨action, rest, next, middle, rfl, stepped, ends⟩ := persistRun_cons run
    cases persistMove_of_step stepped with
    | @spoiled _ _ length =>
        rcases ends with ⟨-, rfl⟩ | ⟨_, goes, -⟩
        · have torn := files_written known fresh (content.take length) parcel.id
          exact ⟨_, false, (reports (some length)).trans (congrArg _ torn.symm),
            (List.append_nil _).symm, rfl⟩
        · cases goes
    | written =>
        rcases ends with ⟨goes, -⟩ | ⟨_, goes, run⟩
        · cases goes
        cases goes
        obtain ⟨action, last, next, middle, rfl, stepped, ends⟩ :=
          persistRun_cons run
        cases persistMove_of_step stepped with
        | @listed other same =>
            rcases ends with ⟨goes, -⟩ | ⟨_, goes, run⟩
            · cases goes
            cases goes
            rw [configured] at same
            cases same
            obtain ⟨files, stored, dropped⟩ := persistRun_evicting (by
              intro failed
              exact later (List.mem_cons_of_mem _ (List.mem_cons_of_mem _ failed)))
              run
            refine ⟨_, true, (reports none).trans ?_, stored, ?_⟩
            · rw [files, files_written known fresh]
              rfl
            · rw [dropped, if_pos rfl, List.append_nil]
              rfl

end State

end Transport

/-- A call that succeeds in every step. -/
def smoothly : FileAnswers :=
  { dirReady := true, created := some (1700000000000, 7), failedAfter := none }

/-- The disk is full after five bytes. -/
def diskFull : FileAnswers := { smoothly with failedAfter := some 5 }

/-- A limit of one byte takes the new file and the report is true; a write that
fails after five bytes leaves a file of five bytes and the report is false. -/
theorem persist_misreports :
    ¬ Truthful Transport.sampleCodec Transport.sampleEnvelope []
        (persist Transport.sampleCodec (.fromOptions 1 1) []
          Transport.sampleEnvelope (.sent 0) smoothly) ∧
      ¬ Truthful Transport.sampleCodec Transport.sampleEnvelope []
        (persist Transport.sampleCodec (.fromOptions 10 1000) []
          Transport.sampleEnvelope (.sent 0) diskFull) := by
  constructor
  · have lost : persist Transport.sampleCodec (.fromOptions 1 1) []
        Transport.sampleEnvelope (.sent 0) smoothly = (true, []) := by
      decide +kernel
    rw [lost]
    rintro ⟨path, content, -, -, read⟩
    cases read
  · have torn : persist Transport.sampleCodec (.fromOptions 10 1000) []
        Transport.sampleEnvelope (.sent 0) diskFull =
          (false, [{ name := spoolFileName 1700000000000 7
                     content := Transport.sampleFile.take 5
                     item := .sent 0 }]) := by
      decide +kernel
    rw [torn]
    intro unchanged
    have created := unchanged (spoolFileName 1700000000000 7)
      (isSpoolName_spoolFileName _ _)
    simp [readFile] at created

theorem persist_truthful_iff_smoothly :
    Truthful Transport.sampleCodec Transport.sampleEnvelope []
        (persist Transport.sampleCodec (.fromOptions 10 1000) []
          Transport.sampleEnvelope (.sent 0) smoothly) ↔
      Lasting Transport.sampleCodec (.fromOptions 10 1000) []
        Transport.sampleEnvelope (.sent 0) smoothly :=
  persist_truthful_iff Transport.sampleCodec (.fromOptions 10 1000) []
    Transport.sampleEnvelope (.sent 0) smoothly List.nodup_nil

end Allstak
