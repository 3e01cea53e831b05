import Allstak.Transport.Conservation

/-!
# What the spool gives back

The spool stores an envelope unless it belongs to a session, and reads one back
only when its path is one of nine.  Between the two lie the envelopes of any
other path: they are stored, counted as persisted, and never read again.
-/

namespace Allstak

/-- Parsing what was serialized for the record gives it back. -/
def Codec.GivesBack (codec : Codec) (persisted : PersistedEnvelope) : Prop :=
  ∀ bytes, codec.persistedToVec persisted = some bytes →
    codec.persistedFromSlice bytes = some persisted

/-- Parsing gives every record back. -/
def Codec.RoundTrips (codec : Codec) : Prop :=
  ∀ persisted, codec.GivesBack persisted

private theorem knownIngestPath_eq_some {path known : String}
    (found : knownIngestPath path = some known) : known = path := by
  unfold knownIngestPath at found
  split at found <;> first | exact (Option.some.inj found).symm | cases found

private theorem categoryFromStr_asStr (category : DataCategory) :
    categoryFromStr category.asStr = some category := by
  cases category <;> rfl

/-- Decoding looks at the path only. -/
theorem intoEnvelope_persisted (envelope : Envelope) :
    envelope.persisted.intoEnvelope =
      if (knownIngestPath envelope.path).isSome then some envelope else none := by
  unfold PersistedEnvelope.intoEnvelope Envelope.persisted
  cases found : knownIngestPath envelope.path with
  | none => rfl
  | some known =>
      rw [knownIngestPath_eq_some found, categoryFromStr_asStr]
      rfl

/-- A file that is there is read as it was written last. -/
theorem readFile_updateFile {directory : List File} {path : String}
    {content : Bytes} (present : path ∈ directory.map File.name) :
    readFile (updateFile directory path fun file => { file with content }) path =
      some content := by
  rw [readFile, updateFile]
  induction directory with
  | nil => cases present
  | cons file files induction =>
      by_cases same : file.name = path
      · simp [same]
      · have later : path ∈ files.map File.name := by
          rcases List.mem_cons.mp present with here | later
          · exact absurd here.symm same
          · exact later
        simp only [List.map_cons, same, if_false, List.find?_cons, decide_false]
        exact induction later

/-- Loading a file that parses to the record of an envelope. -/
theorem loadFile_of_content {codec : Codec} {directory : List File}
    {path : String} {envelope : Envelope} {content : Bytes}
    (parsed : codec.persistedFromSlice content = some envelope.persisted)
    (whole : readFile directory path = some content) :
    loadFile codec directory path =
      if (knownIngestPath envelope.path).isSome then some envelope else none := by
  unfold loadFile
  simp only [whole, parsed, Option.bind_eq_bind, Option.bind_some]
  exact intoEnvelope_persisted envelope

namespace Transport

namespace State

/-- The file of an accepted envelope holds what was serialized. -/
theorem readFile_written {settings : Settings} {parcel : Parcel}
    {state begun written : State} {dirReady : Bool}
    {created : Option (Nat × Uuid)} {path : String} {content : Bytes}
    {next : Option PersistStage}
    (accepted : persistStep settings parcel .start (.begin dirReady created)
      state = some (some (.writing path content), begun))
    (stored : persistStep settings parcel (.writing path content) (.write none)
      begun = some (next, written)) :
    settings.codec.persistedToVec parcel.envelope.persisted = some content ∧
      readFile written.files path = some content := by
  cases persistMove_of_step accepted with
  | created configured encoded fresh =>
      cases persistMove_of_step stored with
      | written =>
          refine ⟨encoded, readFile_updateFile ?_⟩
          simp [createFile]

/-- Loading the file of an accepted envelope. -/
theorem loadFile_written {settings : Settings} {parcel : Parcel}
    {state begun written : State} {dirReady : Bool}
    {created : Option (Nat × Uuid)} {path : String} {content : Bytes}
    {next : Option PersistStage}
    (givesBack : settings.codec.GivesBack parcel.envelope.persisted)
    (accepted : persistStep settings parcel .start (.begin dirReady created)
      state = some (some (.writing path content), begun))
    (stored : persistStep settings parcel (.writing path content) (.write none)
      begun = some (next, written)) :
    loadFile settings.codec written.files path =
      if (knownIngestPath parcel.envelope.path).isSome then some parcel.envelope
      else none := by
  obtain ⟨encoded, read⟩ := readFile_written accepted stored
  exact loadFile_of_content (givesBack content encoded) read

end State

/-- The file `persist` leaves for an envelope it accepts, whatever was in the
directory, loads as this envelope exactly when the path of the envelope is one
of the known ones. -/
theorem loadFile_persisted_iff (settings : Settings) (parcel : Parcel)
    (state begun written : State) (dirReady : Bool)
    (created : Option (Nat × Uuid)) (path : String) (content : Bytes)
    (next : Option PersistStage)
    (givesBack : settings.codec.GivesBack parcel.envelope.persisted)
    (accepted : State.persistStep settings parcel .start
      (.begin dirReady created) state = some (some (.writing path content), begun))
    (stored : State.persistStep settings parcel (.writing path content)
      (.write none) begun = some (next, written)) :
    loadFile settings.codec written.files path = some parcel.envelope ↔
      (knownIngestPath parcel.envelope.path).isSome := by
  rw [State.loadFile_written givesBack accepted stored]
  split
  · rename_i known
    simp [known]
  · rename_i unknown
    simp [unknown]

/-- The transport of a program that sends to an endpoint of its own. -/
def customEnvelope : Envelope :=
  { path := "/ingest/v1/metrics", category := .log, body := .null }

def customFile : Bytes :=
  asciiBytes
    "\x7b\"path\":\"/ingest/v1/metrics\",\"category\":\"log\",\"body\":null\x7d"

/-- The JSON library on this envelope. -/
def customCodec : Codec where
  toVec := sampleCodec.toVec
  gzip := sampleCodec.gzip
  persistedToVec
    | { path := "/ingest/v1/metrics", category := "log", body := .null } =>
        some customFile
    | _ => none
  persistedFromSlice bytes :=
    if bytes = customFile then some customEnvelope.persisted else none

private theorem customCodec_roundTrips : customCodec.RoundTrips := by
  intro persisted bytes encoded
  unfold customCodec at encoded ⊢
  dsimp only at encoded ⊢
  split at encoded
  · cases encoded
    rfl
  · cases encoded

private theorem sampleCodec_roundTrips : sampleCodec.RoundTrips := by
  intro persisted bytes encoded
  unfold sampleCodec at encoded ⊢
  dsimp only at encoded ⊢
  split at encoded
  · cases encoded
    rfl
  · cases encoded

def customSpool : Settings :=
  { codec := customCodec, spool := some (.fromOptions 10 1000)
    transportQueueSize := 1 }

/-- The envelope is accepted and written, and its file does not load. -/
theorem customPath_is_lost :
    customCodec.RoundTrips ∧
      ∃ path content begun next written,
        State.persistStep customSpool { id := 0, envelope := customEnvelope }
            .start (.begin true (some (1700000000000, 7))) oneThread =
          some (some (.writing path content), begun) ∧
        State.persistStep customSpool { id := 0, envelope := customEnvelope }
            (.writing path content) (.write none) begun = some (next, written) ∧
        next.isSome ∧ loadFile customCodec written.files path = none := by
  refine ⟨customCodec_roundTrips,
    spoolFileName 1700000000000 7, customFile, _, _, _, rfl, rfl, rfl, ?_⟩
  decide +kernel

/-- A log record goes through the spool. -/
theorem loadFile_persisted_iff_logs :
    ∃ path content begun next written,
      State.persistStep (rendezvous 10 1000)
          { id := 0, envelope := sampleEnvelope } .start
          (.begin true (some (1700000000000, 7))) oneThread =
        some (some (.writing path content), begun) ∧
      State.persistStep (rendezvous 10 1000)
          { id := 0, envelope := sampleEnvelope } (.writing path content)
          (.write none) begun = some (next, written) ∧
      (loadFile sampleCodec written.files path = some sampleEnvelope ↔
        (knownIngestPath sampleEnvelope.path).isSome) := by
  refine ⟨spoolFileName 1700000000000 7, sampleFile, _, _, _, rfl, rfl, ?_⟩
  exact loadFile_persisted_iff (rendezvous 10 1000)
    { id := 0, envelope := sampleEnvelope } oneThread _ _ true
    (some (1700000000000, 7)) (spoolFileName 1700000000000 7) sampleFile _
    (sampleCodec_roundTrips _) rfl rfl

end Transport

end Allstak
