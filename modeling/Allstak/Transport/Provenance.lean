import Allstak.Transport.Ordering
import Allstak.Transport.Restarts
import Allstak.Transport.SpoolRoundTrip

/-!
# Where the envelopes of a transport come from

A transport holds envelopes in the hands of its threads and its worker, in the
channel and in files.  Each is the one that was sent under its number.  A file
holds the beginning of what was serialized for its envelope, or is as it was
found; so what the worker posts was sent, or could be read in the directory at
the start.
-/

namespace Allstak

namespace Codec

/-- What the content of a file is read as. -/
def decode (codec : Codec) (content : Bytes) : Option Envelope :=
  (codec.persistedFromSlice content).bind PersistedEnvelope.intoEnvelope

/-- Nothing can be read before all that was serialized is there. -/
def WholeOnly (codec : Codec) : Prop :=
  ∀ persisted bytes part, codec.persistedToVec persisted = some bytes →
    part <+: bytes → part = bytes ∨ codec.persistedFromSlice part = none

end Codec

private theorem decode_of_loadFile {codec : Codec} {directory : List File}
    {path : String} {envelope : Envelope}
    (loaded : loadFile codec directory path = some envelope) :
    ∃ file ∈ directory, codec.decode file.content = some envelope := by
  obtain ⟨content, read, decoded⟩ := Option.bind_eq_some_iff.mp loaded
  obtain ⟨file, found, rfl⟩ := Option.map_eq_some_iff.mp read
  exact ⟨file, List.mem_of_find?_eq_some found, decoded⟩

/-- A file of the directory: one of those found, or the beginning of what was
serialized for an envelope of the log. -/
inductive Genuine (codec : Codec) (found : List File) (log : List Envelope) :
    File → Prop where
  | found {file : File} : file ∈ found → Genuine codec found log file
  | written {file : File} {id : Nat} {envelope : Envelope} {content : Bytes} :
      file.item = .sent id →
      log[id]? = some envelope →
      codec.persistedToVec envelope.persisted = some content →
      file.content <+: content →
      Genuine codec found log file

/-- The envelope is in the log, or a found file is read as it. -/
def Known (codec : Codec) (found : List File) (log : List Envelope)
    (envelope : Envelope) : Prop :=
  envelope ∈ log ∨ ∃ file ∈ found, codec.decode file.content = some envelope

/-- The envelope is known, or what was serialized for one of the log is read as
it. -/
def Traceable (codec : Codec) (found : List File) (log : List Envelope)
    (envelope : Envelope) : Prop :=
  Known codec found log envelope ∨
    ∃ origin ∈ log, ∃ content,
      codec.persistedToVec origin.persisted = some content ∧
        codec.decode content = some envelope

/-- The body of the request is the prepared body of its envelope. -/
def Post.Prepared (codec : Codec) (post : Post) : Prop :=
  ∃ raw, codec.toVec post.envelope.body = some raw ∧
    post.prepared = prepareRequestBody codec raw

theorem requestsOf_prepared {codec : Codec} {envelope : Envelope}
    {exchanges : List Exchange} {post : Post}
    (member : post ∈ requestsOf codec envelope exchanges) :
    post.envelope = envelope ∧ post.Prepared codec := by
  unfold requestsOf at member
  cases encoded : codec.toVec envelope.body with
  | none =>
      rw [encoded] at member
      cases member
  | some raw =>
      rw [encoded] at member
      obtain ⟨exchange, -, rfl⟩ := List.mem_map.mp member
      exact ⟨rfl, raw, encoded, rfl⟩

section

variable {codec : Codec} {found : List File} {log more : List Envelope}

theorem Genuine.extend {file : File} (genuine : Genuine codec found log file) :
    Genuine codec found (log ++ more) file := by
  cases genuine with
  | found member => exact .found member
  | written item logged encoded part =>
      have inside := (List.getElem?_eq_some_iff.mp logged).1
      exact .written item ((List.getElem?_append_left inside).trans logged)
        encoded part

theorem Known.extend {envelope : Envelope}
    (known : Known codec found log envelope) :
    Known codec found (log ++ more) envelope :=
  known.imp_left (List.mem_append_left more)

theorem Traceable.extend {envelope : Envelope}
    (traceable : Traceable codec found log envelope) :
    Traceable codec found (log ++ more) envelope := by
  rcases traceable with known | ⟨origin, logged, content, encoded, decoded⟩
  · exact .inl known.extend
  · exact .inr ⟨origin, List.mem_append_left more logged, content, encoded,
      decoded⟩

/-- What is read back is what was sent, when parsing gives the log back. -/
theorem Traceable.known {envelope : Envelope}
    (traceable : Traceable codec found log envelope)
    (givesBack : ∀ envelope ∈ log, codec.GivesBack envelope.persisted) :
    Known codec found log envelope := by
  rcases traceable with known | ⟨origin, logged, content, encoded, decoded⟩
  · exact known
  · obtain ⟨persisted, parsed, read⟩ := Option.bind_eq_some_iff.mp decoded
    rw [givesBack origin logged content encoded, Option.some.injEq] at parsed
    rw [← parsed, intoEnvelope_persisted] at read
    obtain ⟨-, same⟩ := Option.ite_none_right_eq_some.mp read
    exact .inl (Option.some.inj same ▸ logged)

/-- A half written file is read as nothing. -/
theorem Genuine.traceable (wholeOnly : codec.WholeOnly) {file : File}
    {envelope : Envelope} (genuine : Genuine codec found log file)
    (decoded : codec.decode file.content = some envelope) :
    Traceable codec found log envelope := by
  cases genuine with
  | found member => exact .inl (.inr ⟨file, member, decoded⟩)
  | written item logged encoded part =>
      rcases wholeOnly _ _ _ encoded part with whole | unread
      · exact .inr ⟨_, List.mem_of_getElem? logged, _, encoded, whole ▸ decoded⟩
      · rw [Codec.decode, unread] at decoded
        cases decoded

end

namespace Transport

/-- A write that is going on. -/
structure Write where
  parcel : Parcel
  path : String
  content : Bytes

def Message.parcel? : Message → Option Parcel
  | .send parcel => some parcel
  | .flush _ => none

def PersistStage.writes (parcel : Parcel) : PersistStage → List Write
  | .writing path content => [{ parcel, path, content }]
  | _ => []

namespace Activity

def parcels : Activity → List Parcel
  | .locking parcel => [parcel]
  | .offering parcel => [parcel]
  | .counting parcel => [parcel]
  | .spooling parcel _ => [parcel]
  | _ => []

def writes : Activity → List Write
  | .spooling parcel stage => stage.writes parcel
  | _ => []

end Activity

namespace Phase

def parcels : Phase → List Parcel
  | .received parcel => [parcel]
  | .delivering parcel => [parcel]
  | .persisting parcel _ => [parcel]
  | _ => []

def writes : Phase → List Write
  | .persisting parcel stage => stage.writes parcel
  | _ => []

def replays : Phase → List Envelope
  | .replaying _ _ envelope => [envelope]
  | _ => []

/-- The envelope of which the worker makes its requests. -/
def posting : Phase → List Envelope
  | .delivering parcel => [parcel.envelope]
  | .replaying _ _ envelope => [envelope]
  | _ => []

end Phase

def ThreadAction.envelopes : State.ThreadAction → List Envelope
  | .send envelope => [envelope]
  | _ => []

/-- The envelopes sent by a step. -/
def Label.envelopes : Label → List Envelope
  | .thread _ action => ThreadAction.envelopes action
  | .worker _ => []

namespace State

def parcels (state : State) : List Parcel :=
  state.threads.flatMap Activity.parcels ++
    (state.queue.filterMap Message.parcel? ++ state.worker.parcels)

def writes (state : State) : List Write :=
  state.threads.flatMap Activity.writes ++ state.worker.writes

end State

/-- The file that is written is in the directory under a name of its own. -/
structure Write.Placed (codec : Codec) (files : List File)
    (names : List String) (write : Write) : Prop where
  encoded : codec.persistedToVec write.parcel.envelope.persisted =
    some write.content
  named : write.path ∈ names
  own : ∀ file ∈ files, file.name = write.path →
    file.item = .sent write.parcel.id

/-- Everything in the transport is what was sent under its number, or what was
found. -/
structure Faithful (codec : Codec) (found : List File) (log : List Envelope)
    (state : State) : Prop where
  sent : state.sent = log.length
  parcels : ∀ parcel ∈ state.parcels, log[parcel.id]? = some parcel.envelope
  writes : ∀ write ∈ state.writes,
    write.Placed codec state.files state.names
  files : ∀ file ∈ state.files, Genuine codec found log file
  replays : ∀ envelope ∈ state.worker.replays, Traceable codec found log envelope

namespace Faithful

variable {settings : Settings} {codec : Codec} {found : List File}
  {log : List Envelope} {state after : State}

/-- Parties give up what they hold, and files go. -/
theorem less (faithful : Faithful codec found log state)
    (sent : after.sent = state.sent)
    (parcels : after.parcels ⊆ state.parcels)
    (writes : after.writes ⊆ state.writes) (files : after.files ⊆ state.files)
    (names : state.names ⊆ after.names)
    (replays : after.worker.replays ⊆ state.worker.replays) :
    Faithful codec found log after where
  sent := sent.trans faithful.sent
  parcels := fun parcel member => faithful.parcels parcel (parcels member)
  writes := by
    intro write member
    obtain ⟨encoded, named, own⟩ := faithful.writes write (writes member)
    exact ⟨encoded, names named, fun file inside => own file (files inside)⟩
  files := fun file member => faithful.files file (files member)
  replays := fun envelope member => faithful.replays envelope (replays member)

/-- A thread goes on with a parcel that was sent. -/
theorem setThread (faithful : Faithful codec found log state) (index : Nat)
    {activity : Activity}
    (parcels : ∀ parcel ∈ activity.parcels,
      log[parcel.id]? = some parcel.envelope)
    (writes : ∀ write ∈ activity.writes,
      write.Placed codec state.files state.names) :
    Faithful codec found log (state.setThread index activity) where
  sent := faithful.sent
  parcels := by
    intro parcel member
    rcases List.mem_append.mp member with held | rest
    · rcases Library.Pool.mem_flatMap_set held with new | old
      · exact parcels parcel new
      · exact faithful.parcels parcel (List.mem_append_left _ old)
    · exact faithful.parcels parcel (List.mem_append_right _ rest)
  writes := by
    intro write member
    rcases List.mem_append.mp member with held | rest
    · rcases Library.Pool.mem_flatMap_set held with new | old
      · exact writes write new
      · exact faithful.writes write (List.mem_append_left _ old)
    · exact faithful.writes write (List.mem_append_right _ rest)
  files := faithful.files
  replays := faithful.replays

/-- A thread goes on with what it had, and writes nothing. -/
theorem goesOn (faithful : Faithful codec found log state) {index : Nat}
    {activity next : Activity} (at_ : state.threads[index]? = some activity)
    (threads : after.threads = state.threads.set index next)
    (worker : after.worker = state.worker ∨ after.worker = .idle)
    (same : after.queue.filterMap Message.parcel? =
        state.queue.filterMap Message.parcel? ∧
      after.sent = state.sent ∧ after.files = state.files ∧
      after.names = state.names)
    (keeps : next.parcels ⊆ activity.parcels) (still : next.writes = []) :
    Faithful codec found log after := by
  obtain ⟨queue, sent, files, names⟩ := same
  have parcels : after.threads.flatMap Activity.parcels ⊆
      state.threads.flatMap Activity.parcels := by
    rw [threads]
    exact Library.Pool.flatMap_set_subset at_ keeps
  have writes : after.threads.flatMap Activity.writes ⊆
      state.threads.flatMap Activity.writes := by
    rw [threads]
    apply Library.Pool.flatMap_set_subset at_
    simp [still]
  apply faithful.less sent _ _ (files ▸ List.Subset.refl _)
    (names ▸ List.Subset.refl _)
  · rcases worker with worker | worker
    · rw [worker]
      exact List.Subset.refl _
    · simp [worker, Phase.replays]
  · intro parcel member
    rcases List.mem_append.mp member with held | rest
    · exact List.mem_append_left _ (parcels held)
    rcases List.mem_append.mp rest with queued | hands
    · rw [queue] at queued
      exact List.mem_append_right _ (List.mem_append_left _ queued)
    · rcases worker with worker | worker
      · rw [worker] at hands
        exact List.mem_append_right _ (List.mem_append_right _ hands)
      · simp [worker, Phase.parcels] at hands
  · intro write member
    rcases List.mem_append.mp member with held | hands
    · exact List.mem_append_left _ (writes held)
    · rcases worker with worker | worker
      · rw [worker] at hands
        exact List.mem_append_right _ hands
      · simp [worker, Phase.writes] at hands

/-- The worker goes on with a parcel that was sent. -/
theorem setWorker (faithful : Faithful codec found log state) {phase : Phase}
    (parcels : ∀ parcel ∈ phase.parcels, log[parcel.id]? = some parcel.envelope)
    (writes : ∀ write ∈ phase.writes,
      write.Placed codec state.files state.names)
    (replays : ∀ envelope ∈ phase.replays, Traceable codec found log envelope) :
    Faithful codec found log { state with worker := phase } where
  sent := faithful.sent
  parcels := by
    intro parcel member
    rcases List.mem_append.mp member with threads | others
    · exact faithful.parcels parcel (List.mem_append_left _ threads)
    rcases List.mem_append.mp others with queued | hands
    · exact faithful.parcels parcel
        (List.mem_append_right _ (List.mem_append_left _ queued))
    · exact parcels parcel hands
  writes := by
    intro write member
    rcases List.mem_append.mp member with threads | hands
    · exact faithful.writes write (List.mem_append_left _ threads)
    · exact writes write hands
  files := faithful.files
  replays := replays

/-- The worker goes on with a parcel that was sent, and writes nothing. -/
theorem workerOn (faithful : Faithful codec found log state)
    (threads : after.threads = state.threads)
    (queue : after.queue.filterMap Message.parcel? ⊆
      state.queue.filterMap Message.parcel?)
    (same : after.sent = state.sent ∧ after.names = state.names)
    (files : after.files ⊆ state.files)
    (parcels : ∀ parcel ∈ after.worker.parcels,
      log[parcel.id]? = some parcel.envelope)
    (still : after.worker.writes = [] ∧ after.worker.replays = []) :
    Faithful codec found log after where
  sent := same.1.trans faithful.sent
  parcels := by
    intro parcel member
    rcases List.mem_append.mp member with held | rest
    · rw [threads] at held
      exact faithful.parcels parcel (List.mem_append_left _ held)
    rcases List.mem_append.mp rest with queued | hands
    · exact faithful.parcels parcel
        (List.mem_append_right _ (List.mem_append_left _ (queue queued)))
    · exact parcels parcel hands
  writes := by
    intro write member
    rw [State.writes, still.1, List.append_nil, threads] at member
    obtain ⟨encoded, named, own⟩ :=
      faithful.writes write (List.mem_append_left _ member)
    exact ⟨encoded, same.2 ▸ named, fun file inside => own file (files inside)⟩
  files := fun file member => faithful.files file (files member)
  replays := by
    rw [still.2]
    exact fun envelope member => absurd member List.not_mem_nil

/-- What the thread with the index holds. -/
theorem ofThread (faithful : Faithful codec found log state) {index : Nat}
    {activity : Activity} (at_ : state.threads[index]? = some activity) :
    (∀ parcel ∈ activity.parcels, log[parcel.id]? = some parcel.envelope) ∧
      ∀ write ∈ activity.writes,
        write.Placed codec state.files state.names := by
  have inside := List.mem_of_getElem? at_
  constructor
  · intro parcel member
    apply faithful.parcels
    exact List.mem_append_left _ (List.mem_flatMap.mpr ⟨_, inside, member⟩)
  · intro write member
    apply faithful.writes
    exact List.mem_append_left _ (List.mem_flatMap.mpr ⟨_, inside, member⟩)

/-- What the worker holds. -/
theorem ofWorker (faithful : Faithful codec found log state) :
    (∀ parcel ∈ state.worker.parcels,
        log[parcel.id]? = some parcel.envelope) ∧
      ∀ write ∈ state.worker.writes,
        write.Placed codec state.files state.names := by
  constructor
  · intro parcel member
    apply faithful.parcels
    exact List.mem_append_right _ (List.mem_append_right _ member)
  · intro write member
    exact faithful.writes write (List.mem_append_right _ member)

/-- A write of a part of its content, or of all of it. -/
theorem writeFile (faithful : Faithful codec found log state) {write : Write}
    (placed : write.Placed codec state.files state.names)
    (logged : log[write.parcel.id]? = some write.parcel.envelope)
    {part : Bytes} (begins : part <+: write.content) :
    Faithful codec found log (state.writeFile write.path part) := by
  have changed : ∀ file ∈ (state.writeFile write.path part).files,
      ∃ old ∈ state.files, file.name = old.name ∧ file.item = old.item ∧
        (file = old ∨
          old.name = write.path ∧ file.content = part) := by
    intro file member
    obtain ⟨old, inside, same⟩ := List.mem_map.mp member
    refine ⟨old, inside, ?_⟩
    split at same
    · rename_i here
      subst same
      exact ⟨rfl, rfl, .inr ⟨here, rfl⟩⟩
    · subst same
      exact ⟨rfl, rfl, .inl rfl⟩
  constructor
  · exact faithful.sent
  · exact faithful.parcels
  · intro other member
    obtain ⟨encoded, named, own⟩ := faithful.writes other member
    refine ⟨encoded, named, ?_⟩
    intro file inside same
    obtain ⟨old, present, name, item, -⟩ := changed file inside
    exact item.trans (own old present (name.symm.trans same))
  · intro file inside
    obtain ⟨old, present, -, item, kept | ⟨here, content⟩⟩ :=
      changed file inside
    · exact kept ▸ faithful.files old present
    · apply Genuine.written (item.trans (placed.own old present here)) logged
        placed.encoded
      rw [content]
      exact begins
  · exact faithful.replays

theorem createFile (faithful : Faithful codec found log state)
    (named : state.Named) {path : String} (fresh : path ∉ state.names)
    {parcel : Parcel} (logged : log[parcel.id]? = some parcel.envelope)
    {content : Bytes}
    (encoded : codec.persistedToVec parcel.envelope.persisted = some content) :
    Faithful codec found log (state.createFile path parcel.id) ∧
      Write.Placed codec (state.createFile path parcel.id).files
        (state.createFile path parcel.id).names { parcel, path, content } := by
  constructor
  · constructor
    · exact faithful.sent
    · exact faithful.parcels
    · intro write member
      obtain ⟨encoded, known, own⟩ := faithful.writes write member
      refine ⟨encoded, List.mem_append_left _ known, ?_⟩
      intro file inside same
      rcases List.mem_append.mp inside with old | new
      · exact own file old same
      · rw [List.mem_singleton.mp new] at same
        have taken : path = write.path := same
        exact absurd (taken ▸ known) fresh
    · intro file inside
      rcases List.mem_append.mp inside with old | new
      · exact faithful.files file old
      · rw [List.mem_singleton.mp new]
        exact .written rfl logged encoded List.nil_prefix
    · exact faithful.replays
  · refine ⟨encoded, List.mem_append_right _ (List.mem_singleton_self _), ?_⟩
    intro file inside same
    rcases List.mem_append.mp inside with old | new
    · have taken : file.name = path := same
      exact absurd (taken ▸ named.known file old) fresh
    · rw [List.mem_singleton.mp new]

theorem removeFile (faithful : Faithful codec found log state) (path : String) :
    Faithful codec found log
      { state with files := Allstak.removeFile state.files path } :=
  faithful.less rfl (List.Subset.refl _) (List.Subset.refl _)
    (List.filter_sublist.subset) (List.Subset.refl _) (List.Subset.refl _)

end Faithful

namespace State

variable {settings : Settings} {found : List File} {log : List Envelope}
  {state after : State}

/-- A step of `persist_or_drop` with a parcel that was sent. -/
theorem PersistMove.faithful {parcel : Parcel} {action : PersistAction}
    {stage : PersistStage} {next : Option PersistStage}
    (move : PersistMove settings parcel state action stage next after)
    (named : state.Named) (faithful : Faithful settings.codec found log state)
    (logged : log[parcel.id]? = some parcel.envelope)
    (placed : ∀ write ∈ stage.writes parcel,
      write.Placed settings.codec state.files state.names) :
    Faithful settings.codec found log after ∧
      ∀ later, next = some later → ∀ write ∈ later.writes parcel,
        write.Placed settings.codec after.files after.names := by
  have unchanged {counters : TransportCounters}
      {stored dropped spoiled : List Nat} :
      Faithful settings.codec found log
        { state with counters, stored, dropped, spoiled } :=
    ⟨faithful.sent, faithful.parcels, faithful.writes, faithful.files,
      faithful.replays⟩
  cases move with
  | refused => exact ⟨unchanged, by simp⟩
  | created configured encoded fresh =>
      obtain ⟨kept, own⟩ := faithful.createFile named fresh logged encoded
      refine ⟨kept, ?_⟩
      rintro later ⟨⟩ write member
      rw [List.mem_singleton.mp member]
      exact own
  | written =>
      have own := placed _ (List.mem_singleton_self _)
      refine ⟨faithful.writeFile own logged List.prefix_rfl, ?_⟩
      rintro later ⟨⟩ write ⟨⟩
  | @spoiled path content length =>
      have own := placed _ (List.mem_singleton_self _)
      have kept := faithful.writeFile own logged
        (List.take_prefix length content)
      exact ⟨⟨kept.sent, kept.parcels, kept.writes, kept.files, kept.replays⟩,
        by simp⟩
  | listed =>
      refine ⟨faithful, ?_⟩
      rintro later ⟨⟩ write ⟨⟩
  | @evicted path paths removed =>
      constructor
      · rw [evictFile]
        split
        · have kept := faithful.removeFile path
          exact ⟨kept.sent, kept.parcels, kept.writes, kept.files, kept.replays⟩
        · exact faithful
      · rintro later ⟨⟩ write ⟨⟩
  | stored => exact ⟨unchanged, by simp⟩

/-- A step of a thread sends what its label says. -/
theorem ThreadMove.faithful {index : Nat} {activity : Activity}
    {action : ThreadAction} (at_ : state.threads[index]? = some activity)
    (move : ThreadMove settings index state activity action after)
    (named : state.Named) (faithful : Faithful settings.codec found log state) :
    Faithful settings.codec found (log ++ ThreadAction.envelopes action)
      after := by
  obtain ⟨held, writing⟩ := faithful.ofThread at_
  cases move with
  | @send envelope =>
      let captured : State :=
        { state with
          sent := state.sent + 1
          counters := state.counters.captured }
      have kept : Faithful settings.codec found (log ++ [envelope])
          captured := by
        constructor
        · simp [captured, faithful.sent]
        · intro parcel member
          have logged := faithful.parcels parcel member
          have inside := (List.getElem?_eq_some_iff.mp logged).1
          exact (List.getElem?_append_left inside).trans logged
        · exact faithful.writes
        · exact fun file member => (faithful.files file member).extend
        · exact fun envelope member => (faithful.replays envelope member).extend
      apply kept.setThread
      · intro parcel member
        rw [List.mem_singleton.mp member, faithful.sent]
        simp
      · intro write member
        cases member
  | @accepted parcel parked open_ alive =>
      change Faithful settings.codec found (log ++ []) _
      rw [List.append_nil]
      let entered : State :=
        { state with
          queue := state.queue ++ [Message.send parcel]
          enqueued := state.enqueued ++ [parcel.id] }
      have kept : Faithful settings.codec found log entered := by
        constructor
        · exact faithful.sent
        · intro other member
          simp only [entered, parcels, List.filterMap_append,
            List.mem_append] at member
          rcases member with threads | (queued | new) | hands
          · exact faithful.parcels other (List.mem_append_left _ threads)
          · exact faithful.parcels other
              (List.mem_append_right _ (List.mem_append_left _ queued))
          · exact held other new
          · exact faithful.parcels other
              (List.mem_append_right _ (List.mem_append_right _ hands))
        · exact faithful.writes
        · exact faithful.files
        · exact faithful.replays
      exact kept.goesOn at_ rfl (.inl rfl) ⟨rfl, rfl, rfl, rfl⟩
        (by simp [Activity.parcels]) rfl
  | spooling persisted =>
      change Faithful settings.codec found (log ++ []) _
      rw [List.append_nil]
      obtain ⟨kept, placed⟩ := persisted.faithful named faithful
        (held _ (List.mem_singleton_self _)) writing
      exact kept.setThread index held (placed _ rfl)
  | spooled persisted =>
      change Faithful settings.codec found (log ++ []) _
      rw [List.append_nil]
      obtain ⟨kept, -⟩ := persisted.faithful named faithful
        (held _ (List.mem_singleton_self _)) writing
      have still := persisted.parties.1 ▸ at_
      exact kept.goesOn still rfl (.inl rfl) ⟨rfl, rfl, rfl, rfl⟩
        (by simp [Activity.parcels]) rfl
  | taken | unheard | timeout | acknowledge =>
      change Faithful settings.codec found (log ++ []) _
      rw [List.append_nil, endFlush_eq]
      refine faithful.goesOn at_ rfl (by simp) ⟨rfl, rfl, rfl, rfl⟩ ?_ ?_
      · split <;> simp [Activity.parcels]
      · split <;> rfl
  | post =>
      change Faithful settings.codec found (log ++ []) _
      rw [List.append_nil]
      exact faithful.goesOn at_ rfl (.inl rfl)
        ⟨by simp [setThread, Message.parcel?], rfl, rfl, rfl⟩
        (by simp [Activity.parcels]) rfl
  | _ =>
      change Faithful settings.codec found (log ++ []) _
      rw [List.append_nil]
      exact faithful.goesOn at_ rfl (.inl rfl) ⟨rfl, rfl, rfl, rfl⟩
        (by simp [Activity.parcels]) rfl

/-- The worker sends nothing. -/
theorem WorkerMove.faithful {action : WorkerAction}
    (wholeOnly : settings.codec.WholeOnly)
    (move : WorkerMove settings state state.worker action after)
    (named : state.Named)
    (faithful : Faithful settings.codec found log state) :
    Faithful settings.codec found log after := by
  obtain ⟨held, writing⟩ := faithful.ofWorker
  generalize current : state.worker = phase at move held writing
  cases move with
  | built possible =>
      refine faithful.workerOn rfl (List.Subset.refl _) ⟨rfl, rfl⟩
        (List.Subset.refl _) ?_ ?_
      · rcases possible with rfl | rfl <;> simp [Phase.parcels]
      · rcases possible with rfl | rfl <;> exact ⟨rfl, rfl⟩
  | unbuilt | replayPanicked | deliverPanicked =>
      exact faithful.workerOn rfl (List.nil_subset _) ⟨rfl, rfl⟩
        (List.Subset.refl _) (by simp [perish, die, Phase.parcels]) ⟨rfl, rfl⟩
  | loaded loaded =>
      obtain ⟨file, inside, decoded⟩ := decode_of_loadFile loaded
      have traceable := (faithful.files file inside).traceable wholeOnly decoded
      apply faithful.setWorker (by simp [Phase.parcels])
        (by simp [Phase.writes])
      intro envelope member
      rw [List.mem_singleton.mp member]
      exact traceable
  | @remove path paths fate removed =>
      have fewer : (state.unlinkReplayed path fate removed).files ⊆
          state.files := by
        unfold unlinkReplayed
        split
        · split <;> exact List.filter_sublist.subset
        · exact List.Subset.refl _
      have frame : (state.unlinkReplayed path fate removed).threads =
            state.threads ∧
          (state.unlinkReplayed path fate removed).queue = state.queue ∧
          (state.unlinkReplayed path fate removed).sent = state.sent ∧
          (state.unlinkReplayed path fate removed).names = state.names := by
        unfold unlinkReplayed
        split <;> [split; skip] <;> exact ⟨rfl, rfl, rfl, rfl⟩
      obtain ⟨threads, queue, sent, names⟩ := frame
      exact faithful.workerOn threads (by simp [queue]) ⟨sent, names⟩ fewer
        (by simp [Phase.parcels]) ⟨rfl, rfl⟩
  | @receive parcel rest queued =>
      have inside : parcel ∈ state.queue.filterMap Message.parcel? :=
        List.mem_filterMap.mpr ⟨.send parcel, by simp [queued], rfl⟩
      refine faithful.workerOn rfl ?_ ⟨rfl, rfl⟩ (List.Subset.refl _) ?_
        ⟨rfl, rfl⟩
      · rw [queued]
        exact List.subset_cons_self _ _
      · intro other member
        rw [List.mem_singleton.mp member]
        apply faithful.parcels
        exact List.mem_append_right _ (List.mem_append_left _ inside)
  | @receiveFlush ack rest queued =>
      refine faithful.workerOn rfl ?_ ⟨rfl, rfl⟩ (List.Subset.refl _)
        (by simp [Phase.parcels]) ⟨rfl, rfl⟩
      rw [queued]
      exact List.Subset.refl _
  | uncount | undelivered =>
      exact faithful.workerOn rfl (List.Subset.refl _) ⟨rfl, rfl⟩
        (List.Subset.refl _) held ⟨rfl, rfl⟩
  | persisting persisted =>
      obtain ⟨kept, placed⟩ := persisted.faithful named faithful
        (held _ (List.mem_singleton_self _)) writing
      exact kept.setWorker held (placed _ rfl) (by simp [Phase.replays])
  | persisted persisted =>
      obtain ⟨kept, -⟩ := persisted.faithful named faithful
        (held _ (List.mem_singleton_self _)) writing
      exact kept.setWorker (by simp [Phase.parcels]) (by simp [Phase.writes])
        (by simp [Phase.replays])
  | _ =>
      exact faithful.workerOn rfl (List.Subset.refl _) ⟨rfl, rfl⟩
        (List.Subset.refl _) (by simp [Phase.parcels]) ⟨rfl, rfl⟩

/-- The worker makes requests of what it is posting. -/
theorem WorkerMove.posts {phase : Phase} {action : WorkerAction}
    (move : WorkerMove settings state phase action after) :
    ∃ new, after.posts = state.posts ++ new ∧
      ∀ post ∈ new, post.envelope ∈ phase.posting ∧
        post.Prepared settings.codec := by
  have requested (envelope : Envelope) (exchanges : List Exchange) :
      ∀ post ∈ requestsOf settings.codec envelope exchanges,
        post.envelope ∈ [envelope] ∧ post.Prepared settings.codec := by
    intro post member
    obtain ⟨same, prepared⟩ := requestsOf_prepared member
    exact ⟨List.mem_singleton.mpr same, prepared⟩
  cases move with
  | replayPanicked | deliverPanicked | replayed | replayFailed | replayStopped
  | answered | failed | undelivered =>
      exact ⟨_, rfl, requested _ _⟩
  | remove =>
      refine ⟨[], ?_, by simp⟩
      unfold unlinkReplayed
      split <;> [split; skip] <;> exact (List.append_nil _).symm
  | persisting persisted | persisted persisted =>
      refine ⟨[], ?_, by simp⟩
      obtain ⟨_, _, _, _, _, _, _, rfl⟩ := persisted.frame
      exact (List.append_nil _).symm
  | _ => exact ⟨[], (List.append_nil _).symm, by simp⟩

end State

section

variable {settings : Settings} {found : List File} {log : List Envelope}
  {state after : State}

theorem faithful_of_starts {codec : Codec} (starts : Starts state) :
    Faithful codec state.files [] state := by
  obtain ⟨calls, directory, spawned, -, -, rfl⟩ := starts
  have idle : (List.replicate calls Activity.idle).flatMap Activity.parcels =
      [] := Library.Pool.flatMap_replicate calls rfl
  have still : (List.replicate calls Activity.idle).flatMap Activity.writes =
      [] := Library.Pool.flatMap_replicate calls rfl
  constructor
  · rfl
  · intro parcel member
    simp only [State.parcels, idle] at member
    cases spawned <;> simp [Phase.parcels] at member
  · intro write member
    simp only [State.writes, still] at member
    cases spawned <;> simp [Phase.writes] at member
  · exact fun file member => .found member
  · cases spawned <;> simp [Phase.replays]

/-- What the worker is posting was sent, or a file is read as it. -/
theorem Faithful.posting {codec : Codec}
    (faithful : Faithful codec found log state) {envelope : Envelope}
    (member : envelope ∈ state.worker.posting) :
    Traceable codec found log envelope := by
  have held := faithful.ofWorker.1
  have replays := faithful.replays
  generalize state.worker = phase at member held replays
  cases phase with
  | delivering parcel =>
      have logged := held parcel (List.mem_singleton_self _)
      rw [List.mem_singleton.mp member]
      exact .inl (.inl (List.mem_of_getElem? logged))
  | replaying path paths other => exact replays envelope member
  | _ => cases member

/-- Every request made so far is of an envelope that can be traced, with its
prepared body. -/
def PostsTraceable (codec : Codec) (found : List File) (log : List Envelope)
    (state : State) : Prop :=
  ∀ post ∈ state.posts,
    Traceable codec found log post.envelope ∧ post.Prepared codec

/-- Every request made so far is of an envelope that is known, with its prepared
body. -/
def PostsKnown (codec : Codec) (found : List File) (log : List Envelope)
    (state : State) : Prop :=
  ∀ post ∈ state.posts,
    Known codec found log post.envelope ∧ post.Prepared codec

theorem step_faithful (wholeOnly : settings.codec.WholeOnly) {label : Label}
    (named : state.Named) (faithful : Faithful settings.codec found log state)
    (posted : PostsTraceable settings.codec found log state)
    (moved : step settings state label = some after) :
    Faithful settings.codec found (log ++ label.envelopes) after ∧
      PostsTraceable settings.codec found (log ++ label.envelopes) after := by
  rcases step_cases moved with
    ⟨index, activity, action, rfl, at_, move⟩ | ⟨action, rfl, move⟩
  · refine ⟨move.faithful at_ named faithful, ?_⟩
    intro post member
    rw [move.sends.1.posts] at member
    obtain ⟨traceable, prepared⟩ := posted post member
    exact ⟨traceable.extend, prepared⟩
  · change Faithful settings.codec found (log ++ []) _ ∧
      PostsTraceable settings.codec found (log ++ []) _
    rw [List.append_nil]
    refine ⟨move.faithful wholeOnly named faithful, ?_⟩
    intro post member
    obtain ⟨new, posts, fresh⟩ := move.posts
    rw [posts] at member
    rcases List.mem_append.mp member with old | now
    · exact posted post old
    · obtain ⟨inHand, prepared⟩ := fresh post now
      exact ⟨faithful.posting inHand, prepared⟩

theorem exec_faithful (wholeOnly : settings.codec.WholeOnly)
    {labels : List Label} (reached : (machine settings).Reachable state)
    (faithful : Faithful settings.codec found log state)
    (posted : PostsTraceable settings.codec found log state)
    (run : (machine settings).exec state labels = some after) :
    Faithful settings.codec found (log ++ labels.flatMap Label.envelopes)
        after ∧
      PostsTraceable settings.codec found
        (log ++ labels.flatMap Label.envelopes) after := by
  induction labels generalizing state log with
  | nil =>
      cases run
      rw [List.flatMap_nil, List.append_nil]
      exact ⟨faithful, posted⟩
  | cons label labels induction =>
      obtain ⟨middle, moved, rest⟩ := Option.bind_eq_some_iff.mp run
      obtain ⟨stepped, requests⟩ := step_faithful wholeOnly
        (named_of_reachable reached) faithful posted moved
      have later := induction (.step reached trivial moved) stepped requests
        rest
      rw [List.flatMap_cons, ← List.append_assoc]
      exact later

end

end Transport

end Allstak
