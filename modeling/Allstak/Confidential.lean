import Allstak.ClientRedaction
import Allstak.Diagnostics
import Allstak.Transport.Provenance

/-!
# What a client's envelopes become

The transport of a client holds, posts and stores the envelopes the client
handed over, unaltered and under their numbers, and what it found in its spool.
So when `send_default_pii` is off, everything on the wire and on disk has gone
through the scrubber, over any number of processes that share the directory one
after the other.
-/

namespace Allstak

namespace Pipeline

open Transport (Faithful PostsTraceable PostsKnown)

private theorem envelopes_handOver (thread : Nat) (envelopes : List Envelope) :
    (handOver thread envelopes).flatMap Transport.Label.envelopes =
      envelopes := by
  induction envelopes with
  | nil => rfl
  | cons envelope envelopes induction =>
      exact congrArg (envelope :: ·) induction

private theorem envelopes_of_quiet {label : Transport.Label}
    (quiet : sends label = false) : label.envelopes = [] := by
  cases label with
  | worker action => rfl
  | thread index action =>
      cases action with
      | send envelope => cases quiet
      | _ => rfl

/-- The transport holds what the client handed over and what was found. -/
structure Traced (settings : Transport.Settings) (found : List File)
    (state : State) : Prop where
  reached : (Transport.machine settings).Reachable state.transport
  faithful : Faithful settings.codec found state.ledger.handed state.transport
  posted : PostsTraceable settings.codec found state.ledger.handed
    state.transport

theorem traced_of_starts {settings : Transport.Settings} {state : State}
    (fresh : state.ledger = {}) (starts : Transport.Starts state.transport) :
    Traced settings state.transport.files state := by
  refine ⟨.start starts, ?_, ?_⟩
  · rw [fresh]
    exact Transport.faithful_of_starts starts
  · obtain ⟨calls, directory, spawned, -, -, same⟩ := starts
    intro post member
    rw [same] at member
    cases member

section

variable [UnicodeTables]

theorem Traced.step {client : Client} {settings : Transport.Settings}
    (wholeOnly : settings.codec.WholeOnly) {found : List File}
    {before after : State} {label : Label}
    (traced : Traced settings found before)
    (moved : step client settings before label = some after) :
    Traced settings found after := by
  cases label with
  | call thread call =>
      obtain ⟨transport, run, rfl⟩ := Option.map_eq_some_iff.mp moved
      obtain ⟨handed, appended⟩ := call_handed client before.ledger call
      rw [appended, List.drop_left] at run
      obtain ⟨faithful, posted⟩ := Transport.exec_faithful wholeOnly
        traced.reached traced.faithful traced.posted run
      rw [envelopes_handOver, ← appended] at faithful posted
      exact ⟨traced.reached.execWhere (fun _ _ _ => trivial) run, faithful,
        posted⟩
  | transport label =>
      dsimp only [Pipeline.step] at moved
      split at moved
      · cases moved
      · rename_i quiet
        obtain ⟨transport, stepped, rfl⟩ := Option.map_eq_some_iff.mp moved
        obtain ⟨faithful, posted⟩ := Transport.step_faithful wholeOnly
          (Transport.named_of_reachable traced.reached) traced.faithful
          traced.posted stepped
        rw [envelopes_of_quiet (Bool.eq_false_of_not_eq_true quiet),
          List.append_nil] at faithful posted
        exact ⟨.step traced.reached trivial stepped, faithful, posted⟩

/-- In every run, each envelope in the transport is the one the client handed
over under its number; each file is as it was found, or holds the beginning of
what was serialized for such an envelope; and what is being posted, like every
request made, is of an envelope the client handed over or a found file is read
as.  A request has the prepared body of its envelope. -/
theorem nothing_altered (client : Client) (settings : Transport.Settings)
    (wholeOnly : settings.codec.WholeOnly) (start state : State)
    (labels : List Label) (starts : (machine client settings).start start)
    (run : (machine client settings).exec start labels = some state)
    (givesBack : ∀ envelope ∈ state.ledger.handed,
      settings.codec.GivesBack envelope.persisted) :
    let handed := state.ledger.handed
    let found := start.transport.files
    (∀ parcel ∈ state.transport.parcels,
        handed[parcel.id]? = some parcel.envelope) ∧
      (∀ file ∈ state.transport.files,
        Genuine settings.codec found handed file) ∧
      (∀ envelope ∈ state.transport.worker.posting,
        Known settings.codec found handed envelope) ∧
      PostsKnown settings.codec found handed state.transport := by
  intro handed found
  have traced : Traced settings found state := by
    apply Library.Machine.exec_induct _ (traced_of_starts starts.1 starts.2) run
    exact fun before label after traced moved => traced.step wholeOnly moved
  refine ⟨traced.faithful.parcels, traced.faithful.files, ?_, ?_⟩
  · intro envelope member
    exact (traced.faithful.posting member).known givesBack
  · intro post member
    obtain ⟨traceable, prepared⟩ := traced.posted post member
    exact ⟨traceable.known givesBack, prepared⟩

end

def readyBody : Value :=
  .object [("level", .string "info"), ("message", .string "ready")]

def readyEnvelope : Envelope :=
  { path := "/ingest/v1/logs", category := .log, body := readyBody }

def readyFile : Bytes :=
  Transport.asciiBytes
    ("\x7b\"path\":\"/ingest/v1/logs\",\"category\":\"log\"," ++
      "\"body\":\x7b\"level\":\"info\",\"message\":\"ready\"\x7d\x7d")

/-- The JSON library on this envelope. -/
def readyCodec : Codec where
  toVec
    | .object [("level", .string "info"), ("message", .string "ready")] =>
        some (Transport.asciiBytes
          "\x7b\"level\":\"info\",\"message\":\"ready\"\x7d")
    | _ => none
  gzip _ := none
  persistedToVec
    | { path := "/ingest/v1/logs", category := "log"
        body := .object
          [("level", .string "info"), ("message", .string "ready")] } =>
        some readyFile
    | _ => none
  persistedFromSlice bytes :=
    if bytes = readyFile then some readyEnvelope.persisted else none

private theorem readyCodec_roundTrips : readyCodec.RoundTrips := by
  intro persisted bytes encoded
  unfold readyCodec at encoded ⊢
  dsimp only at encoded ⊢
  split at encoded
  · cases encoded
    rfl
  · cases encoded

theorem readyCodec_wholeOnly : readyCodec.WholeOnly := by
  intro persisted bytes part encoded begins
  unfold readyCodec at encoded ⊢
  dsimp only at encoded ⊢
  split at encoded
  · cases encoded
    by_cases whole : part = readyFile
    · exact .inl whole
    · exact .inr (if_neg whole)
  · cases encoded

def readySpool : Transport.Settings :=
  { codec := readyCodec
    spool := some (.fromOptions 10 1000)
    transportQueueSize := 0 }

/-- A log overflows into the spool; the write stops after so many bytes, or is
complete. -/
def readyOverflow (failedAfter : Option Nat) : List Label :=
  [.call 0 (.operate (.captureLog { level := "info", message := "ready" })),
    .transport (.thread 0 .lock), .transport (.thread 0 (.offer false)),
    .transport (.thread 0 (.spool (.begin true (some (1700000000000, 7))))),
    .transport (.thread 0 (.spool (.write failedAfter)))]

/-- A file that is torn after nine bytes. -/
theorem nothing_altered_torn :
    ∃ state : State,
      state.transport.files.map (fun file => file.content.length) = [9] ∧
      ∀ file ∈ state.transport.files,
        Genuine readyCodec [] state.ledger.handed file := by
  let _ := asciiTables
  have run : ((machine quietClient readySpool).exec
      { transport := Transport.oneThread } (readyOverflow (some 9))).map
        (fun state =>
          state.transport.files.map fun file => file.content.length) =
      some [9] := by
    decide +kernel
  obtain ⟨state, executed, seen⟩ := Option.map_eq_some_iff.mp run
  obtain ⟨-, files, -⟩ := nothing_altered quietClient readySpool
    readyCodec_wholeOnly { transport := Transport.oneThread } state
    (readyOverflow (some 9)) ⟨rfl, Transport.oneThread_starts⟩ executed
    fun envelope _ => readyCodec_roundTrips envelope.persisted
  exact ⟨state, seen, files⟩

section

variable [UnicodeTables]

def Scrubbed (envelope : Envelope) : Prop :=
  ∃ payload, envelope.body = scrubValue payload

theorem perform_scrubbed {client : Client} (operation : Operation)
    (counters : Counters)
    (privateByDefault : client.options.sendDefaultPii = false) :
    ∀ envelope ∈ (client.perform operation counters).2, Scrubbed envelope := by
  intro envelope member
  by_cases enabled : client.isEnabled = true
  · have body := List.mem_map_of_mem (f := Envelope.body) member
    rw [client.perform_bodies operation counters enabled
      privateByDefault] at body
    obtain ⟨payload, -, same⟩ := List.mem_map.mp body
    exact ⟨payload, same.symm⟩
  · have nothing := client.run_of_disabled [operation] counters
      (Bool.eq_false_of_not_eq_true enabled)
    simp only [Client.run, List.append_nil] at nothing
    rw [nothing] at member
    cases member

theorem call_scrubbed {client : Client} {ledger : Ledger} (call : ClientCall)
    (privateByDefault : client.options.sendDefaultPii = false)
    (scrubbed : ∀ envelope ∈ ledger.handed, Scrubbed envelope) :
    ∀ envelope ∈ (client.call ledger call).handed, Scrubbed envelope := by
  cases call with
  | filter turn breadcrumb => exact scrubbed
  | operate operation =>
      intro envelope member
      rcases List.mem_append.mp member with old | new
      · exact scrubbed envelope old
      · exact perform_scrubbed operation ledger.counters privateByDefault
          envelope new

theorem step_scrubbed {client : Client} {settings : Transport.Settings}
    {before after : State} {label : Label}
    (privateByDefault : client.options.sendDefaultPii = false)
    (scrubbed : ∀ envelope ∈ before.ledger.handed, Scrubbed envelope)
    (moved : step client settings before label = some after) :
    ∀ envelope ∈ after.ledger.handed, Scrubbed envelope := by
  cases label with
  | call thread call =>
      obtain ⟨transport, -, rfl⟩ := Option.map_eq_some_iff.mp moved
      exact call_scrubbed call privateByDefault scrubbed
  | transport label =>
      dsimp only [step] at moved
      split at moved
      · cases moved
      · obtain ⟨transport, -, rfl⟩ := Option.map_eq_some_iff.mp moved
        exact scrubbed

end

/-- The running process, how many there were before it, and what their clients
handed over. -/
structure Lineage where
  generation : Nat := 0
  process : State
  earlier : List Envelope := []

namespace Lineage

section

variable [UnicodeTables]

inductive Label where
  | move (label : Pipeline.Label)
  | restart (calls : Nat) (spawned : Bool)

/-- Everything that clients handed over so far. -/
def handed (lineage : Lineage) : List Envelope :=
  lineage.earlier ++ lineage.process.ledger.handed

/-- The process ends anywhere; the next one has a new client and a new transport
over the files that are left. -/
def restart (calls : Nat) (spawned : Bool) (lineage : Lineage) : Lineage :=
  let before : Transport.Lifetimes :=
    { current := lineage.process.transport, origins := [] }
  { generation := lineage.generation + 1
    process := { transport := (before.restart calls spawned).current }
    earlier := lineage.handed }

/-- Each generation has its own client and settings. -/
def step (clients : Nat → Client) (settings : Nat → Transport.Settings)
    (lineage : Lineage) : Label → Option Lineage
  | .move label =>
      (Pipeline.step (clients lineage.generation) (settings lineage.generation)
        lineage.process label).map fun process => { lineage with process }
  | .restart calls spawned => some (lineage.restart calls spawned)

def machine (clients : Nat → Client) (settings : Nat → Transport.Settings) :
    Library.Machine Lineage Label where
  start lineage := ∃ process : State, process.ledger = {} ∧
    Transport.Starts process.transport ∧ lineage = { process }
  next := step clients settings

/-- What the worker is posting, or a file is read as. -/
def Exposed (codec : Codec) (process : State) (envelope : Envelope) : Prop :=
  envelope ∈ process.transport.worker.posting ∨
    ∃ file ∈ process.transport.files,
      codec.decode file.content = some envelope

/-- What this process found, earlier clients handed over or the first one
found. -/
structure Descends (codec : Codec) (settings : Transport.Settings)
    (first : List File) (lineage : Lineage) : Prop where
  traced : ∃ found, Traced settings found lineage.process ∧
    ∀ file ∈ found, ∀ envelope, codec.decode file.content = some envelope →
      Traceable codec first lineage.earlier envelope
  scrubbed : ∀ envelope ∈ lineage.handed, Scrubbed envelope

variable {codec : Codec} {settings : Transport.Settings} {first : List File}
  {lineage : Lineage}

theorem Descends.exposed (same : settings.codec = codec)
    (wholeOnly : codec.WholeOnly)
    (descends : lineage.Descends codec settings first) {envelope : Envelope}
    (exposed : Exposed codec lineage.process envelope) :
    Traceable codec first lineage.handed envelope := by
  subst same
  obtain ⟨found, traced, old⟩ := descends.traced
  have traceable : Traceable settings.codec found lineage.process.ledger.handed
      envelope := by
    rcases exposed with posting | ⟨file, inside, decoded⟩
    · exact traced.faithful.posting posting
    · exact (traced.faithful.files file inside).traceable wholeOnly decoded
  rcases traceable with
    (now | ⟨file, inside, decoded⟩) | ⟨origin, now, content, encoded, decoded⟩
  · exact .inl (.inl (List.mem_append_right _ now))
  · exact (old file inside envelope decoded).extend
  · exact .inr ⟨origin, List.mem_append_right _ now, content, encoded, decoded⟩

theorem Descends.restart (same : settings.codec = codec)
    (wholeOnly : codec.WholeOnly)
    (descends : lineage.Descends codec settings first)
    (next : Transport.Settings) (calls : Nat) (spawned : Bool) :
    (lineage.restart calls spawned).Descends codec next first := by
  obtain ⟨found, traced, -⟩ := descends.traced
  have names := (Transport.named_of_reachable traced.reached).distinct
  have starts : Transport.Starts
      (lineage.restart calls spawned).process.transport := by
    refine ⟨calls, Transport.Lifetimes.leftover lineage.process.transport.files,
      spawned, ?_, Transport.Lifetimes.leftover_items _, rfl⟩
    rw [Transport.Lifetimes.leftover_names]
    exact names
  constructor
  · refine ⟨_, traced_of_starts rfl starts, ?_⟩
    intro file inside envelope decoded
    obtain ⟨index, before, rfl⟩ := List.mem_mapIdx.mp inside
    apply descends.exposed same wholeOnly
    exact .inr ⟨_, List.getElem_mem before, decoded⟩
  · intro envelope member
    apply descends.scrubbed
    simpa [handed, Lineage.restart] using member

theorem descends_of_exec {clients : Nat → Client}
    {settings : Nat → Transport.Settings}
    (same : ∀ generation, (settings generation).codec = codec)
    (wholeOnly : codec.WholeOnly)
    (privateByDefault : ∀ generation,
      (clients generation).options.sendDefaultPii = false)
    {start : Lineage} {labels : List Label}
    (starts : (machine clients settings).start start)
    (run : (machine clients settings).exec start labels = some lineage) :
    lineage.Descends codec (settings lineage.generation)
      start.process.transport.files := by
  refine Library.Machine.exec_induct (motive := fun lineage =>
    lineage.Descends codec (settings lineage.generation)
      start.process.transport.files) ?_ ?_ run
  · intro before label after descends moved
    cases label with
    | restart calls spawned =>
        cases moved
        exact descends.restart (same _) wholeOnly _ calls spawned
    | move label =>
        obtain ⟨process, stepped, rfl⟩ := Option.map_eq_some_iff.mp moved
        obtain ⟨found, traced, old⟩ := descends.traced
        have whole := (same before.generation).symm ▸ wholeOnly
        refine ⟨⟨found, traced.step whole stepped, old⟩, ?_⟩
        have earlier : ∀ envelope ∈ before.earlier, Scrubbed envelope :=
          fun envelope member =>
            descends.scrubbed envelope (List.mem_append_left _ member)
        have now := step_scrubbed (privateByDefault before.generation)
          (fun envelope member =>
            descends.scrubbed envelope (List.mem_append_right _ member)) stepped
        intro envelope member
        rcases List.mem_append.mp member with old | new
        · exact earlier envelope old
        · exact now envelope new
  · obtain ⟨process, fresh, opened, rfl⟩ := starts
    constructor
    · exact ⟨_, traced_of_starts fresh opened,
        fun file inside envelope decoded => .inl (.inr ⟨file, inside, decoded⟩)⟩
    · intro envelope member
      simp [handed, fresh] at member

/-- With `send_default_pii` off in every process that uses the directory, in
every run, wherever processes end, what a worker posts and what a file is read
as was handed over by one of the clients, or could be read in the directory at
the first start; and the body of all that clients hand over has gone through
the scrubber. -/
theorem scrubbed_everywhere (codec : Codec) (clients : Nat → Client)
    (settings : Nat → Transport.Settings)
    (same : ∀ generation, (settings generation).codec = codec)
    (wholeOnly : codec.WholeOnly)
    (privateByDefault : ∀ generation,
      (clients generation).options.sendDefaultPii = false)
    (start lineage : Lineage) (labels : List Label)
    (starts : (machine clients settings).start start)
    (run : (machine clients settings).exec start labels = some lineage)
    (givesBack : ∀ envelope ∈ lineage.handed,
      codec.GivesBack envelope.persisted) :
    (∀ envelope, Exposed codec lineage.process envelope →
        envelope ∈ lineage.handed ∨
          ∃ file ∈ start.process.transport.files,
            codec.decode file.content = some envelope) ∧
      ∀ envelope ∈ lineage.handed,
        ∃ payload, envelope.body = scrubValue payload := by
  have descends := descends_of_exec same wholeOnly privateByDefault starts run
  refine ⟨?_, descends.scrubbed⟩
  intro envelope exposed
  exact (descends.exposed (same _) wholeOnly exposed).known givesBack

end

def firstProcess : Lineage :=
  { process := { transport := Transport.oneThread } }

/-- A log is stored, the process is killed, and the next one posts it. -/
theorem scrubbed_everywhere_replayed :
    ∃ lineage : Lineage, lineage.generation = 1 ∧
      lineage.process.transport.worker.posting.length = 1 ∧
      ∀ envelope ∈ lineage.process.transport.worker.posting,
        envelope ∈ lineage.handed := by
  let _ := asciiTables
  have run : ((machine (fun _ => Client.privateClient)
      fun _ => readySpool).exec firstProcess
        ((readyOverflow none).map Label.move ++
          [.restart 1 true, .move (.transport (.worker (.build true))),
            .move (.transport (.worker .list)),
            .move (.transport (.worker .load))])).map
        (fun lineage =>
          (lineage.generation,
            lineage.process.transport.worker.posting.length)) =
      some (1, 1) := by
    decide +kernel
  obtain ⟨lineage, executed, seen⟩ := Option.map_eq_some_iff.mp run
  simp only [Prod.mk.injEq] at seen
  obtain ⟨exposed, -⟩ := scrubbed_everywhere readyCodec
    (fun _ => Client.privateClient) (fun _ => readySpool) (fun _ => rfl)
    readyCodec_wholeOnly (fun _ => rfl) firstProcess lineage _
    ⟨_, rfl, Transport.oneThread_starts, rfl⟩ executed
    fun envelope _ => readyCodec_roundTrips envelope.persisted
  refine ⟨lineage, seen.1, seen.2, ?_⟩
  intro envelope posting
  rcases exposed envelope (.inl posting) with handed | ⟨file, inside, -⟩
  · exact handed
  · cases inside

end Lineage

end Pipeline

end Allstak
