import Allstak.HeaderGrammar
import Allstak.QueryFingerprint
import Allstak.ScrubFrame
import Allstak.SessionSummary
import Allstak.TraceChain

/-!
# The trace id of a request

A request behind the axum layer is told of by a span, a record and what is
captured with its scope; an outbound one by a span, a record and the headers it
leaves with.  The trace ids are read from the bodies that are sent.
-/

namespace Allstak

namespace OneTrace

open SessionSummary (sends)

def recordTraceId (record : Value) : Option String :=
  (record.get "traceId").bind Value.asString?

/-- The trace ids of the records in a batch. -/
def batchTraceIds (name : String) (body : Value) : List (Option String) :=
  (((body.get name).bind Value.asArray?).getD []).map recordTraceId

/-- The trace ids in the batches of the name, in the order they were sent. -/
def sentTraceIds (name : String) (world : World) : List (Option String) :=
  world.sent.flatMap fun sent => batchTraceIds name sent.2.body

private theorem span_traceId (span : SpanRecord) :
    recordTraceId span.toValue = some span.traceId := by
  have field : span.toValue.get "traceId" = text span.traceId :=
    @Value.get_record_field _ (by simp) ("traceId", text span.traceId) (by simp)
  rw [recordTraceId, field]
  rfl

private theorem request_traceId (request : HttpRequestRecord) :
    recordTraceId request.toValue = request.traceId := by
  have field : request.toValue.get "traceId" = optional request.traceId :=
    @Value.get_record_field _ (by simp) ("traceId", optional request.traceId)
      (by simp)
  rw [recordTraceId, field]
  cases request.traceId <;> rfl

theorem batchTraceIds_batch (name other : String) (record : Value) :
    batchTraceIds name (batch other [record]) =
      if name = other then [recordTraceId record] else [] := by
  split
  · rename_i same
    subst same
    have field : (batch name [record]).get name = some (.array [record]) :=
      Value.get_record (by simp) List.mem_cons_self
    rw [batchTraceIds, field]
    rfl
  · rename_i apart
    have field : (batch other [record]).get name = none := by
      apply Library.OrderedMap.lookup_insertAll_of_notMem
      simpa using apart
    rw [batchTraceIds, field]
    rfl

private theorem plain_spans : Plain "spans" := plain_field
    (by simp [PLAIN_KEYS])

private theorem plain_requests : Plain "requests" := plain_field
    (by simp [PLAIN_KEYS])

private theorem sentTraceIds_ingest (name : String) (client : ClientId)
    (capture : Client → Counters → Counters × List Envelope) (world : World) :
    sentTraceIds name (world.ingest client capture) =
      sentTraceIds name world ++
        (capture (world.clients client).client
            (world.clients client).counters).2.flatMap fun envelope =>
          batchTraceIds name envelope.body := by
  rw [sentTraceIds, World.ingest_sent, List.flatMap_append, List.flatMap_map]
  rfl

private theorem sends_markSessionCrashed (hub : HubId) (world : World) :
    sends hub (world.onHub hub Hub.markSessionCrashed) = sends hub world := by
  rw [sends, sends, World.onHub_hubs_self]
  rfl

section

variable [UnicodeTables]

/-- The scrubber leaves trace ids as they are. -/
theorem recordTraceId_scrubbed (record : Value) :
    recordTraceId (scrubValue record) = recordTraceId record := by
  have kept : ∀ value, scrubEntry "traceId" value = value := by
    intro value
    have ordinary : isSensitiveKey "traceId" = false := by decide
    have identity : isIdentityKey "traceId" = true := by decide
    rw [scrubEntry, ordinary, identity]
    rfl
  rw [recordTraceId, get_scrubValue, recordTraceId]
  cases record.get "traceId" with
  | none => rfl
  | some value => rw [Option.map_some, kept]

theorem batchTraceIds_scrubbed {name : String} (plain : Plain name)
    (body : Value) :
    batchTraceIds name (scrubValue body) = batchTraceIds name body := by
  rw [batchTraceIds, get_scrubValue, batchTraceIds]
  cases body.get name with
  | none => rfl
  | some value =>
      rw [Option.map_some, Option.bind_some, Option.bind_some,
        scrubEntry_plain plain, asArray?_scrubValue]
      cases value.asArray? with
      | none => rfl
      | some items => simp [Function.comp_def, recordTraceId_scrubbed]

/-- What a capture of one record sends. -/
theorem captureBatch_traceIds (client : Client) {name : String}
    (plain : Plain name) (other : String) (record : Value) (path : String)
    (category : DataCategory) (counters : Counters) :
    ((client.captureBatch other [record] path category counters).2.flatMap
        fun envelope => batchTraceIds name envelope.body) =
      if name = other ∧ client.isEnabled then [recordTraceId record] else [] := by
  rw [Client.captureBatch, List.isEmpty_cons, if_neg Bool.false_ne_true,
    Client.capturePayload, Client.deliver]
  cases client.isEnabled with
  | false => simp
  | true =>
      cases client.options.sendDefaultPii with
      | true => simp [batchTraceIds_batch]
      | false => simp [batchTraceIds_scrubbed plain, batchTraceIds_batch]

/-- The client bound to a hub gets a record of its own making. -/
theorem sentTraceIds_captureBatch {name : String} (plain : Plain name)
    (other : String) (record : Client → Value) (path : String)
    (category : DataCategory) (hub : HubId) {client : ClientId} {world : World}
    (bound : (world.hubs hub).client = some client) :
    sentTraceIds name (world.ingest client fun client counters =>
        client.captureBatch other [record client] path category counters) =
      sentTraceIds name world ++
        if name = other ∧ sends hub world then
          [recordTraceId (record (world.clients client).client)]
        else [] := by
  rw [sentTraceIds_ingest, captureBatch_traceIds _ plain, sends, bound]
  rfl

theorem finishSpan_traceIds {name : String} (plain : Plain name) (hub : HubId)
    (span : Span) (moment : Moment) (world : World) :
    sentTraceIds name (world.finishSpan hub span moment) =
      sentTraceIds name world ++
        if name = "spans" ∧ sends hub world then [some span.traceId]
        else [] := by
  rw [World.finishSpan]
  split
  · rename_i unbound
    simp [sends, unbound]
  · rename_i client bound
    simp only [Client.captureSpan, Client.captureSpans, List.map_cons,
      List.map_nil]
    rw [sentTraceIds_captureBatch plain "spans"
      (fun client => (span.toRecord client.options moment).toValue) _ _ hub
      bound, span_traceId]
    rfl

/-- A record goes to the client of the hub, if it has one. -/
theorem captureHttpRequest_traceIds {name : String} (plain : Plain name)
    (hub : HubId) (request : HttpRequestRecord) (world : World) :
    sentTraceIds name (match (world.hubs hub).client with
      | none => world
      | some client => world.ingest client fun client counters =>
          client.captureHttpRequest request counters) =
      sentTraceIds name world ++
        if name = "requests" ∧ sends hub world then [request.traceId]
        else [] := by
  split
  · rename_i unbound
    simp [sends, unbound]
  · rename_i client bound
    simp only [Client.captureHttpRequest, Client.captureHttpRequests,
      List.map_cons, List.map_nil]
    rw [sentTraceIds_captureBatch plain "requests" (fun _ => request.toValue) _ _
      hub bound, request_traceId]

private theorem recordRequest_traceIds {name : String} (plain : Plain name)
    (pending : Pending) (answer : Answer) (moment : Moment) (world : World) :
    sentTraceIds name (world.recordRequest pending answer moment) =
      sentTraceIds name world ++
        if name = "requests" ∧ sends pending.hub world then [pending.traceId]
        else [] := by
  exact captureHttpRequest_traceIds plain pending.hub
    (pending.record answer moment) world

theorem sends_finishSpan (hub other : HubId) (span : Span) (moment : Moment)
    (world : World) :
    sends hub (world.finishSpan other span moment) = sends hub world := by
  have same : ∀ client,
      ((world.finishSpan other span moment).clients client).client =
        (world.clients client).client := by
    intro client
    rw [World.finishSpan]
    split
    · rfl
    · exact World.ingest_options ..
  rw [sends, sends, World.finishSpan_hubs]
  simp only [same]

/-- The span of a request and its record are sent, with the trace id each of
them has. -/
theorem complete_traceIds {name : String} (plain : Plain name)
    {pending : Pending} {server : Span} (serves : pending.span = some server)
    (answer : Answer) (moment : Moment) (left : World) :
    sentTraceIds name (AllstakLayer.complete pending answer moment left) =
      sentTraceIds name left ++
        (if name = "spans" ∧ sends pending.hub left then [some server.traceId]
          else []) ++
        if name = "requests" ∧ sends pending.hub left then [pending.traceId]
        else [] := by
  rw [AllstakLayer.complete, serves, recordRequest_traceIds plain]
  dsimp only
  split
  · rw [finishSpan_traceIds plain, sends_finishSpan, sends_markSessionCrashed]
    rfl
  · rw [finishSpan_traceIds plain, sends_finishSpan]
    rfl

private theorem complete_spans {pending : Pending} {server : Span}
    (serves : pending.span = some server) (answer : Answer) (moment : Moment)
    (left : World) :
    sentTraceIds "spans" (AllstakLayer.complete pending answer moment left) =
      sentTraceIds "spans" left ++
        if sends pending.hub left then [some server.traceId] else [] := by
  rw [complete_traceIds plain_spans serves]
  simp

private theorem complete_requests {pending : Pending} {server : Span}
    (serves : pending.span = some server) (answer : Answer) (moment : Moment)
    (left : World) :
    sentTraceIds "requests" (AllstakLayer.complete pending answer moment left) =
      sentTraceIds "requests" left ++
        if sends pending.hub left then [pending.traceId] else [] := by
  rw [complete_traceIds plain_requests serves]
  simp

end

/-- What tells of a request behind the layer has the trace id: the scope it
starts with and what is captured with that, the span and the record. -/
structure Inbound [AlphanumericTable] (pending : Pending)
    (started left after : World) (id : String) : Prop where
  scope : (started.hubs pending.hub).scopes.top.traceId = some id
  errors : ∀ event : ErrorEvent, event.traceId = none →
    ((started.hubs pending.hub).scopes.top.applyToEvent event).traceId = some id
  queries : ∀ digest sql durationMs errorMessage databaseType timestampMillis,
    (started.buildRecord digest pending.hub sql durationMs errorMessage
      databaseType timestampMillis).traceId = some id
  span : sentTraceIds "spans" after = sentTraceIds "spans" left ++
    if sends pending.hub left then [some id] else []
  record : sentTraceIds "requests" after = sentTraceIds "requests" left ++
    if sends pending.hub left then [some id] else []

private theorem scope_traceId (current : HubId) (arrival : Arrival)
    (world : World) {server : Span}
    (serves : (AllstakLayer.new.call current arrival world).1.span =
      some server) :
    ((AllstakLayer.new.call current arrival world).2.hubs
        world.nextHub).scopes.top.traceId = some server.traceId := by
  rw [AllstakLayer.call_top]
  exact congrArg TraceContext.traceId
    (TraceChain.scope_context serves (world.hubs current).scopes.top)

section

variable [UnicodeTables] [AlphanumericTable] (current : HubId)
  (arrival : Arrival) (answer : Answer) (world left : World)

/-- Without a trace id in the headers a new one is minted for the span and the
scope, and the record goes without. -/
theorem inbound_iff :
    let pending := (AllstakLayer.new.call current arrival world).1
    let started := (AllstakLayer.new.call current arrival world).2
    let after := AllstakLayer.complete pending answer arrival.completed left
    (∃ id, Inbound pending started left after id) ↔
      Propagation.Traced arrival.request.header ∨
        sends pending.hub left = false := by
  intro pending started after
  obtain ⟨server, serves, continued⟩ : ∃ server, pending.span = some server ∧
      server.traceId = pending.traceId.getD arrival.newTraceId :=
    ⟨_, rfl, rfl⟩
  have scope := scope_traceId current arrival world serves
  have read : (∃ id, pending.traceId = some id) ↔
      Propagation.Traced arrival.request.header :=
    Propagation.extract_traced_iff arrival.request.header
  have spanSent := complete_spans serves answer arrival.completed left
  have recordSent := complete_requests serves answer arrival.completed left
  rw [← read]
  constructor
  · rintro ⟨id, inbound⟩
    have recorded := inbound.record
    rw [recordSent] at recorded
    cases sending : sends pending.hub left with
    | false => exact .inr rfl
    | true =>
        rw [sending] at recorded
        left
        exact ⟨id, by simpa using recorded⟩
  · intro condition
    have agreed : sends pending.hub left = true →
        pending.traceId = some server.traceId := by
      intro sending
      rcases condition with ⟨id, traced⟩ | silent
      · rw [continued, traced]
        rfl
      · rw [sending] at silent
        cases silent
    refine ⟨server.traceId, scope, ?_, ?_, spanSent, ?_⟩
    · intro event untraced
      rw [Scope.applyToEvent, untraced]
      exact scope
    · intro digest sql durationMs errorMessage databaseType timestampMillis
      exact scope
    · rw [recordSent]
      cases sending : sends pending.hub left with
      | false => rfl
      | true => rw [agreed sending]

end

/-- What tells of an outbound request has the trace id: the span, the record and,
where the active trace id is fit for the wire or there is none, the headers. -/
structure Outbound (active : Option String) (outgoing : Outgoing)
    (current : HubId) (left after : World) (id : String) : Prop where
  span : sentTraceIds "spans" after = sentTraceIds "spans" left ++
    if sends current left then [some id] else []
  record : sentTraceIds "requests" after = sentTraceIds "requests" left ++
    if sends outgoing.hub left then [some id] else []
  injected : (∀ valid, active = some valid → Propagation.IsWireId 32 valid) →
    outgoing.request.headers "x-allstak-trace-id" = some (some id) ∧
      ∃ span : String, outgoing.request.headers "traceparent" =
        some (some s!"00-{id}-{span}-01")

section

variable [UnicodeTables]

theorem outgoing_traceIds {name : String} (plain : Plain name)
    {outgoing : Outgoing} {client : Span} (calls : outgoing.span = some client)
    (current : HubId) (outcome : Outcome) (moment : Moment) (left : World) :
    sentTraceIds name (AllstakHttpMiddleware.default.complete outgoing current
        outcome moment left) =
      sentTraceIds name left ++
        (if name = "spans" ∧ sends current left then [some client.traceId]
          else []) ++
        if name = "requests" ∧ sends outgoing.hub left then
          [outgoing.context.traceId]
        else [] := by
  have records : AllstakHttpMiddleware.default.recordRequest = true := rfl
  rw [AllstakHttpMiddleware.complete, calls, if_pos records]
  refine (captureHttpRequest_traceIds plain outgoing.hub
    (AllstakHttpMiddleware.record outgoing outcome moment) _).trans ?_
  rw [finishSpan_traceIds plain, sends_finishSpan]
  rfl

/-- The client span, the record and the headers have the trace id of the context
the request left with. -/
theorem outbound {values : HeaderValues} (keeps : KeepsText values)
    (hub current : HubId) {departure : Departure}
    (traceId : Propagation.IsWireId 32 departure.newTraceId)
    (spanId : Propagation.IsWireId 16 departure.newSpanId)
    (outcome : Outcome) (moment : Moment) (world left : World) :
    let outgoing :=
      AllstakHttpMiddleware.default.send values hub departure world
    let after := AllstakHttpMiddleware.default.complete outgoing current outcome
      moment left
    ∃ id, Outbound (world.hubs hub).currentTraceContext.traceId outgoing current
      left after id := by
  intro outgoing after
  obtain ⟨client, calls, traced, _, _⟩ :=
    AllstakHttpMiddleware.send_span values hub departure world
  refine ⟨client.traceId, ?_, ?_, ?_⟩
  · rw [outgoing_traceIds plain_spans calls]
    simp
  · rw [outgoing_traceIds plain_requests calls, ← traced]
    simp [outgoing]
  · intro valid
    have wire : Propagation.IsWireId 32 client.traceId := by
      have continued : some client.traceId =
          ((world.hubs hub).currentTraceContext.traceId <|>
            some departure.newTraceId) := traced
      cases active : (world.hubs hub).currentTraceContext.traceId with
      | none =>
          rw [active] at continued
          rw [Option.some.inj continued]
          exact traceId
      | some id =>
          rw [active] at continued
          rw [Option.some.inj continued]
          exact valid id active
    obtain ⟨header, parent, _⟩ :=
      AllstakHttpMiddleware.send_headers keeps traced.symm wire spanId
    exact ⟨header, departure.newSpanId, parent⟩

end

/-- An outbound request always has one trace id.  A request behind the layer has
one if and only if it comes with one or nothing of it is sent. -/
theorem one_trace_iff [UnicodeTables] [AlphanumericTable]
    {values : HeaderValues} (keeps : KeepsText values)
    (current : HubId) (arrival : Arrival) (answer : Answer) (world left : World)
    (hub later : HubId) {departure : Departure}
    (traceId : Propagation.IsWireId 32 departure.newTraceId)
    (spanId : Propagation.IsWireId 16 departure.newSpanId)
    (outcome : Outcome) (moment : Moment) (before answered : World) :
    let pending := (AllstakLayer.new.call current arrival world).1
    let started := (AllstakLayer.new.call current arrival world).2
    let outgoing :=
      AllstakHttpMiddleware.default.send values hub departure before
    ((∃ id, Inbound pending started left
          (AllstakLayer.complete pending answer arrival.completed left) id) ↔
        Propagation.Traced arrival.request.header ∨
          sends pending.hub left = false) ∧
      ∃ id, Outbound (before.hubs hub).currentTraceContext.traceId outgoing later
        answered (AllstakHttpMiddleware.default.complete outgoing later outcome
          moment answered) id :=
  ⟨inbound_iff current arrival answer world left,
    outbound keeps hub later traceId spanId outcome moment before answered⟩

/-- A request that comes with a trace, and one that leaves without. -/
theorem one_trace_iff_edge :
    let arrival := TraceChain.relay.receive TraceChain.edgeHeaders
    let served := AllstakLayer.new.call World.main arrival World.queryWorld
    let outgoing := AllstakHttpMiddleware.default.send TraceChain.headerValue
      World.main TraceChain.relay.departure World.queryWorld
    (∃ id, @Inbound asciiAlphanumeric served.1 served.2 served.2
        (@AllstakLayer.complete asciiTables served.1 (.response 200)
          arrival.completed served.2) id) ∧
      ∃ id, Outbound none outgoing World.main World.queryWorld
        (@AllstakHttpMiddleware.complete asciiTables .default outgoing World.main
          (.response 200) arrival.completed World.queryWorld) id := by
  intro arrival served outgoing
  have traced : Propagation.Traced arrival.request.header :=
    (Propagation.extract_traced_iff arrival.request.header).mp ⟨_, rfl⟩
  obtain ⟨inbound, outbound⟩ := @one_trace_iff asciiTables asciiAlphanumeric
    TraceChain.headerValue TraceChain.headerValue_keepsText World.main arrival
    (.response 200) World.queryWorld served.2 World.main World.main
    TraceChain.relay.departure (by decide) (by decide) (.response 200)
    arrival.completed World.queryWorld World.queryWorld
  exact ⟨inbound.mpr (.inl traced), outbound⟩

/-- Without a trace id in the headers the scope and the span have a new one and
the record has none. -/
theorem untraced_request_splits :
    let arrival := TraceChain.relay.arrival
    let pending := (AllstakLayer.new.call World.main arrival World.queryWorld).1
    let started := (AllstakLayer.new.call World.main arrival World.queryWorld).2
    let after := @AllstakLayer.complete asciiTables pending (.response 200)
      arrival.completed started
    (started.hubs pending.hub).scopes.top.traceId = some arrival.newTraceId ∧
      sentTraceIds "spans" after = [some arrival.newTraceId] ∧
      sentTraceIds "requests" after = [none] ∧
      ¬ ∃ id, @Inbound asciiAlphanumeric pending started started after id := by
  intro arrival pending started after
  have sending : sends pending.hub started = true := by decide
  have untraced : pending.traceId = none := by decide
  refine ⟨by decide, ?_, ?_, ?_⟩
  · have spans := @complete_spans asciiTables pending _ rfl (.response 200)
      arrival.completed started
    rw [sending] at spans
    exact spans
  · have requests := @complete_requests asciiTables pending _ rfl (.response 200)
      arrival.completed started
    rw [sending, untraced] at requests
    exact requests
  · intro holds
    rcases (@inbound_iff asciiTables asciiAlphanumeric World.main arrival
      (.response 200) World.queryWorld started).mp holds with traced | silent
    · obtain ⟨id, read⟩ :=
        (Propagation.extract_traced_iff arrival.request.header).mpr traced
      have none_ : (Propagation.extract arrival.request.header).traceId = none :=
        untraced
      rw [none_] at read
      cases read
    · rw [sending] at silent
      cases silent

end OneTrace

end Allstak
