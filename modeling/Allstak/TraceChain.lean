import Allstak.Outbound
import Mathlib.Data.List.Chain

/-!
# A trace through a chain of services

Every service of a chain receives the headers the one before it sent.  The axum
layer derives the request's hub from them, and the outbound middleware, run
with that hub current, stamps the headers for the next service.
-/

namespace Allstak

namespace TraceChain

/-- A service: its process and current hub when a request arrives, the request
but for its headers, what the handler does before it sends a request on, and
that request. -/
structure Service where
  world : World
  current : HubId
  arrival : Arrival
  handler : World → World
  departure : Departure

/-- What one service makes of a request. -/
structure Leg where
  pending : Pending
  outgoing : Outgoing

def Service.receive (service : Service) (headers : Headers) : Arrival :=
  { service.arrival with request := { service.arrival.request with headers } }

/-- The request behind the layer, and the process when the handler has got to
sending the next one. -/
def Service.handle (service : Service) (headers : Headers) : Pending × World :=
  let (pending, world) :=
    AllstakLayer.new.call service.current (service.receive headers) service.world
  (pending, service.handler world)

def Service.serve (values : HeaderValues) (service : Service)
    (headers : Headers) : Leg :=
  let (pending, world) := service.handle headers
  { pending
    outgoing := AllstakHttpMiddleware.default.send values pending.hub
      service.departure world }

/-- The legs of a request through a chain. -/
def travel (values : HeaderValues) : Headers → List Service → List Leg
  | _, [] => []
  | headers, service :: services =>
      let leg := service.serve values headers
      leg :: travel values leg.outgoing.request.headers services

/-- What the layer finds in the headers. -/
def found (headers : Headers) : TraceContext :=
  Propagation.extract fun name => (headers name).join

/-- The names under which ids are read. -/
def idHeaders : List String :=
  Propagation.TRACEPARENT :: Propagation.TRACE_ID_HEADERS ++
    Propagation.REQUEST_ID_HEADERS

/-- Minted ids are valid, the handler leaves the trace of the request's hub
alone, and the request it sends has no ids on it yet. -/
structure Service.Sound (service : Service) : Prop where
  traceId : Propagation.IsWireId 32 service.arrival.newTraceId
  spanId : Propagation.IsWireId 16 service.departure.newSpanId
  handler : ∀ world : World,
    ((service.handler world).hubs service.world.nextHub).currentTraceContext =
      (world.hubs service.world.nextHub).currentTraceContext
  bare : ∀ name ∈ idHeaders, service.departure.request.headers name = none

/-- The spans and the stamped headers carry the trace id, the client span is a
child of the server span, and the request id is found. -/
structure Leg.Carries (leg : Leg) (traceId : String) (requestId : Option String)
    (server client : Span) : Prop where
  serves : leg.pending.span = some server
  calls : leg.outgoing.span = some client
  serverTrace : server.traceId = traceId
  clientTrace : client.traceId = traceId
  nested : client.parentSpanId = some server.spanId
  traceHeader : leg.outgoing.request.headers "x-allstak-trace-id" =
    some (some traceId)
  traceparent : leg.outgoing.request.headers "traceparent" =
    some (some s!"00-{traceId}-{client.spanId}-01")
  request : ∀ id, requestId = some id → leg.pending.requestId = some id

/-- The server span of the one leg is a child of the client span of the other. -/
def Leg.Follows (before after : Leg) : Prop :=
  ∃ client server, before.outgoing.span = some client ∧
    after.pending.span = some server ∧ server.parentSpanId = some client.spanId

/-- The scope of a request with a span. -/
theorem scope_context {pending : Pending} {server : Span}
    (serves : pending.span = some server) (base : Scope) :
    (pending.scope base).traceContext =
      { traceId := some server.traceId
        parentSpanId := some server.spanId
        requestId := pending.requestId <|> base.requestId } := by
  unfold Pending.scope
  rw [serves]
  cases pending.traceId <;> cases pending.requestId <;> rfl

/-- The server span continues what the headers say, and its ids are on the
request's hub when a request is sent on. -/
theorem handle_context {service : Service} (sound : service.Sound)
    (headers : Headers) :
    ∃ server, (service.handle headers).1.span = some server ∧
      server.traceId =
        (found headers).traceId.getD service.arrival.newTraceId ∧
      server.parentSpanId = (found headers).parentSpanId ∧
      ((service.handle headers).2.hubs
          (service.handle headers).1.hub).currentTraceContext =
        { traceId := some server.traceId
          parentSpanId := some server.spanId
          requestId := (found headers).requestId <|>
            (service.world.hubs service.current).scopes.top.requestId } := by
  refine ⟨_, rfl, rfl, rfl, ?_⟩
  have top := AllstakLayer.call_top AllstakLayer.new service.current
    (service.receive headers) service.world
  have context := sound.handler (AllstakLayer.new.call service.current
    (service.receive headers) service.world).2
  simp only [Hub.currentTraceContext] at context
  rw [top, scope_context rfl] at context
  exact context

/-- What the next service finds in the headers a leg sends. -/
theorem found_next {headers : Headers} {traceId spanId : String}
    (trace : Propagation.IsWireId 32 traceId)
    (span : Propagation.IsWireId 16 spanId)
    (parent : headers "traceparent" = some (some s!"00-{traceId}-{spanId}-01")) :
    (found headers).traceId = some traceId ∧
      (found headers).parentSpanId = some spanId := by
  have parsed : (((headers Propagation.TRACEPARENT).join).bind
      Propagation.parseTraceparent) = some (traceId, spanId) := by
    rw [Propagation.TRACEPARENT, parent, Option.join_some, Option.bind_some]
    exact Propagation.parseTraceparent_format trace span
  constructor
  · rw [found, Propagation.extract, parsed]
    rfl
  · rw [found, Propagation.extract, parsed]
    rfl

private theorem found_request_next {headers : Headers} {id : String}
    (present : id ≠ "") (none_ : headers "x-request-id" = none)
    (sent : headers "x-allstak-request-id" = some (some id)) :
    (found headers).requestId = some id := by
  simp [found, Propagation.extract, Propagation.first,
    Propagation.REQUEST_ID_HEADERS, none_, sent, present, Option.filter]

/-- One leg carries the trace, and the next service finds it. -/
theorem serve_carries {values : HeaderValues} (keeps : KeepsText values)
    {service : Service} (sound : service.Sound) {headers : Headers}
    {traceId : String} (trace : Propagation.IsWireId 32 traceId)
    (same : (found headers).traceId.getD service.arrival.newTraceId = traceId)
    {requestId : Option String}
    (request : ∀ id, requestId = some id →
      (found headers).requestId = some id ∧ isHeaderText id = true) :
    let leg := service.serve values headers
    ∃ server client, leg.Carries traceId requestId server client ∧
      server.parentSpanId = (found headers).parentSpanId ∧
      (found leg.outgoing.request.headers).traceId = some traceId ∧
      (found leg.outgoing.request.headers).parentSpanId = some client.spanId ∧
      ∀ id, requestId = some id →
        (found leg.outgoing.request.headers).requestId = some id := by
  intro leg
  obtain ⟨server, serves, continues, parent, active⟩ :=
    handle_context sound headers
  rw [same] at continues
  rw [continues] at active
  let hub := (service.handle headers).1.hub
  let world := (service.handle headers).2
  have context : leg.outgoing.context =
      { traceId := some traceId
        parentSpanId := some server.spanId
        requestId := (found headers).requestId <|>
          (service.world.hubs service.current).scopes.top.requestId } := by
    change { (world.hubs hub).currentTraceContext with
      traceId := (world.hubs hub).currentTraceContext.traceId <|>
        some service.departure.newTraceId } = _
    rw [active]
    rfl
  obtain ⟨client, calls, clientTrace, nested, spanId⟩ :=
    AllstakHttpMiddleware.send_span values hub service.departure world
  obtain ⟨traceHeader, traceparent, untouched, asked⟩ :=
    AllstakHttpMiddleware.send_headers keeps
      (congrArg TraceContext.traceId context) trace sound.spanId
  rw [← spanId] at traceparent
  rw [sound.bare "x-request-id" (by decide)] at untouched
  have wireSpan : Propagation.IsWireId 16 client.spanId := spanId ▸ sound.spanId
  obtain ⟨nextTrace, nextParent⟩ := found_next trace wireSpan traceparent
  refine ⟨server, client, ?_, parent, nextTrace, nextParent, ?_⟩
  · constructor
    · exact serves
    · exact calls
    · exact continues
    · exact Option.some.inj
        (clientTrace.trans (congrArg TraceContext.traceId context))
    · exact nested.trans (congrArg TraceContext.parentSpanId context)
    · exact traceHeader
    · exact traceparent
    · exact fun id requested => (request id requested).1
  · intro id requested
    obtain ⟨here, legal⟩ := request id requested
    have kept : leg.outgoing.context.requestId = some id := by
      rw [context, here]
      rfl
    exact found_request_next (Propagation.first_ne_empty here) untouched
      (asked id kept legal)

@[simp] theorem travel_length (values : HeaderValues) (headers : Headers)
    (services : List Service) :
    (travel values headers services).length = services.length := by
  induction services generalizing headers with
  | nil => rfl
  | cons service services induction =>
      rw [travel, List.length_cons, induction, List.length_cons]

/-- The id the first service starts or continues the trace with, valid, goes
through the legs of the chain. -/
theorem travel_carries {values : HeaderValues} (keeps : KeepsText values)
    {services : List Service} (sound : ∀ service ∈ services, service.Sound)
    {headers : Headers} {traceId : String}
    (trace : Propagation.IsWireId 32 traceId)
    (same : ∀ service ∈ services.head?,
      (found headers).traceId.getD service.arrival.newTraceId = traceId)
    {requestId : Option String}
    (request : ∀ id, requestId = some id →
      (found headers).requestId = some id ∧ isHeaderText id = true) :
    let legs := travel values headers services
    (∀ leg ∈ legs, ∃ server client,
        leg.Carries traceId requestId server client) ∧
      legs.IsChain Leg.Follows ∧
      ∀ leg ∈ legs.head?, ∃ server, leg.pending.span = some server ∧
        server.parentSpanId = (found headers).parentSpanId := by
  induction services generalizing headers with
  | nil => simp [travel]
  | cons service services induction =>
      rw [List.forall_mem_cons] at sound
      obtain ⟨server, client, carries, parent, nextTrace, nextParent, nextRequest⟩ :=
        serve_carries keeps sound.1 trace (same service rfl) request
      have nextSame : ∀ next ∈ services.head?,
          (found (service.serve values headers).outgoing.request.headers).traceId.getD
            next.arrival.newTraceId = traceId := by
        intro next _
        rw [nextTrace]
        rfl
      obtain ⟨later, chained, starts⟩ := induction sound.2 nextSame
        fun id requested => ⟨nextRequest id requested, (request id requested).2⟩
      refine ⟨?_, ?_, ?_⟩
      · rw [travel, List.forall_mem_cons]
        exact ⟨⟨server, client, carries⟩, later⟩
      · rw [travel, List.isChain_cons]
        refine ⟨?_, chained⟩
        intro next member
        obtain ⟨nextServer, serves, under⟩ := starts next member
        exact ⟨client, nextServer, carries.calls, serves, under.trans nextParent⟩
      · intro leg member
        rw [travel, List.head?_cons, Option.mem_some_iff] at member
        rw [← member]
        exact ⟨server, carries.serves, parent⟩

/-- However long the chain, the trace id found at the first service, or minted
there, is on all spans and stamped headers, each span is a child of the one
before it, and the request id is found everywhere. -/
theorem trace_continues (values : HeaderValues) (keeps : KeepsText values)
    (first : Service) (rest : List Service)
    (sound : ∀ service ∈ first :: rest, service.Sound) (headers : Headers)
    (legal : ∀ id, (found headers).requestId = some id → isHeaderText id = true) :
    let legs := travel values headers (first :: rest)
    let traceId := (found headers).traceId.getD first.arrival.newTraceId
    legs.length = rest.length + 1 ∧
      Propagation.isValidTraceId traceId.toList = true ∧
      (∀ leg ∈ legs, ∃ server client,
        leg.Carries traceId (found headers).requestId server client) ∧
      legs.IsChain Leg.Follows := by
  intro legs traceId
  have trace : Propagation.IsWireId 32 traceId := by
    cases known : (found headers).traceId with
    | some id =>
        have isId : traceId = id := by simp [traceId, known]
        rw [isId]
        exact Propagation.extract_wire known
    | none =>
        have isMinted : traceId = first.arrival.newTraceId := by
          simp [traceId, known]
        rw [isMinted]
        exact (sound first List.mem_cons_self).traceId
  have same : ∀ service ∈ (first :: rest).head?,
      (found headers).traceId.getD service.arrival.newTraceId = traceId := by
    intro service member
    rw [List.head?_cons, Option.mem_some_iff] at member
    rw [← member]
  have request : ∀ id, (found headers).requestId = some id →
      (found headers).requestId = some id ∧ isHeaderText id = true :=
    fun id requested => ⟨requested, legal id requested⟩
  obtain ⟨carries, chained, _⟩ := travel_carries keeps sound trace same request
  exact ⟨travel_length values headers (first :: rest), trace.valid, carries, chained⟩

/-- Control characters are refused, and what is not ASCII has no text. -/
def headerValue (text : String) : Option HeaderText :=
  if text.toList.all fun character =>
      32 ≤ character.val && character.val != 127 || character == '\t' then
    some (if isHeaderText text then some text else none)
  else none

theorem headerValue_keepsText : KeepsText headerValue := by
  intro text legal
  rw [headerValue, if_pos, if_pos legal]
  apply List.all_eq_true.mpr
  intro character member
  have visible := List.all_eq_true.mp legal character member
  simp only [Bool.or_eq_true, Bool.and_eq_true, decide_eq_true_eq] at visible ⊢
  rcases visible with ⟨low, high⟩ | tab
  · exact .inl ⟨low, by simpa using (UInt32.ne_of_lt high)⟩
  · exact .inr tab

def relay : Service :=
  let moment : Moment := { instant := 0, millis := 0, iso8601 := "" }
  { world := .initial
    current := World.main
    arrival :=
      { request :=
          { method := "GET", headers := fun _ => none, rawPath := "/"
            matchedPath := none, connectionHost := "" }
        newTraceId := "11111111111111111111111111111111"
        newSpanId := "2222222222222222"
        arrived := moment
        completed := moment }
    handler := id
    departure :=
      { request :=
          { method := "GET", host := some "next", path := "/"
            headers := fun _ => none }
        newTraceId := "33333333333333333333333333333333"
        newSpanId := "4444444444444444"
        fallback := { wireTraceId := "", traceId := "", spanId := "" }
        departed := moment } }

private theorem relay_sound : relay.Sound := by
  constructor
  · decide
  · decide
  · exact fun world => rfl
  · exact fun name member => rfl

/-- A trace in upper case and a request id. -/
def edgeHeaders : Headers := fun name =>
  if name = "traceparent" then
    some (some "00-0AF7651916CD43DD8448EB211C80319C-B7AD6B7169203331-01")
  else if name = "x-request-id" then some (some "req-42")
  else none

theorem trace_continues_relayed :
    let legs := travel headerValue edgeHeaders [relay, relay]
    let traceId := (found edgeHeaders).traceId.getD relay.arrival.newTraceId
    ((found edgeHeaders).traceId = some "0af7651916cd43dd8448eb211c80319c" ∧
        (found edgeHeaders).requestId = some "req-42") ∧
      legs.length = 1 + 1 ∧
      Propagation.isValidTraceId traceId.toList = true ∧
      (∀ leg ∈ legs, ∃ server client,
        leg.Carries traceId (found edgeHeaders).requestId server client) ∧
      legs.IsChain Leg.Follows := by
  have request : (found edgeHeaders).requestId = some "req-42" := by
    decide
  refine ⟨⟨by decide, request⟩, ?_⟩
  apply trace_continues headerValue headerValue_keepsText relay [relay]
  · intro service member
    have same : service = relay := by simpa using member
    rw [same]
    exact relay_sound
  · rw [request]
    rintro id ⟨⟩
    decide

end TraceChain

end Allstak
