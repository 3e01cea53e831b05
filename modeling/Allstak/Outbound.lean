import Allstak.Middleware

/-!
# The outbound HTTP middleware

A request that leaves through the middleware gets a client span under the
span of the hub's scope, and headers from which the service it reaches
continues the trace.  How a text becomes a header value is a parameter.
-/

namespace Allstak

/-- Headers by lower-case name. -/
abbrev Headers := String → Option HeaderText

/-- A text as a header value, or none when it is no legal one. -/
abbrev HeaderValues := String → Option HeaderText

/-- Visible ASCII, blanks and tabs. -/
def isHeaderText (text : String) : Bool :=
  text.toList.all fun character =>
    32 ≤ character.val && character.val < 127 || character == '\t'

/-- Legal header texts are kept as they are. -/
def KeepsText (values : HeaderValues) : Prop :=
  ∀ text, isHeaderText text = true → values text = some (some text)

/-- `HeaderMap::insert`, for a name of any case; a value that is none is not
set. -/
def insertHeader (values : HeaderValues) (headers : Headers)
    (header : String × String) : Headers :=
  match values header.2 with
  | none => headers
  | some value =>
      Function.update headers (Text.toAsciiLowercase header.1) (some value)

theorem insertHeader_self {values : HeaderValues} {header : String × String}
    {value : HeaderText} (legal : values header.2 = some value)
    (headers : Headers) :
    insertHeader values headers header (Text.toAsciiLowercase header.1) =
      some value := by
  rw [insertHeader, legal]
  exact Function.update_self ..

private theorem isHeaderText_append (text other : String) :
    isHeaderText (text ++ other) = (isHeaderText text && isHeaderText other) := by
  simp [isHeaderText]

theorem isHeaderText_of_wire {width : Nat} {id : String}
    (wire : Propagation.IsWireId width id) : isHeaderText id = true := by
  apply List.all_eq_true.mpr
  intro character member
  have hex := wire.hex character member
  simp only [Text.isAsciiHexdigit, Char.isDigit, Char.le_def, Bool.or_eq_true,
    Bool.and_eq_true, decide_eq_true_eq, UInt32.le_iff_toNat_le, ge_iff_le] at hex
  simp only [Bool.or_eq_true, Bool.and_eq_true, decide_eq_true_eq,
    UInt32.le_iff_toNat_le, UInt32.lt_iff_toNat_lt]
  left
  simp at hex ⊢
  omega

/-- A `traceparent` of two valid ids is legal. -/
theorem isHeaderText_traceparent {traceId spanId : String}
    (trace : Propagation.IsWireId 32 traceId)
    (span : Propagation.IsWireId 16 spanId) :
    isHeaderText s!"00-{traceId}-{spanId}-01" = true := by
  simp [toString, isHeaderText_append, isHeaderText_of_wire trace,
    isHeaderText_of_wire span]
  decide

theorem insertHeader_of_ne (values : HeaderValues) (headers : Headers)
    {header : String × String} {name : String}
    (apart : name ≠ Text.toAsciiLowercase header.1) :
    insertHeader values headers header name = headers name := by
  rw [insertHeader]
  cases values header.2 with
  | none => rfl
  | some value => exact Function.update_of_ne apart ..

/-- A header that is not among those set. -/
theorem insertHeaders_of_ne (values : HeaderValues) {name : String}
    {set : List (String × String)}
    (apart : ∀ header ∈ set, name ≠ Text.toAsciiLowercase header.1)
    (headers : Headers) :
    set.foldl (insertHeader values) headers name = headers name := by
  induction set generalizing headers with
  | nil => rfl
  | cons header set induction =>
      rw [List.forall_mem_cons] at apart
      rw [List.foldl_cons, induction apart.2, insertHeader_of_ne _ _ apart.1]

/-- A header that is not set again after it. -/
theorem insertHeaders_set {values : HeaderValues} {header : String × String}
    {value : HeaderText} (legal : values header.2 = some value)
    {later : List (String × String)}
    (apart : ∀ other ∈ later,
      Text.toAsciiLowercase header.1 ≠ Text.toAsciiLowercase other.1)
    (headers : Headers) :
    (header :: later).foldl (insertHeader values) headers
        (Text.toAsciiLowercase header.1) = some value := by
  rw [List.foldl_cons, insertHeaders_of_ne values apart]
  exact insertHeader_self legal headers

theorem traceId_name : Text.toAsciiLowercase Propagation.OUT_TRACE_ID =
    "x-allstak-trace-id" := by decide

theorem traceparent_name : Text.toAsciiLowercase Propagation.TRACEPARENT =
    "traceparent" := by decide

theorem requestId_name : Text.toAsciiLowercase Propagation.OUT_REQUEST_ID =
    "x-allstak-request-id" := by decide

structure OutboundRequest where
  method : String
  host : Option String
  path : String
  headers : Headers

/-- A request on its way out, with the ids minted for it and the clocks. -/
structure Departure where
  request : OutboundRequest
  newTraceId : String
  newSpanId : String
  fallback : Propagation.Fallback
  departed : Moment

/-- What the middleware keeps while the request is under way. -/
structure Outgoing where
  hub : HubId
  context : TraceContext
  span : Option Span
  request : OutboundRequest
  started : Nat

/-- How a request ends: with a response, with an error of the HTTP client, which
may carry a status, or with an error of another middleware. -/
inductive Outcome where
  | response (status : UInt16)
  | clientError (status : Option UInt16)
  | middlewareError

/-- No response counts as 0. -/
def Outcome.statusCode : Outcome → UInt16
  | .response status => status
  | .clientError status => status.getD 0
  | .middlewareError => 0

structure AllstakHttpMiddleware where
  startSpan : Bool
  injectHeaders : Bool
  recordRequest : Bool
  operation : String

namespace AllstakHttpMiddleware

def default : AllstakHttpMiddleware :=
  { startSpan := true
    injectHeaders := true
    recordRequest := true
    operation := "http.client" }

/-- `handle`, up to handing the request on. -/
def send (middleware : AllstakHttpMiddleware) (values : HeaderValues)
    (hub : HubId) (departure : Departure) (world : World) : Outgoing :=
  let request := departure.request
  let active := (world.hubs hub).currentTraceContext
  let context := { active with
    traceId := active.traceId <|> some departure.newTraceId }
  let host := request.host.getD ""
  let span :=
    if middleware.startSpan then
      some (Span.continued middleware.operation
        s!"{request.method} {host}{request.path}" context.traceId
        context.parentSpanId departure.newTraceId departure.newSpanId
        departure.departed)
    else none
  let headers :=
    if middleware.injectHeaders then
      (Propagation.inject departure.fallback context
        (span.map Span.spanId)).foldl (insertHeader values) request.headers
    else request.headers
  { hub
    context
    span
    request := { request with headers }
    started := departure.departed.instant }

/-- With the default toggles the client span is under the active one. -/
theorem send_span (values : HeaderValues) (hub : HubId) (departure : Departure)
    (world : World) :
    ∃ client, (default.send values hub departure world).span = some client ∧
      some client.traceId =
        (default.send values hub departure world).context.traceId ∧
      client.parentSpanId =
        (default.send values hub departure world).context.parentSpanId ∧
      client.spanId = departure.newSpanId := by
  refine ⟨_, rfl, ?_, rfl, rfl⟩
  simp only [send]
  cases (world.hubs hub).currentTraceContext.traceId <;> rfl

/-- The headers of a request that leaves with ids fit for the wire. -/
theorem send_headers {values : HeaderValues} (keeps : KeepsText values)
    {hub : HubId} {departure : Departure} {world : World} {traceId : String}
    (traced : (default.send values hub departure world).context.traceId =
      some traceId)
    (trace : Propagation.IsWireId 32 traceId)
    (span : Propagation.IsWireId 16 departure.newSpanId) :
    let outgoing := default.send values hub departure world
    outgoing.request.headers "x-allstak-trace-id" = some (some traceId) ∧
      outgoing.request.headers "traceparent" =
        some (some s!"00-{traceId}-{departure.newSpanId}-01") ∧
      outgoing.request.headers "x-request-id" =
        departure.request.headers "x-request-id" ∧
      ∀ id, outgoing.context.requestId = some id → isHeaderText id = true →
        outgoing.request.headers "x-allstak-request-id" = some (some id) := by
  intro outgoing
  have traceLegal := keeps traceId (isHeaderText_of_wire trace)
  have parentLegal : values s!"00-{traceId}-{departure.newSpanId}-01" =
      some (some s!"00-{traceId}-{departure.newSpanId}-01") :=
    keeps _ (isHeaderText_traceparent trace span)
  let asked := outgoing.context.requestId.toList.map fun id =>
    (Propagation.OUT_REQUEST_ID, id)
  have stamped : outgoing.request.headers =
      ((Propagation.OUT_TRACE_ID, traceId) ::
        (Propagation.TRACEPARENT, s!"00-{traceId}-{departure.newSpanId}-01") ::
          asked).foldl (insertHeader values) departure.request.headers := by
    rw [← Propagation.inject_of_wire departure.fallback traced rfl trace span]
    rfl
  have askedName : ∀ header ∈ asked,
      Text.toAsciiLowercase header.1 = "x-allstak-request-id" := by
    intro header member
    obtain ⟨id, _, rfl⟩ := List.mem_map.mp member
    exact requestId_name
  refine ⟨?_, ?_, ?_, ?_⟩
  · rw [stamped, ← traceId_name]
    apply insertHeaders_set traceLegal
    rw [List.forall_mem_cons, traceId_name, traceparent_name]
    refine ⟨by decide, ?_⟩
    intro header member
    rw [askedName header member]
    decide
  · rw [stamped, List.foldl_cons, ← traceparent_name]
    apply insertHeaders_set parentLegal
    intro header member
    rw [traceparent_name, askedName header member]
    decide
  · rw [stamped, insertHeaders_of_ne]
    rw [List.forall_mem_cons, List.forall_mem_cons, traceId_name,
      traceparent_name]
    refine ⟨by decide, by decide, ?_⟩
    intro header member
    rw [askedName header member]
    decide
  · intro id requested legal
    have last : asked = [(Propagation.OUT_REQUEST_ID, id)] := by
      simp [asked, requested]
    rw [stamped, last, List.foldl_cons, List.foldl_cons, ← requestId_name]
    exact insertHeaders_set (keeps id legal) (by simp) _

/-- The client span as it is finished. -/
def closeSpan (outgoing : Outgoing) (outcome : Outcome) (span : Span) : Span :=
  let status := outcome.statusCode
  let span := span.setStatus
    (if 500 ≤ status ∨ status = 0 then "internal_error" else "ok")
  ((span.setTag "http.method" outgoing.request.method).setTag "http.host"
    (outgoing.request.host.getD "")).setTag "http.status_code"
      (toString status.toNat)

def record (outgoing : Outgoing) (outcome : Outcome) (moment : Moment) :
    HttpRequestRecord :=
  { traceId := outgoing.context.traceId
    requestId := outgoing.context.requestId
    direction := "outbound"
    method := outgoing.request.method
    host := outgoing.request.host.getD ""
    path := outgoing.request.path
    statusCode := outcome.statusCode
    durationMs := UInt64.ofNat (moment.instant - outgoing.started)
    requestSize := none
    responseSize := none
    userId := none
    errorFingerprint := none
    timestamp := moment.iso8601 }

section

variable [UnicodeTables]

/-- `handle`, after the answer, with the hub current then. -/
def complete (middleware : AllstakHttpMiddleware) (outgoing : Outgoing)
    (current : HubId) (outcome : Outcome) (moment : Moment) (world : World) :
    World :=
  let world :=
    match outgoing.span with
    | none => world
    | some span =>
        world.finishSpan current (closeSpan outgoing outcome span) moment
  if middleware.recordRequest then
    match (world.hubs outgoing.hub).client with
    | none => world
    | some client =>
        world.ingest client fun client counters =>
          client.captureHttpRequest (record outgoing outcome moment) counters
  else world

/-- A request that went out leaves every hub as it was. -/
theorem complete_hubs (middleware : AllstakHttpMiddleware) (outgoing : Outgoing)
    (current : HubId) (outcome : Outcome) (moment : Moment) (world : World) :
    (middleware.complete outgoing current outcome moment world).hubs =
      world.hubs := by
  have finished : ∀ span : Option Span, (match span with
      | none => world
      | some span => world.finishSpan current (closeSpan outgoing outcome span)
          moment).hubs = world.hubs := by
    intro span
    cases span with
    | none => rfl
    | some span => exact World.finishSpan_hubs ..
  rw [complete]
  split
  · split
    · exact finished _
    · exact finished _
  · exact finished _

end

end AllstakHttpMiddleware

end Allstak
