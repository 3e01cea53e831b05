import Allstak.Hub
import Allstak.Propagation

/-!
# The web middlewares

Each middleware derives a hub for a request from the hub current where the
request arrives, hands the request on, and completes it when the answer is
there.  What happens in between, on whatever hubs, is a parameter.
-/

namespace Allstak

/-- One reading of the clocks. -/
structure Moment where
  instant : Nat
  millis : UInt64
  iso8601 : String

/-- An in-flight span. -/
structure Span where
  traceId : String
  spanId : String
  parentSpanId : Option String
  operation : String
  description : Option String
  status : Option String := none
  tags : List (String × String) := []
  data : Option Value := none
  startMillis : UInt64
  started : Nat

namespace Span

/-- Continue a trace read from headers, or a fresh one. -/
def continued (operation name : String) (traceId parentSpanId : Option String)
    (newTraceId newSpanId : String) (moment : Moment) : Span :=
  { traceId := traceId.getD newTraceId
    spanId := newSpanId
    parentSpanId
    operation
    description := some name
    startMillis := moment.millis
    started := moment.instant }

def setStatus (status : String) (span : Span) : Span :=
  { span with status := some status }

def setTag (key value : String) (span : Span) : Span :=
  { span with tags := Library.OrderedMap.insert key value span.tags }

def toRecord (span : Span) (options : ClientOptions) (moment : Moment) :
    SpanRecord :=
  { traceId := span.traceId
    spanId := span.spanId
    parentSpanId := span.parentSpanId
    operation := span.operation
    description := span.description
    status := span.status
    durationMs := UInt64.ofNat (moment.instant - span.started)
    startTimeMillis := span.startMillis
    endTimeMillis := moment.millis
    service := options.serverName
    environment := some options.resolvedEnvironment
    tags := if span.tags.isEmpty then none else some span.tags
    data := span.data }

end Span

/-- The text of a header, or none when its bytes are no text. -/
abbrev HeaderText := Option String

structure Request where
  method : String
  headers : String → Option HeaderText
  rawPath : String
  matchedPath : Option String
  /-- The host the web framework resolves for the connection. -/
  connectionHost : String

/-- The text of a header. -/
def Request.header (request : Request) (name : String) : Option String :=
  (request.headers name).join

def Request.path (request : Request) : String :=
  request.matchedPath.getD request.rawPath

inductive Answer where
  | response (status : UInt16)
  | error

/-- An error counts as a server error. -/
def Answer.statusCode : Answer → UInt16
  | .response status => status
  | .error => 500

/-- A request with the ids minted for it and the clocks at both ends. -/
structure Arrival where
  request : Request
  newTraceId : String
  newSpanId : String
  arrived : Moment
  completed : Moment

/-- What the future of a request keeps. -/
structure Pending where
  hub : HubId
  span : Option Span := none
  started : Nat
  method : String
  host : String
  path : String
  traceId : Option String
  requestId : Option String

/-- The scope a request starts with, from the one its hub is derived from. -/
def Pending.scope (pending : Pending) (base : Scope) : Scope :=
  let scope := pending.traceId.elim base fun id => base.setTraceId (some id)
  let scope := pending.requestId.elim scope fun id => scope.setRequestId (some id)
  pending.span.elim scope fun span =>
    (scope.setTraceId (some span.traceId)).setSpanId (some span.spanId)

def Pending.record (pending : Pending) (answer : Answer) (moment : Moment) :
    HttpRequestRecord :=
  { traceId := pending.traceId
    requestId := pending.requestId
    direction := "inbound"
    method := pending.method
    host := pending.host
    path := pending.path
    statusCode := answer.statusCode
    durationMs := UInt64.ofNat (moment.instant - pending.started)
    requestSize := none
    responseSize := none
    userId := none
    errorFingerprint := none
    timestamp := moment.iso8601 }

namespace World

/-- Configure a hub's scope with a value that may be absent. -/
def configureWith (hub : HubId) (value : Option α) (configure : α → Scope → Scope)
    (world : World) : World :=
  match value with
  | none => world
  | some value => world.onHub hub (Hub.configureScope (configure value))

/-- The trace id and the request id of a request go on its hub's scope, and then
the ids of its span. -/
def configureRequest (pending : Pending) (world : World) : World :=
  let world := world.configureWith pending.hub pending.traceId fun id scope =>
    scope.setTraceId (some id)
  let world := world.configureWith pending.hub pending.requestId fun id scope =>
    scope.setRequestId (some id)
  world.configureWith pending.hub pending.span fun span scope =>
    (scope.setTraceId (some span.traceId)).setSpanId (some span.spanId)

section

variable [UnicodeTables]

/-- `Span::finish` while the hub is current. -/
def finishSpan (hub : HubId) (span : Span) (moment : Moment) (world : World) :
    World :=
  match (world.hubs hub).client with
  | none => world
  | some client =>
      world.ingest client fun client counters =>
        client.captureSpan (span.toRecord client.options moment) counters

/-- Record the request with the client of its hub. -/
def recordRequest (pending : Pending) (answer : Answer) (moment : Moment)
    (world : World) : World :=
  match (world.hubs pending.hub).client with
  | none => world
  | some client =>
      world.ingest client fun client counters =>
        client.captureHttpRequest (pending.record answer moment) counters

@[simp] theorem finishSpan_hubs (world : World) (hub : HubId) (span : Span)
    (moment : Moment) : (world.finishSpan hub span moment).hubs = world.hubs := by
  rw [finishSpan]
  split
  · rfl
  · rw [ingest_hubs]

@[simp] theorem finishSpan_nextHub (world : World) (hub : HubId) (span : Span)
    (moment : Moment) :
    (world.finishSpan hub span moment).nextHub = world.nextHub := by
  rw [finishSpan]
  split
  · rfl
  · rw [ingest_nextHub]

@[simp] theorem recordRequest_nextHub (world : World) (pending : Pending)
    (answer : Answer) (moment : Moment) :
    (world.recordRequest pending answer moment).nextHub = world.nextHub := by
  rw [recordRequest]
  split
  · rfl
  · rw [ingest_nextHub]

@[simp] theorem recordRequest_hubs (world : World) (pending : Pending)
    (answer : Answer) (moment : Moment) :
    (world.recordRequest pending answer moment).hubs = world.hubs := by
  rw [recordRequest]
  split
  · rfl
  · rw [ingest_hubs]

end

theorem newFromTop_hubs_of_ne (world : World) (current : HubId) {other : HubId}
    (old : other ≠ world.nextHub) :
    (world.newFromTop current).2.hubs other = world.hubs other := by
  simp [newFromTop, old]

/-- The new hub starts from the top scope of the current one. -/
theorem newFromTop_top (world : World) (current : HubId) :
    ((world.newFromTop current).2.hubs world.nextHub).scopes.top =
      (world.hubs current).scopes.top := by
  simp [newFromTop, Hub.newFromTop, Hub.new]

theorem configureWith_top (world : World) (hub : HubId) (value : Option α)
    (configure : α → Scope → Scope) :
    ((world.configureWith hub value configure).hubs hub).scopes.top =
      value.elim (world.hubs hub).scopes.top fun value =>
        configure value (world.hubs hub).scopes.top := by
  cases value with
  | none => rfl
  | some value => simp [configureWith, Hub.configureScope]

theorem configureWith_hubs_of_ne (world : World) {hub other : HubId}
    (value : Option α) (configure : α → Scope → Scope) (apart : other ≠ hub) :
    (world.configureWith hub value configure).hubs other = world.hubs other := by
  unfold configureWith
  split
  · rfl
  · exact onHub_hubs_of_ne _ _ apart

theorem configureRequest_hubs_of_ne (world : World) (pending : Pending)
    {other : HubId} (apart : other ≠ pending.hub) :
    (world.configureRequest pending).hubs other = world.hubs other := by
  rw [configureRequest]
  rw [configureWith_hubs_of_ne _ _ _ apart, configureWith_hubs_of_ne _ _ _ apart,
    configureWith_hubs_of_ne _ _ _ apart]

theorem configureWith_nextHub (world : World) (hub : HubId) (value : Option α)
    (configure : α → Scope → Scope) :
    (world.configureWith hub value configure).nextHub = world.nextHub := by
  cases value <;> rfl

theorem configureRequest_top (world : World) (pending : Pending) :
    ((world.configureRequest pending).hubs pending.hub).scopes.top =
      pending.scope (world.hubs pending.hub).scopes.top := by
  unfold configureRequest Pending.scope
  rw [configureWith_top, configureWith_top, configureWith_top]

end World

structure AllstakLayer where
  startTransaction : Bool

namespace AllstakLayer

def new : AllstakLayer := { startTransaction := true }

/-- What `AllstakService::call` reads from a request. -/
def pending (layer : AllstakLayer) (hub : HubId) (arrival : Arrival) : Pending :=
  let request := arrival.request
  let trace := Propagation.extract request.header
  { hub
    span :=
      if layer.startTransaction then
        some (Span.continued "http.server" s!"{request.method} {request.path}"
          trace.traceId trace.parentSpanId arrival.newTraceId arrival.newSpanId
          arrival.arrived)
      else none
    started := arrival.arrived.instant
    method := request.method
    host := (request.header "host").getD ""
    path := request.path
    traceId := trace.traceId
    requestId := trace.requestId }

/-- `AllstakService::call`, up to the future it returns. -/
def call (layer : AllstakLayer) (current : HubId) (arrival : Arrival)
    (world : World) : Pending × World :=
  let (hub, world) := world.newFromTop current
  let pending := layer.pending hub arrival
  (pending, world.configureRequest pending)

/-- The request gets a new hub. -/
theorem call_hub (layer : AllstakLayer) (current : HubId) (arrival : Arrival)
    (world : World) : (layer.call current arrival world).1.hub = world.nextHub :=
  rfl

theorem call_hubs_of_ne (layer : AllstakLayer) (current : HubId)
    (arrival : Arrival) (world : World) {other : HubId}
    (old : other ≠ world.nextHub) :
    (layer.call current arrival world).2.hubs other = world.hubs other := by
  rw [call]
  rw [World.configureRequest_hubs_of_ne _ _ old,
    World.newFromTop_hubs_of_ne _ _ old]

theorem call_nextHub (layer : AllstakLayer) (current : HubId) (arrival : Arrival)
    (world : World) :
    (layer.call current arrival world).2.nextHub = world.nextHub + 1 := by
  unfold call World.configureRequest
  rw [World.configureWith_nextHub, World.configureWith_nextHub,
    World.configureWith_nextHub]
  rfl

theorem call_top (layer : AllstakLayer) (current : HubId) (arrival : Arrival)
    (world : World) :
    ((layer.call current arrival world).2.hubs world.nextHub).scopes.top =
      (layer.call current arrival world).1.scope (world.hubs current).scopes.top := by
  rw [call, ← World.newFromTop_top world current]
  exact World.configureRequest_top _ _

variable [UnicodeTables]

/-- The future after the inner service has answered. -/
def complete (pending : Pending) (answer : Answer) (moment : Moment)
    (world : World) : World :=
  let world :=
    match pending.span with
    | none => world
    | some span =>
        if 500 ≤ answer.statusCode then
          (world.onHub pending.hub Hub.markSessionCrashed).finishSpan pending.hub
            (span.setStatus "internal_error") moment
        else world.finishSpan pending.hub (span.setStatus "ok") moment
  world.recordRequest pending answer moment

/-- The session of the request's own hub is marked, and no other hub is
touched. -/
theorem complete_hubs_of_ne (pending : Pending) (answer : Answer)
    (moment : Moment) (world : World) {other : HubId}
    (apart : other ≠ pending.hub) :
    (complete pending answer moment world).hubs other = world.hubs other := by
  rw [complete]
  rw [World.recordRequest_hubs]
  split
  · rfl
  · split
    · rw [World.finishSpan_hubs, World.onHub_hubs_of_ne _ _ apart]
    · rw [World.finishSpan_hubs]

theorem complete_nextHub (pending : Pending) (answer : Answer) (moment : Moment)
    (world : World) :
    (complete pending answer moment world).nextHub = world.nextHub := by
  rw [complete]
  rw [World.recordRequest_nextHub]
  split
  · rfl
  · split
    · rw [World.finishSpan_nextHub, World.onHub_nextHub]
    · rw [World.finishSpan_nextHub]

/-- Completing a request changes no scope. -/
theorem complete_scopes (pending : Pending) (answer : Answer) (moment : Moment)
    (world : World) (hub : HubId) :
    ((complete pending answer moment world).hubs hub).scopes =
      (world.hubs hub).scopes := by
  by_cases own : hub = pending.hub
  · subst own
    rw [complete]
    rw [World.recordRequest_hubs]
    split
    · rfl
    · split
      · rw [World.finishSpan_hubs, World.onHub_hubs_self]
        rfl
      · rw [World.finishSpan_hubs]
  · rw [complete_hubs_of_ne _ _ _ _ own]

end AllstakLayer

/-- The actix-web middleware transform. -/
structure Transform where
  captureServerErrors : Bool

namespace Transform

def new : Transform := { captureServerErrors := true }

/-- What `AllstakMiddleware::call` reads from a request.  The request id is
taken from the first of its headers that is present, whatever it holds. -/
def pending (hub : HubId) (arrival : Arrival) : Pending :=
  let request := arrival.request
  { hub
    started := arrival.arrived.instant
    method := request.method
    host := request.connectionHost
    path := request.path
    traceId := (Propagation.extract request.header).traceId
    requestId := (request.headers "x-request-id" <|>
      request.headers "x-allstak-request-id").join }

/-- `AllstakMiddleware::call`, up to the future it returns. -/
def call (current : HubId) (arrival : Arrival) (world : World) : Pending × World :=
  let (hub, world) := world.newFromTop current
  let pending := pending hub arrival
  (pending, world.configureRequest pending)

theorem call_hub (current : HubId) (arrival : Arrival) (world : World) :
    (call current arrival world).1.hub = world.nextHub := rfl

theorem call_hubs_of_ne (current : HubId) (arrival : Arrival) (world : World)
    {other : HubId} (old : other ≠ world.nextHub) :
    (call current arrival world).2.hubs other = world.hubs other := by
  rw [call]
  rw [World.configureRequest_hubs_of_ne _ _ old,
    World.newFromTop_hubs_of_ne _ _ old]

variable [UnicodeTables]

def complete (transform : Transform) (pending : Pending) (answer : Answer)
    (moment : Moment) (world : World) : World :=
  let world :=
    if transform.captureServerErrors ∧ 500 ≤ answer.statusCode then
      world.onHub pending.hub Hub.markSessionCrashed
    else world
  world.recordRequest pending answer moment

theorem complete_hubs_of_ne (transform : Transform) (pending : Pending)
    (answer : Answer) (moment : Moment) (world : World) {other : HubId}
    (apart : other ≠ pending.hub) :
    (transform.complete pending answer moment world).hubs other =
      world.hubs other := by
  rw [complete]
  rw [World.recordRequest_hubs]
  split
  · rw [World.onHub_hubs_of_ne _ _ apart]
  · rfl

end Transform

/-- The two middlewares with their `new()` settings. -/
inductive Middleware where
  | axum
  | actix

/-- The answer to a request, the world its handler leaves and the world when the
request is complete. -/
structure Served where
  answer : Answer
  left : World
  after : World

namespace Middleware

def call : Middleware → HubId → Arrival → World → Pending × World
  | axum => AllstakLayer.new.call
  | actix => Transform.call

variable [UnicodeTables]

def complete : Middleware → Pending → Answer → Moment → World → World
  | axum => AllstakLayer.complete
  | actix => Transform.new.complete

/-- Serve a request.  `handler` is everything that happens, on whatever hubs and
threads, until the answer is there; it is given the request's hub. -/
def serve (middleware : Middleware) (current : HubId) (arrival : Arrival)
    (handler : HubId → World → Answer × World) (world : World) : Served :=
  let (pending, world) := middleware.call current arrival world
  let (answer, left) := handler pending.hub world
  { answer
    left
    after := middleware.complete pending answer arrival.completed left }

/-- Only the request's own hub is touched after the handler. -/
theorem serve_hubs (middleware : Middleware) (current : HubId) (arrival : Arrival)
    (handler : HubId → World → Answer × World) (world : World) {other : HubId}
    (old : other ≠ world.nextHub) :
    (middleware.serve current arrival handler world).after.hubs other =
      (middleware.serve current arrival handler world).left.hubs other := by
  cases middleware with
  | axum => exact AllstakLayer.complete_hubs_of_ne _ _ _ _ old
  | actix => exact Transform.complete_hubs_of_ne _ _ _ _ _ old

end Middleware

end Allstak
