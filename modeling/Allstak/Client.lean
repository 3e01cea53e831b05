import Allstak.Envelope
import Allstak.Scope
import Allstak.Scrub

/-!
# The client

Options, the capture pipeline for error events, and the direct ingest helpers.
An operation returns the client's counters after it and the envelopes it hands
to the transport, in order; a client without a transport hands over none.

A hook may keep state of its own.  Its answer therefore depends on a turn, the
number of capture calls made before, besides the value it is given.
-/

namespace Allstak

def SDK_NAME : String := "rust"

def SDK_VERSION : String := "0.2.2"

def PLATFORM : String := "rust"

inductive SessionMode where
  | application
  | request
  deriving DecidableEq

/-- The three comparisons the sampler makes with the clamped `f32` rate. -/
structure SampleRate where
  keepsAll : Bool
  dropsAll : Bool
  admitsBucket : Nat → Bool

def SampleRate.one : SampleRate :=
  { keepsAll := true, dropsAll := false, admitsBucket := fun _ => true }

abbrev Hook (α : Type) := Nat → α → Option α

structure Integration where
  name : String
  processEvent : Hook ErrorEvent

structure ClientOptions where
  apiKey : String := ""
  release : Option String := none
  environment : Option String := none
  serverName : Option String := none
  sampleRate : SampleRate := .one
  maxBreadcrumbs : Nat := 100
  sendDefaultPii : Bool := false
  beforeSend : Option (Hook ErrorEvent) := none
  beforeBreadcrumb : Option (Hook Breadcrumb) := none
  autoSessionTracking : Bool := true
  sessionMode : SessionMode := .application
  integrations : List Integration := []
  /-- `cfg!(debug_assertions)` of the build. -/
  debugAssertions : Bool := false

def ClientOptions.resolvedEnvironment (options : ClientOptions) : String :=
  options.environment.getD
    (if options.debugAssertions then "development" else "production")

/-- A client is disabled exactly when its api key is empty. -/
structure Client where
  options : ClientOptions

def Client.isEnabled (client : Client) : Bool := client.options.apiKey != ""

structure Counters where
  sampleCounter : Nat := 0
  eventsCaptured : Nat := 0
  eventsDropped : Nat := 0
  deriving DecidableEq

namespace Counters

def captured (counters : Counters) : Counters :=
  { counters with eventsCaptured := counters.eventsCaptured + 1 }

def dropped (counters : Counters) : Counters :=
  { counters with eventsDropped := counters.eventsDropped + 1 }

end Counters

namespace Client

/-- Identity fields the event leaves open come from the options. -/
def applyDefaults (client : Client) (event : ErrorEvent) : ErrorEvent :=
  { event with
    environment := event.environment <|> some client.options.resolvedEnvironment
    release := event.release <|> client.options.release
    sdkName := event.sdkName <|> some SDK_NAME
    sdkVersion := event.sdkVersion <|> some SDK_VERSION
    platform := event.platform <|> some PLATFORM }

def redactedEvent (event : ErrorEvent) : ErrorEvent :=
  { event with
    message := REDACTED
    metadata := some (.object [("redacted", .bool true)])
    breadcrumbs := none }

def runIntegrations (turn : Nat) : List Integration → ErrorEvent → Option ErrorEvent
  | [], event => some event
  | integration :: integrations, event =>
      (integration.processEvent turn event).bind
        (runIntegrations turn integrations)

/-- One roll of the deterministic sampler. -/
def sample (client : Client) (counters : Counters) : Bool × Counters :=
  let rate := client.options.sampleRate
  if rate.keepsAll then (true, counters)
  else if rate.dropsAll then (false, counters)
  else
    (rate.admitsBucket (counters.sampleCounter % 1000),
      { counters with sampleCounter := counters.sampleCounter + 1 })

section

variable [UnicodeTables]

/-- The event a hook sees: scrubbed through its JSON form. -/
def sanitizedEventForHook (event : ErrorEvent) : ErrorEvent :=
  (ErrorEvent.fromValue (scrubValue event.toValue)).getD (redactedEvent event)

/-- Defaults, scope, integrations, sanitizing and `before_send`, in order. -/
def processEvent (client : Client) (turn : Nat) (event : ErrorEvent)
    (scope : Scope) : Option ErrorEvent :=
  let event := scope.applyToEvent (client.applyDefaults event)
  (runIntegrations turn client.options.integrations event).bind fun event =>
    let event :=
      if client.options.sendDefaultPii then event
      else sanitizedEventForHook event
    match client.options.beforeSend with
    | none => some event
    | some hook => hook turn event

/-- Scrub a serialized payload when configured and hand it to the transport. -/
def deliver (client : Client) (payload : Value) (path : String)
    (category : DataCategory) (counters : Counters) : Counters × List Envelope :=
  if client.isEnabled then
    let body :=
      if client.options.sendDefaultPii then payload else scrubValue payload
    (counters, [{ path, category, body }])
  else (counters.dropped, [])

def captureEvent (client : Client) (event : ErrorEvent) (scope : Scope)
    (counters : Counters) : Counters × List Envelope :=
  let turn := counters.eventsCaptured
  let counters := counters.captured
  match client.processEvent turn event scope with
  | none => (counters.dropped, [])
  | some event =>
      let (kept, counters) := client.sample counters
      if kept then client.deliver event.toValue "/ingest/v1/errors" .error counters
      else (counters.dropped, [])

/-- A direct ingest call: count the capture and deliver the payload. -/
def capturePayload (client : Client) (payload : Value) (path : String)
    (category : DataCategory) (counters : Counters) : Counters × List Envelope :=
  client.deliver payload path category counters.captured

/-- An empty batch is no capture at all. -/
def captureBatch (client : Client) (name : String) (records : List Value)
    (path : String) (category : DataCategory) (counters : Counters) :
    Counters × List Envelope :=
  if records.isEmpty then (counters, [])
  else client.capturePayload (batch name records) path category counters

/-- The answer of `before_breadcrumb`; a rejection is counted. -/
def processBreadcrumb (client : Client) (turn : Nat) (breadcrumb : Breadcrumb)
    (counters : Counters) : Option Breadcrumb × Counters :=
  let processed :=
    match client.options.beforeBreadcrumb with
    | none => some breadcrumb
    | some hook => hook turn breadcrumb
  (processed, if processed.isNone then counters.dropped else counters)

def captureSpans (client : Client) (spans : List SpanRecord) :
    Counters → Counters × List Envelope :=
  client.captureBatch "spans" (spans.map SpanRecord.toValue) "/ingest/v1/spans"
    .transaction

def captureSpan (client : Client) (span : SpanRecord) :
    Counters → Counters × List Envelope :=
  client.captureSpans [span]

def captureLog (client : Client) (log : LogRecord) :
    Counters → Counters × List Envelope :=
  client.capturePayload log.toValue "/ingest/v1/logs" .log

def captureHttpRequests (client : Client) (requests : List HttpRequestRecord) :
    Counters → Counters × List Envelope :=
  client.captureBatch "requests" (requests.map HttpRequestRecord.toValue)
    "/ingest/v1/http-requests" .httpRequest

def captureHttpRequest (client : Client) (request : HttpRequestRecord) :
    Counters → Counters × List Envelope :=
  client.captureHttpRequests [request]

def captureDbQueries (client : Client) (queries : List DbQueryRecord) :
    Counters → Counters × List Envelope :=
  client.captureBatch "queries" (queries.map DbQueryRecord.toValue)
    "/ingest/v1/db" .db

def sendSessionStart (client : Client) (start : SessionStart) :
    Counters → Counters × List Envelope :=
  client.capturePayload start.toValue "/ingest/v1/sessions/start" .session

def sendSessionEnd (client : Client) (ending : SessionEnd) :
    Counters → Counters × List Envelope :=
  client.capturePayload ending.toValue "/ingest/v1/sessions/end" .session

def sendHeartbeat (client : Client) (heartbeat : Heartbeat) :
    Counters → Counters × List Envelope :=
  client.capturePayload heartbeat.toValue "/ingest/v1/heartbeat" .heartbeat

def sendRelease (client : Client) (release : ReleaseRegistration) :
    Counters → Counters × List Envelope :=
  client.capturePayload release.toValue "/ingest/v1/releases" .release

end

end Client

end Allstak
