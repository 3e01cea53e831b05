import Mathlib.Algebra.Group.Nat.Defs
import Allstak.Json

/-!
# Wire payloads

Every record serializes under its camel-case wire names and skips absent
optional fields, and reads back from them.  The capture pipeline sanitizes an
error event through its JSON form.
-/

namespace Allstak

/-- A 128-bit identifier. -/
abbrev Uuid := BitVec 128

/-- Severity of events, logs and breadcrumbs. -/
inductive Level where
  | debug
  | info
  | warning
  | error
  | fatal
  deriving DecidableEq

def Level.asStr : Level → String
  | .debug => "debug"
  | .info => "info"
  | .warning => "warning"
  | .error => "error"
  | .fatal => "fatal"

def Level.ofString? : String → Option Level
  | "debug" => some .debug
  | "info" => some .info
  | "warning" => some .warning
  | "error" => some .error
  | "fatal" => some .fatal
  | _ => none

structure User where
  id : Option String
  email : Option String
  ip : Option String
  deriving DecidableEq

structure Frame where
  filename : Option String
  absPath : Option String
  function : Option String
  lineno : Option UInt32
  colno : Option UInt32
  inApp : Option Bool
  platform : Option String
  debugId : Option String
  deriving DecidableEq

structure RequestContext where
  method : Option String
  path : Option String
  host : Option String
  statusCode : Option UInt16
  userAgent : Option String
  deriving DecidableEq

structure Breadcrumb where
  timestamp : Option String
  ty : Option String
  category : Option String
  message : Option String
  level : Option Level
  data : Option Value

/-- An error event.  `eventId` is local and never serialized. -/
structure ErrorEvent where
  eventId : Uuid
  exceptionClass : String
  message : String
  stackTrace : Option (List String) := none
  level : Option String := none
  environment : Option String := none
  release : Option String := none
  sessionId : Option String := none
  traceId : Option String := none
  user : Option User := none
  metadata : Option Value := none
  requestContext : Option RequestContext := none
  breadcrumbs : Option (List Breadcrumb) := none
  sdkName : Option String := none
  sdkVersion : Option String := none
  platform : Option String := none
  dist : Option String := none
  frames : Option (List Frame) := none

structure HttpRequestRecord where
  traceId : Option String
  requestId : Option String
  direction : String
  method : String
  host : String
  path : String
  statusCode : UInt16
  durationMs : UInt64
  requestSize : Option UInt64
  responseSize : Option UInt64
  userId : Option String
  errorFingerprint : Option String
  timestamp : String

structure SpanRecord where
  traceId : String
  spanId : String
  parentSpanId : Option String
  operation : String
  description : Option String
  status : Option String
  durationMs : UInt64
  startTimeMillis : UInt64
  endTimeMillis : UInt64
  service : Option String
  environment : Option String
  tags : Option (List (String × String))
  data : Option Value

structure LogRecord where
  level : String
  message : String
  service : Option String := none
  environment : Option String := none
  traceId : Option String := none
  spanId : Option String := none
  requestId : Option String := none
  userId : Option String := none
  errorId : Option String := none
  metadata : Option Value := none

structure DbQueryRecord where
  normalizedQuery : String
  queryHash : String
  queryType : String
  durationMs : UInt64
  timestampMillis : UInt64
  status : String
  errorMessage : Option String
  databaseName : Option String
  databaseType : Option String
  service : Option String
  environment : Option String
  traceId : Option String
  spanId : Option String

inductive SessionStatus where
  | ok
  | errored
  | crashed
  | abnormal
  | exited
  deriving DecidableEq

def SessionStatus.asStr : SessionStatus → String
  | .ok => "ok"
  | .errored => "errored"
  | .crashed => "crashed"
  | .abnormal => "abnormal"
  | .exited => "exited"

structure SessionStart where
  sessionId : String
  release : String
  environment : Option String
  userId : Option String
  sdkName : Option String
  sdkVersion : Option String
  platform : Option String

structure SessionEnd where
  sessionId : String
  release : String
  environment : Option String
  userId : Option String
  sdkName : Option String
  sdkVersion : Option String
  platform : Option String
  durationMs : UInt64
  status : String

structure Heartbeat where
  slug : String
  status : String
  durationMs : UInt64
  message : Option String

structure ReleaseRegistration where
  version : String
  environment : Option String

def text (value : String) : Option Value := some (.string value)

def optional (value : Option String) : Option Value := value.map .string

def count (value : UInt64) : Option Value := some (.ofNat64 value)

def strings (values : List String) : Value := .array (values.map .string)

/-- A string map; the SDK keeps these in key order. -/
def stringMap (entries : List (String × String)) : Value :=
  .object (entries.map fun entry => (entry.1, .string entry.2))

def User.toValue (user : User) : Value :=
  .record [("id", optional user.id), ("email", optional user.email),
    ("ip", optional user.ip)]

def Frame.toValue (frame : Frame) : Value :=
  .record [("filename", optional frame.filename),
    ("absPath", optional frame.absPath),
    ("function", optional frame.function),
    ("lineno", frame.lineno.map fun line => .ofNat64 line.toUInt64),
    ("colno", frame.colno.map fun column => .ofNat64 column.toUInt64),
    ("inApp", frame.inApp.map .bool),
    ("platform", optional frame.platform),
    ("debugId", optional frame.debugId)]

def RequestContext.toValue (context : RequestContext) : Value :=
  .record [("method", optional context.method), ("path", optional context.path),
    ("host", optional context.host),
    ("statusCode", context.statusCode.map fun status => .ofNat64 status.toUInt64),
    ("userAgent", optional context.userAgent)]

def Breadcrumb.toValue (breadcrumb : Breadcrumb) : Value :=
  .record [("timestamp", optional breadcrumb.timestamp),
    ("type", optional breadcrumb.ty),
    ("category", optional breadcrumb.category),
    ("message", optional breadcrumb.message),
    ("level", breadcrumb.level.map fun level => .string level.asStr),
    ("data", breadcrumb.data)]

def ErrorEvent.toValue (event : ErrorEvent) : Value :=
  .record [("exceptionClass", text event.exceptionClass),
    ("message", text event.message),
    ("stackTrace", event.stackTrace.map strings),
    ("level", optional event.level),
    ("environment", optional event.environment),
    ("release", optional event.release),
    ("sessionId", optional event.sessionId),
    ("traceId", optional event.traceId),
    ("user", event.user.map User.toValue),
    ("metadata", event.metadata),
    ("requestContext", event.requestContext.map RequestContext.toValue),
    ("breadcrumbs", event.breadcrumbs.map fun breadcrumbs =>
      .array (breadcrumbs.map Breadcrumb.toValue)),
    ("sdkName", optional event.sdkName),
    ("sdkVersion", optional event.sdkVersion),
    ("platform", optional event.platform),
    ("dist", optional event.dist),
    ("frames", event.frames.map fun frames => .array (frames.map Frame.toValue))]

def HttpRequestRecord.toValue (request : HttpRequestRecord) : Value :=
  .record [("traceId", optional request.traceId),
    ("requestId", optional request.requestId),
    ("direction", text request.direction),
    ("method", text request.method),
    ("host", text request.host),
    ("path", text request.path),
    ("statusCode", some (.ofNat64 request.statusCode.toUInt64)),
    ("durationMs", count request.durationMs),
    ("requestSize", request.requestSize.map .ofNat64),
    ("responseSize", request.responseSize.map .ofNat64),
    ("userId", optional request.userId),
    ("errorFingerprint", optional request.errorFingerprint),
    ("timestamp", text request.timestamp)]

def SpanRecord.toValue (span : SpanRecord) : Value :=
  .record [("traceId", text span.traceId),
    ("spanId", text span.spanId),
    ("parentSpanId", optional span.parentSpanId),
    ("operation", text span.operation),
    ("description", optional span.description),
    ("status", optional span.status),
    ("durationMs", count span.durationMs),
    ("startTimeMillis", count span.startTimeMillis),
    ("endTimeMillis", count span.endTimeMillis),
    ("service", optional span.service),
    ("environment", optional span.environment),
    ("tags", span.tags.map stringMap),
    ("data", span.data)]

def LogRecord.toValue (log : LogRecord) : Value :=
  .record [("level", text log.level),
    ("message", text log.message),
    ("service", optional log.service),
    ("environment", optional log.environment),
    ("traceId", optional log.traceId),
    ("spanId", optional log.spanId),
    ("requestId", optional log.requestId),
    ("userId", optional log.userId),
    ("errorId", optional log.errorId),
    ("metadata", log.metadata)]

def DbQueryRecord.toValue (query : DbQueryRecord) : Value :=
  .record [("normalizedQuery", text query.normalizedQuery),
    ("queryHash", text query.queryHash),
    ("queryType", text query.queryType),
    ("durationMs", count query.durationMs),
    ("timestampMillis", count query.timestampMillis),
    ("status", text query.status),
    ("errorMessage", optional query.errorMessage),
    ("databaseName", optional query.databaseName),
    ("databaseType", optional query.databaseType),
    ("service", optional query.service),
    ("environment", optional query.environment),
    ("traceId", optional query.traceId),
    ("spanId", optional query.spanId)]

/-- `SpanBatch`, `HttpRequestBatch` and `DbQueryBatch`: one field holding the
list of records. -/
def batch (name : String) (records : List Value) : Value :=
  .record [(name, some (.array records))]

def SessionStart.toValue (start : SessionStart) : Value :=
  .record [("sessionId", text start.sessionId),
    ("release", text start.release),
    ("environment", optional start.environment),
    ("userId", optional start.userId),
    ("sdkName", optional start.sdkName),
    ("sdkVersion", optional start.sdkVersion),
    ("platform", optional start.platform)]

def SessionEnd.toValue (ending : SessionEnd) : Value :=
  .record [("sessionId", text ending.sessionId),
    ("release", text ending.release),
    ("environment", optional ending.environment),
    ("userId", optional ending.userId),
    ("sdkName", optional ending.sdkName),
    ("sdkVersion", optional ending.sdkVersion),
    ("platform", optional ending.platform),
    ("durationMs", count ending.durationMs),
    ("status", text ending.status)]

theorem SessionStart.get_sessionId (start : SessionStart) :
    start.toValue.get "sessionId" = some (.string start.sessionId) := by
  apply Value.get_record
  · simp
  · exact List.mem_cons_self

theorem SessionEnd.get_sessionId (ending : SessionEnd) :
    ending.toValue.get "sessionId" = some (.string ending.sessionId) := by
  apply Value.get_record
  · simp
  · exact List.mem_cons_self

theorem SessionEnd.get_status (ending : SessionEnd) :
    ending.toValue.get "status" = some (.string ending.status) := by
  apply Value.get_record
  · simp
  · simp [text]

def Heartbeat.toValue (heartbeat : Heartbeat) : Value :=
  .record [("slug", text heartbeat.slug),
    ("status", text heartbeat.status),
    ("durationMs", count heartbeat.durationMs),
    ("message", optional heartbeat.message)]

def ReleaseRegistration.toValue (release : ReleaseRegistration) : Value :=
  .record [("version", text release.version),
    ("environment", optional release.environment)]

/-- A field that must be present. -/
def required (read : Value → Option α) (map : Map) (name : String) :
    Option α :=
  (map.get name).bind read

/-- An optional field: absent and null both read as absent, anything else has
to read as the field's type. -/
def field (read : Value → Option α) (map : Map) (name : String) :
    Option (Option α) :=
  match map.get name with
  | none => some none
  | some .null => some none
  | some value => (read value).map some

def listOf (read : Value → Option α) (value : Value) : Option (List α) :=
  value.asArray?.bind fun items => items.mapM read

def User.fromValue (value : Value) : Option User := do
  let map ← value.asObject?
  return {
    id := ← field Value.asString? map "id"
    email := ← field Value.asString? map "email"
    ip := ← field Value.asString? map "ip" }

def Frame.fromValue (value : Value) : Option Frame := do
  let map ← value.asObject?
  let number (read : Value) : Option UInt32 :=
    (read.asUnsigned? (2 ^ 32 - 1)).map UInt32.ofNat
  return {
    filename := ← field Value.asString? map "filename"
    absPath := ← field Value.asString? map "absPath"
    function := ← field Value.asString? map "function"
    lineno := ← field number map "lineno"
    colno := ← field number map "colno"
    inApp := ← field Value.asBool? map "inApp"
    platform := ← field Value.asString? map "platform"
    debugId := ← field Value.asString? map "debugId" }

def RequestContext.fromValue (value : Value) : Option RequestContext := do
  let map ← value.asObject?
  let number (read : Value) : Option UInt16 :=
    (read.asUnsigned? (2 ^ 16 - 1)).map UInt16.ofNat
  return {
    method := ← field Value.asString? map "method"
    path := ← field Value.asString? map "path"
    host := ← field Value.asString? map "host"
    statusCode := ← field number map "statusCode"
    userAgent := ← field Value.asString? map "userAgent" }

def Breadcrumb.fromValue (value : Value) : Option Breadcrumb := do
  let map ← value.asObject?
  return {
    timestamp := ← field Value.asString? map "timestamp"
    ty := ← field Value.asString? map "type"
    category := ← field Value.asString? map "category"
    message := ← field Value.asString? map "message"
    level := ← field (fun read => read.asString?.bind Level.ofString?) map "level"
    data := ← field some map "data" }

/-- The skipped `event_id` reads as the nil identifier. -/
def ErrorEvent.fromValue (value : Value) : Option ErrorEvent := do
  let map ← value.asObject?
  return {
    eventId := 0
    exceptionClass := ← required Value.asString? map "exceptionClass"
    message := ← required Value.asString? map "message"
    stackTrace := ← field (listOf Value.asString?) map "stackTrace"
    level := ← field Value.asString? map "level"
    environment := ← field Value.asString? map "environment"
    release := ← field Value.asString? map "release"
    sessionId := ← field Value.asString? map "sessionId"
    traceId := ← field Value.asString? map "traceId"
    user := ← field User.fromValue map "user"
    metadata := ← field some map "metadata"
    requestContext := ← field RequestContext.fromValue map "requestContext"
    breadcrumbs := ← field (listOf Breadcrumb.fromValue) map "breadcrumbs"
    sdkName := ← field Value.asString? map "sdkName"
    sdkVersion := ← field Value.asString? map "sdkVersion"
    platform := ← field Value.asString? map "platform"
    dist := ← field Value.asString? map "dist"
    frames := ← field (listOf Frame.fromValue) map "frames" }

def unsigned64 (read : Value) : Option UInt64 :=
  (read.asUnsigned? (2 ^ 64 - 1)).map UInt64.ofNat

def HttpRequestRecord.fromValue (value : Value) : Option HttpRequestRecord := do
  let map ← value.asObject?
  let number (read : Value) : Option UInt16 :=
    (read.asUnsigned? (2 ^ 16 - 1)).map UInt16.ofNat
  return {
    traceId := ← field Value.asString? map "traceId"
    requestId := ← field Value.asString? map "requestId"
    direction := ← required Value.asString? map "direction"
    method := ← required Value.asString? map "method"
    host := ← required Value.asString? map "host"
    path := ← required Value.asString? map "path"
    statusCode := ← required number map "statusCode"
    durationMs := ← required unsigned64 map "durationMs"
    requestSize := ← field unsigned64 map "requestSize"
    responseSize := ← field unsigned64 map "responseSize"
    userId := ← field Value.asString? map "userId"
    errorFingerprint := ← field Value.asString? map "errorFingerprint"
    timestamp := ← required Value.asString? map "timestamp" }

/-- The entries of a JSON object are in key order already. -/
def stringMapOf (value : Value) : Option (List (String × String)) :=
  value.asObject?.bind fun map =>
    map.mapM fun entry => entry.2.asString?.map fun content => (entry.1, content)

def SpanRecord.fromValue (value : Value) : Option SpanRecord := do
  let map ← value.asObject?
  return {
    traceId := ← required Value.asString? map "traceId"
    spanId := ← required Value.asString? map "spanId"
    parentSpanId := ← field Value.asString? map "parentSpanId"
    operation := ← required Value.asString? map "operation"
    description := ← field Value.asString? map "description"
    status := ← field Value.asString? map "status"
    durationMs := ← required unsigned64 map "durationMs"
    startTimeMillis := ← required unsigned64 map "startTimeMillis"
    endTimeMillis := ← required unsigned64 map "endTimeMillis"
    service := ← field Value.asString? map "service"
    environment := ← field Value.asString? map "environment"
    tags := ← field stringMapOf map "tags"
    data := ← field some map "data" }

def LogRecord.fromValue (value : Value) : Option LogRecord := do
  let map ← value.asObject?
  return {
    level := ← required Value.asString? map "level"
    message := ← required Value.asString? map "message"
    service := ← field Value.asString? map "service"
    environment := ← field Value.asString? map "environment"
    traceId := ← field Value.asString? map "traceId"
    spanId := ← field Value.asString? map "spanId"
    requestId := ← field Value.asString? map "requestId"
    userId := ← field Value.asString? map "userId"
    errorId := ← field Value.asString? map "errorId"
    metadata := ← field some map "metadata" }

def DbQueryRecord.fromValue (value : Value) : Option DbQueryRecord := do
  let map ← value.asObject?
  return {
    normalizedQuery := ← required Value.asString? map "normalizedQuery"
    queryHash := ← required Value.asString? map "queryHash"
    queryType := ← required Value.asString? map "queryType"
    durationMs := ← required unsigned64 map "durationMs"
    timestampMillis := ← required unsigned64 map "timestampMillis"
    status := ← required Value.asString? map "status"
    errorMessage := ← field Value.asString? map "errorMessage"
    databaseName := ← field Value.asString? map "databaseName"
    databaseType := ← field Value.asString? map "databaseType"
    service := ← field Value.asString? map "service"
    environment := ← field Value.asString? map "environment"
    traceId := ← field Value.asString? map "traceId"
    spanId := ← field Value.asString? map "spanId" }

/-- The records of a batch. -/
def batchFromValue (name : String) (read : Value → Option α) (value : Value) :
    Option (List α) :=
  value.asObject?.bind fun map => required (listOf read) map name

def SessionStart.fromValue (value : Value) : Option SessionStart := do
  let map ← value.asObject?
  return {
    sessionId := ← required Value.asString? map "sessionId"
    release := ← required Value.asString? map "release"
    environment := ← field Value.asString? map "environment"
    userId := ← field Value.asString? map "userId"
    sdkName := ← field Value.asString? map "sdkName"
    sdkVersion := ← field Value.asString? map "sdkVersion"
    platform := ← field Value.asString? map "platform" }

def SessionEnd.fromValue (value : Value) : Option SessionEnd := do
  let map ← value.asObject?
  return {
    sessionId := ← required Value.asString? map "sessionId"
    release := ← required Value.asString? map "release"
    environment := ← field Value.asString? map "environment"
    userId := ← field Value.asString? map "userId"
    sdkName := ← field Value.asString? map "sdkName"
    sdkVersion := ← field Value.asString? map "sdkVersion"
    platform := ← field Value.asString? map "platform"
    durationMs := ← required unsigned64 map "durationMs"
    status := ← required Value.asString? map "status" }

def Heartbeat.fromValue (value : Value) : Option Heartbeat := do
  let map ← value.asObject?
  return {
    slug := ← required Value.asString? map "slug"
    status := ← required Value.asString? map "status"
    durationMs := ← required unsigned64 map "durationMs"
    message := ← field Value.asString? map "message" }

def ReleaseRegistration.fromValue (value : Value) :
    Option ReleaseRegistration := do
  let map ← value.asObject?
  return {
    version := ← required Value.asString? map "version"
    environment := ← field Value.asString? map "environment" }

end Allstak
