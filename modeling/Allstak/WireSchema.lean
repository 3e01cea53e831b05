import Allstak.Client

/-!
# Scrubbing keeps the wire schema

Scrubbing a serialized payload changes texts and free JSON only, so the result
reads back as a payload of the same type.  What it reads back as is said by a
rewriting of the texts under their keys and of the free JSON.
-/

namespace Allstak

/-- How texts and free JSON are rewritten; free JSON may come to be absent. -/
structure Rewriting where
  text : String → String → String
  json : Value → Option Value

namespace Rewriting

/-- Present free JSON, except a null, with nothing left of its content. -/
def blankJson : Value → Option Value
  | .null => none
  | _ => some (.string "")

/-- Nothing is left of a text, and nothing of free JSON but its presence. -/
def blanking : Rewriting where
  text _ _ := ""
  json := blankJson

end Rewriting

section Rewrite

variable (rewriting : Rewriting)

def Rewriting.texts (key : String) (content : Option String) : Option String :=
  content.map (rewriting.text key)

def User.rewrite (user : User) : User where
  id := rewriting.texts "id" user.id
  email := rewriting.texts "email" user.email
  ip := rewriting.texts "ip" user.ip

def Frame.rewrite (frame : Frame) : Frame where
  filename := rewriting.texts "filename" frame.filename
  absPath := rewriting.texts "absPath" frame.absPath
  function := rewriting.texts "function" frame.function
  lineno := frame.lineno
  colno := frame.colno
  inApp := frame.inApp
  platform := rewriting.texts "platform" frame.platform
  debugId := rewriting.texts "debugId" frame.debugId

def RequestContext.rewrite (context : RequestContext) : RequestContext where
  method := rewriting.texts "method" context.method
  path := rewriting.texts "path" context.path
  host := rewriting.texts "host" context.host
  statusCode := context.statusCode
  userAgent := rewriting.texts "userAgent" context.userAgent

def Breadcrumb.rewrite (breadcrumb : Breadcrumb) : Breadcrumb where
  timestamp := rewriting.texts "timestamp" breadcrumb.timestamp
  ty := rewriting.texts "type" breadcrumb.ty
  category := rewriting.texts "category" breadcrumb.category
  message := rewriting.texts "message" breadcrumb.message
  level := breadcrumb.level
  data := breadcrumb.data.bind rewriting.json

def ErrorEvent.rewrite (event : ErrorEvent) : ErrorEvent where
  eventId := event.eventId
  exceptionClass := rewriting.text "exceptionClass" event.exceptionClass
  message := rewriting.text "message" event.message
  stackTrace := event.stackTrace.map (List.map (rewriting.text "stackTrace"))
  level := rewriting.texts "level" event.level
  environment := rewriting.texts "environment" event.environment
  release := rewriting.texts "release" event.release
  sessionId := rewriting.texts "sessionId" event.sessionId
  traceId := rewriting.texts "traceId" event.traceId
  user := event.user.map (User.rewrite rewriting)
  metadata := event.metadata.bind rewriting.json
  requestContext := event.requestContext.map (RequestContext.rewrite rewriting)
  breadcrumbs := event.breadcrumbs.map (List.map (Breadcrumb.rewrite rewriting))
  sdkName := rewriting.texts "sdkName" event.sdkName
  sdkVersion := rewriting.texts "sdkVersion" event.sdkVersion
  platform := rewriting.texts "platform" event.platform
  dist := rewriting.texts "dist" event.dist
  frames := event.frames.map (List.map (Frame.rewrite rewriting))

def HttpRequestRecord.rewrite (request : HttpRequestRecord) :
    HttpRequestRecord where
  traceId := rewriting.texts "traceId" request.traceId
  requestId := rewriting.texts "requestId" request.requestId
  direction := rewriting.text "direction" request.direction
  method := rewriting.text "method" request.method
  host := rewriting.text "host" request.host
  path := rewriting.text "path" request.path
  statusCode := request.statusCode
  durationMs := request.durationMs
  requestSize := request.requestSize
  responseSize := request.responseSize
  userId := rewriting.texts "userId" request.userId
  errorFingerprint := rewriting.texts "errorFingerprint" request.errorFingerprint
  timestamp := rewriting.text "timestamp" request.timestamp

/-- The keys of the tags stay. -/
def SpanRecord.rewrite (span : SpanRecord) : SpanRecord where
  traceId := rewriting.text "traceId" span.traceId
  spanId := rewriting.text "spanId" span.spanId
  parentSpanId := rewriting.texts "parentSpanId" span.parentSpanId
  operation := rewriting.text "operation" span.operation
  description := rewriting.texts "description" span.description
  status := rewriting.texts "status" span.status
  durationMs := span.durationMs
  startTimeMillis := span.startTimeMillis
  endTimeMillis := span.endTimeMillis
  service := rewriting.texts "service" span.service
  environment := rewriting.texts "environment" span.environment
  tags := span.tags.map (List.map fun tag =>
    (tag.1, rewriting.text tag.1 tag.2))
  data := span.data.bind rewriting.json

def LogRecord.rewrite (log : LogRecord) : LogRecord where
  level := rewriting.text "level" log.level
  message := rewriting.text "message" log.message
  service := rewriting.texts "service" log.service
  environment := rewriting.texts "environment" log.environment
  traceId := rewriting.texts "traceId" log.traceId
  spanId := rewriting.texts "spanId" log.spanId
  requestId := rewriting.texts "requestId" log.requestId
  userId := rewriting.texts "userId" log.userId
  errorId := rewriting.texts "errorId" log.errorId
  metadata := log.metadata.bind rewriting.json

def DbQueryRecord.rewrite (query : DbQueryRecord) : DbQueryRecord where
  normalizedQuery := rewriting.text "normalizedQuery" query.normalizedQuery
  queryHash := rewriting.text "queryHash" query.queryHash
  queryType := rewriting.text "queryType" query.queryType
  durationMs := query.durationMs
  timestampMillis := query.timestampMillis
  status := rewriting.text "status" query.status
  errorMessage := rewriting.texts "errorMessage" query.errorMessage
  databaseName := rewriting.texts "databaseName" query.databaseName
  databaseType := rewriting.texts "databaseType" query.databaseType
  service := rewriting.texts "service" query.service
  environment := rewriting.texts "environment" query.environment
  traceId := rewriting.texts "traceId" query.traceId
  spanId := rewriting.texts "spanId" query.spanId

def SessionStart.rewrite (start : SessionStart) : SessionStart where
  sessionId := rewriting.text "sessionId" start.sessionId
  release := rewriting.text "release" start.release
  environment := rewriting.texts "environment" start.environment
  userId := rewriting.texts "userId" start.userId
  sdkName := rewriting.texts "sdkName" start.sdkName
  sdkVersion := rewriting.texts "sdkVersion" start.sdkVersion
  platform := rewriting.texts "platform" start.platform

def SessionEnd.rewrite (ending : SessionEnd) : SessionEnd where
  sessionId := rewriting.text "sessionId" ending.sessionId
  release := rewriting.text "release" ending.release
  environment := rewriting.texts "environment" ending.environment
  userId := rewriting.texts "userId" ending.userId
  sdkName := rewriting.texts "sdkName" ending.sdkName
  sdkVersion := rewriting.texts "sdkVersion" ending.sdkVersion
  platform := rewriting.texts "platform" ending.platform
  durationMs := ending.durationMs
  status := rewriting.text "status" ending.status

def Heartbeat.rewrite (heartbeat : Heartbeat) : Heartbeat where
  slug := rewriting.text "slug" heartbeat.slug
  status := rewriting.text "status" heartbeat.status
  durationMs := heartbeat.durationMs
  message := rewriting.texts "message" heartbeat.message

def ReleaseRegistration.rewrite (release : ReleaseRegistration) :
    ReleaseRegistration where
  version := rewriting.text "version" release.version
  environment := rewriting.texts "environment" release.environment

end Rewrite

inductive Payload where
  | errorEvent (event : ErrorEvent)
  | spanBatch (spans : List SpanRecord)
  | logRecord (log : LogRecord)
  | httpRequestBatch (requests : List HttpRequestRecord)
  | dbQueryBatch (queries : List DbQueryRecord)
  | sessionStart (start : SessionStart)
  | sessionEnd (ending : SessionEnd)
  | heartbeat (beat : Heartbeat)
  | releaseRegistration (release : ReleaseRegistration)

namespace Payload

def toValue : Payload → Value
  | .errorEvent event => event.toValue
  | .spanBatch spans => batch "spans" (spans.map SpanRecord.toValue)
  | .logRecord log => log.toValue
  | .httpRequestBatch requests =>
      batch "requests" (requests.map HttpRequestRecord.toValue)
  | .dbQueryBatch queries => batch "queries" (queries.map DbQueryRecord.toValue)
  | .sessionStart start => start.toValue
  | .sessionEnd ending => ending.toValue
  | .heartbeat beat => beat.toValue
  | .releaseRegistration release => release.toValue

/-- Deserialization into the type of the payload. -/
def fromValueAs : Payload → Value → Option Payload
  | .errorEvent _, value => (ErrorEvent.fromValue value).map .errorEvent
  | .spanBatch _, value =>
      (batchFromValue "spans" SpanRecord.fromValue value).map .spanBatch
  | .logRecord _, value => (LogRecord.fromValue value).map .logRecord
  | .httpRequestBatch _, value =>
      (batchFromValue "requests" HttpRequestRecord.fromValue value).map
        .httpRequestBatch
  | .dbQueryBatch _, value =>
      (batchFromValue "queries" DbQueryRecord.fromValue value).map .dbQueryBatch
  | .sessionStart _, value => (SessionStart.fromValue value).map .sessionStart
  | .sessionEnd _, value => (SessionEnd.fromValue value).map .sessionEnd
  | .heartbeat _, value => (Heartbeat.fromValue value).map .heartbeat
  | .releaseRegistration _, value =>
      (ReleaseRegistration.fromValue value).map .releaseRegistration

def rewrite (rewriting : Rewriting) : Payload → Payload
  | .errorEvent event => .errorEvent (event.rewrite rewriting)
  | .spanBatch spans => .spanBatch (spans.map (SpanRecord.rewrite rewriting))
  | .logRecord log => .logRecord (log.rewrite rewriting)
  | .httpRequestBatch requests =>
      .httpRequestBatch (requests.map (HttpRequestRecord.rewrite rewriting))
  | .dbQueryBatch queries =>
      .dbQueryBatch (queries.map (DbQueryRecord.rewrite rewriting))
  | .sessionStart start => .sessionStart (start.rewrite rewriting)
  | .sessionEnd ending => .sessionEnd (ending.rewrite rewriting)
  | .heartbeat beat => .heartbeat (beat.rewrite rewriting)
  | .releaseRegistration release =>
      .releaseRegistration (release.rewrite rewriting)

/-- The payload without the identifier that is not serialized. -/
def withoutId : Payload → Payload
  | .errorEvent event => .errorEvent { event with eventId := 0 }
  | payload => payload

end Payload

def Rewriting.andThen (inner outer : Rewriting) : Rewriting where
  text key content := outer.text key (inner.text key content)
  json value := (inner.json value).bind outer.json

section AndThen

variable (inner outer : Rewriting)

private theorem Rewriting.text_andThen (key content : String) :
    outer.text key (inner.text key content) =
      (inner.andThen outer).text key content := rfl

private theorem Rewriting.texts_andThen (key : String)
    (content : Option String) :
    outer.texts key (inner.texts key content) =
      (inner.andThen outer).texts key content :=
  Option.map_map _ _ content

private theorem Rewriting.json_andThen (content : Option Value) :
    (content.bind inner.json).bind outer.json =
      content.bind (inner.andThen outer).json :=
  Option.bind_assoc content _ _

attribute [local simp] Rewriting.text_andThen Rewriting.texts_andThen
  Rewriting.json_andThen

theorem User.rewrite_andThen (user : User) :
    (user.rewrite inner).rewrite outer =
      user.rewrite (inner.andThen outer) := by
  simp [User.rewrite]

theorem Frame.rewrite_andThen (frame : Frame) :
    (frame.rewrite inner).rewrite outer =
      frame.rewrite (inner.andThen outer) := by
  simp [Frame.rewrite]

theorem RequestContext.rewrite_andThen (context : RequestContext) :
    (context.rewrite inner).rewrite outer =
      context.rewrite (inner.andThen outer) := by
  simp [RequestContext.rewrite]

theorem Breadcrumb.rewrite_andThen (breadcrumb : Breadcrumb) :
    (breadcrumb.rewrite inner).rewrite outer =
      breadcrumb.rewrite (inner.andThen outer) := by
  simp [Breadcrumb.rewrite]

theorem ErrorEvent.rewrite_andThen (event : ErrorEvent) :
    (event.rewrite inner).rewrite outer =
      event.rewrite (inner.andThen outer) := by
  simp [ErrorEvent.rewrite, Function.comp_def,
    User.rewrite_andThen, RequestContext.rewrite_andThen,
    Breadcrumb.rewrite_andThen, Frame.rewrite_andThen]

theorem HttpRequestRecord.rewrite_andThen (request : HttpRequestRecord) :
    (request.rewrite inner).rewrite outer =
      request.rewrite (inner.andThen outer) := by
  simp [HttpRequestRecord.rewrite]

theorem SpanRecord.rewrite_andThen (span : SpanRecord) :
    (span.rewrite inner).rewrite outer =
      span.rewrite (inner.andThen outer) := by
  simp [SpanRecord.rewrite, Function.comp_def]

theorem LogRecord.rewrite_andThen (log : LogRecord) :
    (log.rewrite inner).rewrite outer =
      log.rewrite (inner.andThen outer) := by
  simp [LogRecord.rewrite]

theorem DbQueryRecord.rewrite_andThen (query : DbQueryRecord) :
    (query.rewrite inner).rewrite outer =
      query.rewrite (inner.andThen outer) := by
  simp [DbQueryRecord.rewrite]

theorem SessionStart.rewrite_andThen (start : SessionStart) :
    (start.rewrite inner).rewrite outer =
      start.rewrite (inner.andThen outer) := by
  simp [SessionStart.rewrite]

theorem SessionEnd.rewrite_andThen (ending : SessionEnd) :
    (ending.rewrite inner).rewrite outer =
      ending.rewrite (inner.andThen outer) := by
  simp [SessionEnd.rewrite]

theorem Heartbeat.rewrite_andThen (heartbeat : Heartbeat) :
    (heartbeat.rewrite inner).rewrite outer =
      heartbeat.rewrite (inner.andThen outer) := by
  simp [Heartbeat.rewrite]

theorem ReleaseRegistration.rewrite_andThen (release : ReleaseRegistration) :
    (release.rewrite inner).rewrite outer =
      release.rewrite (inner.andThen outer) := by
  simp [ReleaseRegistration.rewrite]

namespace Payload

theorem rewrite_andThen (payload : Payload) :
    (payload.rewrite inner).rewrite outer =
      payload.rewrite (inner.andThen outer) := by
  cases payload <;>
    simp [rewrite, Function.comp_def, ErrorEvent.rewrite_andThen,
      SpanRecord.rewrite_andThen, LogRecord.rewrite_andThen,
      HttpRequestRecord.rewrite_andThen, DbQueryRecord.rewrite_andThen,
      SessionStart.rewrite_andThen, SessionEnd.rewrite_andThen,
      Heartbeat.rewrite_andThen, ReleaseRegistration.rewrite_andThen]

private theorem rewrite_withoutId (rewriting : Rewriting) (payload : Payload) :
    payload.withoutId.rewrite rewriting =
      (payload.rewrite rewriting).withoutId := by
  cases payload <;> rfl

end Payload

end AndThen

/-- One field of a record after the other. -/
theorem reads_field {β : Type} {found : Option α} {value : α}
    {rest : α → Option β} {result : β} (first : found = some value)
    (later : rest value = some result) : (found >>= rest) = some result := by
  rw [first]
  exact later

/-- A key with no rule of its own. -/
def Plain (key : String) : Prop :=
  isSensitiveKey key = false ∧ isIdentityKey key = false

instance (key : String) : Decidable (Plain key) :=
  inferInstanceAs (Decidable (_ ∧ _))

/-- The names of the fields that are no texts. -/
def PLAIN_KEYS : List String :=
  ["stackTrace", "user", "metadata", "requestContext", "breadcrumbs", "frames",
    "lineno", "colno", "inApp", "statusCode", "level", "data", "durationMs",
    "requestSize", "responseSize", "startTimeMillis", "endTimeMillis", "tags",
    "timestampMillis", "spans", "requests", "queries"]

private theorem plain_keys : ∀ key ∈ PLAIN_KEYS, Plain key := by
  decide +kernel

theorem plain_field {key : String} (listed : key ∈ PLAIN_KEYS) : Plain key :=
  plain_keys key listed

section Scrubbed

variable [UnicodeTables]

/-- What scrubbing leaves of a text under a key. -/
def scrubText (key content : String) : String :=
  if isSensitiveKey key then REDACTED
  else if isIdentityKey key then content
  else if looksSensitive content then scrubString content
  else content

/-- What scrubbing leaves of free JSON; a null reads back as absent. -/
def scrubJson (value : Value) : Option Value :=
  match scrubValue value with
  | .null => none
  | scrubbed => some scrubbed

def Rewriting.scrubbing : Rewriting where
  text := scrubText
  json := scrubJson

theorem scrubEntry_plain {key : String} (plain : Plain key) (value : Value) :
    scrubEntry key value = scrubValue value := by
  rw [scrubEntry, plain.1, plain.2]
  rfl

/-- Reading what scrubbing leaves of a written value under a key. -/
structure Survives {α : Type} (key : String) (write : α → Value)
    (read : Value → Option α) (rewrite : α → α) : Prop where
  reads : ∀ content, read (scrubEntry key (write content)) = some (rewrite content)
  strict : read .null = none

theorem scrubEntry_text (key content : String) :
    scrubEntry key (.string content) = .string (scrubText key content) := by
  unfold scrubEntry scrubText
  split
  · rfl
  · split
    · rfl
    · rw [scrubValue]
      split <;> rfl

private theorem survives_text (key : String) :
    Survives key .string Value.asString? (Rewriting.scrubbing.text key) where
  reads content := by
    rw [scrubEntry_text]
    rfl
  strict := rfl

theorem survives_record {α : Type} {key : String} (plain : Plain key)
    {write : α → Value} {read : Value → Option α} {rewrite : α → α}
    (strict : read .null = none)
    (reads : ∀ content, read (scrubValue (write content)) =
      some (rewrite content)) :
    Survives key write read rewrite where
  reads content := by
    rw [scrubEntry_plain plain]
    exact reads content
  strict := strict

theorem listOf_scrubItems {α : Type} {write : α → Value}
    {read : Value → Option α} {rewrite : α → α}
    (reads : ∀ content, read (scrubValue (write content)) =
      some (rewrite content)) (contents : List α) :
    (scrubItems (contents.map write)).mapM read =
      some (contents.map rewrite) := by
  induction contents with
  | nil => rfl
  | cons content contents induction =>
      rw [List.map_cons, scrubItems, List.mapM_cons, reads, induction]
      rfl

theorem survives_list {α : Type} {key : String} (plain : Plain key)
    {write : α → Value} {read : Value → Option α} {rewrite : α → α}
    (reads : ∀ content, read (scrubValue (write content)) =
      some (rewrite content)) :
    Survives key (fun contents => .array (contents.map write)) (listOf read)
      (List.map rewrite) where
  reads contents := by
    rw [scrubEntry_plain plain, scrubValue]
    exact listOf_scrubItems reads contents
  strict := rfl

private theorem survives_texts {key : String} (plain : Plain key) :
    Survives key strings (listOf Value.asString?)
      (List.map (Rewriting.scrubbing.text key)) := by
  apply survives_list plain
  intro content
  rw [← scrubEntry_plain plain]
  exact (survives_text key).reads content

theorem survives_stringMap {key : String} (plain : Plain key) :
    Survives key stringMap stringMapOf
      (List.map fun tag =>
        (tag.1, Rewriting.scrubbing.text tag.1 tag.2)) where
  reads tags := by
    rw [scrubEntry_plain plain, stringMap, scrubValue, stringMapOf,
      Value.asObject?, Option.bind_some]
    induction tags with
    | nil => rfl
    | cons tag tags induction =>
        have first := (survives_text tag.1).reads tag.2
        rw [List.map_cons, scrubEntries, List.mapM_cons]
        unfold scrubEntry at first
        rw [first, induction]
        rfl
  strict := rfl

/-- A scrubbed record is an object with the entries of the record, scrubbed. -/
theorem scrubbed_record {fields : List (String × Option Value)}
    (distinct : (fields.map Prod.fst).Nodup) :
    ∃ map, (scrubValue (.record fields)).asObject? = some map ∧
      ∀ entry ∈ fields, map.get entry.1 = entry.2.map (scrubEntry entry.1) := by
  refine ⟨_, rfl, ?_⟩
  intro entry member
  have found := get_scrubValue (.record fields) entry.1
  rw [Value.get_record_field distinct member] at found
  exact found

section Fields

variable {α : Type} {key : String} {write : α → Value}
  {read : Value → Option α} {rewrite : α → α} {map : Map}

theorem field_survives (survives : Survives key write read rewrite)
    {content : Option α}
    (found : map.get key = (content.map write).map (scrubEntry key)) :
    field read map key = some (content.map rewrite) := by
  rw [field, found]
  cases content with
  | none => rfl
  | some content =>
      have reads := survives.reads content
      have present : scrubEntry key (write content) ≠ .null := by
        intro null
        rw [null, survives.strict] at reads
        cases reads
      simp only [Option.map_some, reads]

/-- A field that scrubbing keeps. -/
theorem field_kept (survives : Survives key write read id) {content : Option α}
    (found : map.get key = (content.map write).map (scrubEntry key)) :
    field read map key = some content := by
  rw [field_survives survives found, Option.map_id]
  rfl

private theorem required_survives (survives : Survives key write read rewrite)
    {content : α}
    (found : map.get key = (some (write content)).map (scrubEntry key)) :
    required read map key = some (rewrite content) := by
  rw [required, found]
  exact survives.reads content

private theorem required_kept (survives : Survives key write read id)
    {content : α}
    (found : map.get key = (some (write content)).map (scrubEntry key)) :
    required read map key = some content :=
  required_survives survives found

theorem field_scrubJson (plain : Plain key) {content : Option Value}
    (found : map.get key = content.map (scrubEntry key)) :
    field some map key = some (content.bind Rewriting.scrubbing.json) := by
  change field some map key = some (content.bind scrubJson)
  rw [field, found]
  cases content with
  | none => rfl
  | some content =>
      rw [Option.map_some, scrubEntry_plain plain, Option.bind_some, scrubJson]
      cases scrubValue content <;> rfl

end Fields

private theorem field_text {key : String} {map : Map} {content : Option String}
    (found : map.get key = (optional content).map (scrubEntry key)) :
    field Value.asString? map key =
      some (Rewriting.scrubbing.texts key content) :=
  field_survives (survives_text key) found

private theorem required_text {key : String} {map : Map} {content : String}
    (found : map.get key = (text content).map (scrubEntry key)) :
    required Value.asString? map key =
      some (Rewriting.scrubbing.text key content) :=
  required_survives (survives_text key) found

/-- Reading a scrubbed record goes by its entries. -/
theorem reads_record {α : Type} {fields : List (String × Option Value)}
    {read : Value → Option α} {result : α}
    (distinct : (fields.map Prod.fst).Nodup)
    (reads : ∀ value map, value.asObject? = some map →
      (∀ entry ∈ fields, map.get entry.1 = entry.2.map (scrubEntry entry.1)) →
      read value = some result) :
    read (scrubValue (.record fields)) = some result := by
  obtain ⟨map, object, entries⟩ := scrubbed_record distinct
  exact reads _ map object entries

theorem survives_unsigned {α : Type} {key : String} (plain : Plain key)
    {limit : Nat} {write : α → UInt64} {number : Nat → α}
    (bounded : ∀ content, (write content).toNat ≤ limit)
    (back : ∀ content, number (write content).toNat = content) :
    Survives key (fun content => .ofNat64 (write content))
      (fun read => (read.asUnsigned? limit).map number) id where
  reads content := by
    rw [scrubEntry_plain plain, Value.ofNat64, scrubValue, Value.asUnsigned?,
      if_pos (bounded content), Option.map_some, back]
    rfl
  strict := rfl

private theorem survives_bool {key : String} (plain : Plain key) :
    Survives key .bool Value.asBool? id where
  reads content := by
    rw [scrubEntry_plain plain, scrubValue]
    rfl
  strict := rfl

/-- The names of the levels look like nothing sensitive. -/
theorem survives_level {key : String} (plain : Plain key) :
    Survives key (fun level : Level => .string level.asStr)
      (fun read => read.asString?.bind Level.ofString?) id where
  reads level := by
    have harmless : looksSensitive level.asStr = false := by
      rw [looksSensitive_of_ascii (by cases level <;> decide +kernel)]
      cases level <;> decide +kernel
    rw [scrubEntry_plain plain, scrubValue, harmless]
    cases level <;> rfl
  strict := rfl

private theorem survives_unsigned64 {key : String} (plain : Plain key) :
    Survives key .ofNat64 unsigned64 id := by
  apply survives_unsigned plain
  · intro content
    have small := content.toNat_lt
    omega
  · intro content
    exact UInt64.ofNat_toNat

theorem survives_unsigned32 {key : String} (plain : Plain key) :
    Survives key (fun content : UInt32 => .ofNat64 content.toUInt64)
      (fun read => (read.asUnsigned? (2 ^ 32 - 1)).map UInt32.ofNat) id := by
  apply survives_unsigned plain
  · intro content
    have small := content.toNat_lt
    rw [UInt32.toNat_toUInt64]
    omega
  · intro content
    rw [UInt32.toNat_toUInt64]
    exact UInt32.ofNat_toNat

theorem survives_unsigned16 {key : String} (plain : Plain key) :
    Survives key (fun content : UInt16 => .ofNat64 content.toUInt64)
      (fun read => (read.asUnsigned? (2 ^ 16 - 1)).map UInt16.ofNat) id := by
  apply survives_unsigned plain
  · intro content
    have small := content.toNat_lt
    rw [UInt16.toNat_toUInt64]
    omega
  · intro content
    rw [UInt16.toNat_toUInt64]
    exact UInt16.ofNat_toNat

private theorem required_count {key : String} (plain : Plain key) {map : Map}
    {content : UInt64}
    (found : map.get key = (count content).map (scrubEntry key)) :
    required unsigned64 map key = some content :=
  required_kept (survives_unsigned64 plain) found

attribute [local simp] PLAIN_KEYS

theorem User.reads_scrubbed (user : User) :
    User.fromValue (scrubValue user.toValue) =
      some (user.rewrite .scrubbing) := by
  unfold User.toValue
  apply reads_record (by simp)
  intro value map object entries
  simp only [List.forall_mem_cons] at entries
  obtain ⟨id, email, ip, -⟩ := entries
  rw [User.fromValue, object, Option.bind_eq_bind, Option.bind_some]
  simp only [field_text id, field_text email, field_text ip]
  rfl

theorem Frame.reads_scrubbed (frame : Frame) :
    Frame.fromValue (scrubValue frame.toValue) =
      some (frame.rewrite .scrubbing) := by
  unfold Frame.toValue
  apply reads_record (by simp)
  intro value map object entries
  simp only [List.forall_mem_cons] at entries
  obtain ⟨filename, absPath, function, lineno, colno, inApp, platform, debugId,
    -⟩ := entries
  rw [Frame.fromValue, object, Option.bind_eq_bind, Option.bind_some]
  simp only [field_text filename, field_text absPath, field_text function,
    field_kept (survives_unsigned32 (plain_field (by simp))) lineno,
    field_kept (survives_unsigned32 (plain_field (by simp))) colno,
    field_kept (survives_bool (plain_field (by simp))) inApp,
    field_text platform, field_text debugId]
  rfl

theorem RequestContext.reads_scrubbed (context : RequestContext) :
    RequestContext.fromValue (scrubValue context.toValue) =
      some (context.rewrite .scrubbing) := by
  unfold RequestContext.toValue
  apply reads_record (by simp)
  intro value map object entries
  simp only [List.forall_mem_cons] at entries
  obtain ⟨method, path, host, statusCode, userAgent, -⟩ := entries
  rw [RequestContext.fromValue, object, Option.bind_eq_bind, Option.bind_some]
  simp only [field_text method, field_text path, field_text host,
    field_kept (survives_unsigned16 (plain_field (by simp))) statusCode,
    field_text userAgent]
  rfl

theorem Breadcrumb.reads_scrubbed (breadcrumb : Breadcrumb) :
    Breadcrumb.fromValue (scrubValue breadcrumb.toValue) =
      some (breadcrumb.rewrite .scrubbing) := by
  unfold Breadcrumb.toValue
  apply reads_record (by simp)
  intro value map object entries
  simp only [List.forall_mem_cons] at entries
  obtain ⟨timestamp, ty, category, message, level, data, -⟩ := entries
  rw [Breadcrumb.fromValue, object, Option.bind_eq_bind, Option.bind_some]
  simp only [field_text timestamp, field_text ty, field_text category,
    field_text message,
    field_kept (survives_level (plain_field (by simp))) level,
    field_scrubJson (plain_field (by simp)) data]
  rfl

theorem ErrorEvent.reads_scrubbed (event : ErrorEvent) :
    ErrorEvent.fromValue (scrubValue event.toValue) =
      some { event.rewrite .scrubbing with eventId := 0 } := by
  unfold ErrorEvent.toValue
  apply reads_record (by simp)
  intro value map object entries
  simp only [List.forall_mem_cons] at entries
  obtain ⟨exceptionClass, message, stackTrace, level, environment, release,
    sessionId, traceId, user, metadata, requestContext, breadcrumbs, sdkName,
    sdkVersion, platform, dist, frames, -⟩ := entries
  have users : Survives "user" _ _ _ :=
    survives_record (plain_field (by simp)) rfl User.reads_scrubbed
  have contexts : Survives "requestContext" _ _ _ :=
    survives_record (plain_field (by simp)) rfl RequestContext.reads_scrubbed
  have trail : Survives "breadcrumbs" _ _ _ :=
    survives_list (plain_field (by simp)) Breadcrumb.reads_scrubbed
  have stack : Survives "frames" _ _ _ :=
    survives_list (plain_field (by simp)) Frame.reads_scrubbed
  rw [ErrorEvent.fromValue, object, Option.bind_eq_bind, Option.bind_some]
  simp only [required_text exceptionClass, required_text message,
    field_survives (survives_texts (plain_field (by simp))) stackTrace,
    field_text level, field_text environment, field_text release,
    field_text sessionId, field_text traceId, field_survives users user,
    field_scrubJson (plain_field (by simp)) metadata,
    field_survives contexts requestContext, field_survives trail breadcrumbs,
    field_text sdkName, field_text sdkVersion, field_text platform,
    field_text dist, field_survives stack frames]
  rfl

theorem HttpRequestRecord.reads_scrubbed (request : HttpRequestRecord) :
    HttpRequestRecord.fromValue (scrubValue request.toValue) =
      some (request.rewrite .scrubbing) := by
  unfold HttpRequestRecord.toValue
  apply reads_record (by simp)
  intro value map object entries
  simp only [List.forall_mem_cons] at entries
  obtain ⟨traceId, requestId, direction, method, host, path, statusCode,
    durationMs, requestSize, responseSize, userId, errorFingerprint, timestamp,
    -⟩ := entries
  rw [HttpRequestRecord.fromValue, object, Option.bind_eq_bind,
    Option.bind_some]
  simp only [field_text traceId, field_text requestId, required_text direction,
    required_text method, required_text host, required_text path,
    required_kept (survives_unsigned16 (plain_field (by simp))) statusCode,
    required_count (plain_field (by simp)) durationMs,
    field_kept (survives_unsigned64 (plain_field (by simp))) requestSize,
    field_kept (survives_unsigned64 (plain_field (by simp))) responseSize,
    field_text userId, field_text errorFingerprint, required_text timestamp]
  rfl

theorem SpanRecord.reads_scrubbed (span : SpanRecord) :
    SpanRecord.fromValue (scrubValue span.toValue) =
      some (span.rewrite .scrubbing) := by
  unfold SpanRecord.toValue
  apply reads_record (by simp)
  intro value map object entries
  simp only [List.forall_mem_cons] at entries
  obtain ⟨traceId, spanId, parentSpanId, operation, description, status,
    durationMs, startTimeMillis, endTimeMillis, service, environment, tags,
    data, -⟩ := entries
  rw [SpanRecord.fromValue, object, Option.bind_eq_bind, Option.bind_some]
  simp only [required_text traceId, required_text spanId,
    field_text parentSpanId, required_text operation, field_text description,
    field_text status, required_count (plain_field (by simp)) durationMs,
    required_count (plain_field (by simp)) startTimeMillis,
    required_count (plain_field (by simp)) endTimeMillis, field_text service,
    field_text environment,
    field_survives (survives_stringMap (plain_field (by simp))) tags,
    field_scrubJson (plain_field (by simp)) data]
  rfl

theorem LogRecord.reads_scrubbed (log : LogRecord) :
    LogRecord.fromValue (scrubValue log.toValue) =
      some (log.rewrite .scrubbing) := by
  unfold LogRecord.toValue
  apply reads_record (by simp)
  intro value map object entries
  simp only [List.forall_mem_cons] at entries
  obtain ⟨level, message, service, environment, traceId, spanId, requestId,
    userId, errorId, metadata, -⟩ := entries
  rw [LogRecord.fromValue, object, Option.bind_eq_bind, Option.bind_some]
  simp only [required_text level, required_text message, field_text service,
    field_text environment, field_text traceId, field_text spanId,
    field_text requestId, field_text userId, field_text errorId,
    field_scrubJson (plain_field (by simp)) metadata]
  rfl

theorem DbQueryRecord.reads_scrubbed (query : DbQueryRecord) :
    DbQueryRecord.fromValue (scrubValue query.toValue) =
      some (query.rewrite .scrubbing) := by
  unfold DbQueryRecord.toValue
  apply reads_record (by simp)
  intro value map object entries
  simp only [List.forall_mem_cons] at entries
  obtain ⟨normalizedQuery, queryHash, queryType, durationMs, timestampMillis,
    status, errorMessage, databaseName, databaseType, service, environment,
    traceId, spanId, -⟩ := entries
  rw [DbQueryRecord.fromValue, object, Option.bind_eq_bind, Option.bind_some]
  simp only [required_text normalizedQuery, required_text queryHash,
    required_text queryType, required_count (plain_field (by simp)) durationMs,
    required_count (plain_field (by simp)) timestampMillis,
    required_text status, field_text errorMessage, field_text databaseName,
    field_text databaseType, field_text service, field_text environment,
    field_text traceId, field_text spanId]
  rfl

theorem SessionStart.reads_scrubbed (start : SessionStart) :
    SessionStart.fromValue (scrubValue start.toValue) =
      some (start.rewrite .scrubbing) := by
  unfold SessionStart.toValue
  apply reads_record (by simp)
  intro value map object entries
  simp only [List.forall_mem_cons] at entries
  obtain ⟨sessionId, release, environment, userId, sdkName, sdkVersion,
    platform, -⟩ := entries
  rw [SessionStart.fromValue, object, Option.bind_eq_bind, Option.bind_some]
  simp only [required_text sessionId, required_text release,
    field_text environment, field_text userId, field_text sdkName,
    field_text sdkVersion, field_text platform]
  rfl

theorem SessionEnd.reads_scrubbed (ending : SessionEnd) :
    SessionEnd.fromValue (scrubValue ending.toValue) =
      some (ending.rewrite .scrubbing) := by
  unfold SessionEnd.toValue
  apply reads_record (by simp)
  intro value map object entries
  simp only [List.forall_mem_cons] at entries
  obtain ⟨sessionId, release, environment, userId, sdkName, sdkVersion,
    platform, durationMs, status, -⟩ := entries
  rw [SessionEnd.fromValue, object, Option.bind_eq_bind, Option.bind_some]
  simp only [required_text sessionId, required_text release,
    field_text environment, field_text userId, field_text sdkName,
    field_text sdkVersion, field_text platform,
    required_count (plain_field (by simp)) durationMs, required_text status]
  rfl

theorem Heartbeat.reads_scrubbed (heartbeat : Heartbeat) :
    Heartbeat.fromValue (scrubValue heartbeat.toValue) =
      some (heartbeat.rewrite .scrubbing) := by
  unfold Heartbeat.toValue
  apply reads_record (by simp)
  intro value map object entries
  simp only [List.forall_mem_cons] at entries
  obtain ⟨slug, status, durationMs, message, -⟩ := entries
  rw [Heartbeat.fromValue, object, Option.bind_eq_bind, Option.bind_some]
  simp only [required_text slug, required_text status,
    required_count (plain_field (by simp)) durationMs, field_text message]
  rfl

theorem ReleaseRegistration.reads_scrubbed (release : ReleaseRegistration) :
    ReleaseRegistration.fromValue (scrubValue release.toValue) =
      some (release.rewrite .scrubbing) := by
  unfold ReleaseRegistration.toValue
  apply reads_record (by simp)
  intro value map object entries
  simp only [List.forall_mem_cons] at entries
  obtain ⟨version, environment, -⟩ := entries
  rw [ReleaseRegistration.fromValue, object, Option.bind_eq_bind,
    Option.bind_some]
  simp only [required_text version, field_text environment]
  rfl

theorem batch_reads_scrubbed {α : Type} {name : String} (plain : Plain name)
    {write : α → Value} {read : Value → Option α} {rewrite : α → α}
    (reads : ∀ content, read (scrubValue (write content)) =
      some (rewrite content)) (records : List α) :
    batchFromValue name read (scrubValue (batch name (records.map write))) =
      some (records.map rewrite) := by
  unfold batch
  apply reads_record (by simp)
  intro value map object entries
  have found := entries _ List.mem_cons_self
  exact reads_field object (required_survives (survives_list plain reads) found)

theorem Payload.reads_scrubbed (payload : Payload) :
    payload.fromValueAs (scrubValue payload.toValue) =
      some (payload.rewrite .scrubbing).withoutId := by
  cases payload with
  | errorEvent event => exact congrArg (Option.map _) event.reads_scrubbed
  | spanBatch spans =>
      rw [toValue, fromValueAs,
        batch_reads_scrubbed (plain_field (by simp))
          SpanRecord.reads_scrubbed]
      rfl
  | logRecord log => exact congrArg (Option.map _) log.reads_scrubbed
  | httpRequestBatch requests =>
      rw [toValue, fromValueAs,
        batch_reads_scrubbed (plain_field (by simp))
          HttpRequestRecord.reads_scrubbed]
      rfl
  | dbQueryBatch queries =>
      rw [toValue, fromValueAs,
        batch_reads_scrubbed (plain_field (by simp))
          DbQueryRecord.reads_scrubbed]
      rfl
  | sessionStart start => exact congrArg (Option.map _) start.reads_scrubbed
  | sessionEnd ending => exact congrArg (Option.map _) ending.reads_scrubbed
  | heartbeat beat => exact congrArg (Option.map _) beat.reads_scrubbed
  | releaseRegistration release =>
      exact congrArg (Option.map _) release.reads_scrubbed

/-- Scrubbing is a change of texts and of free JSON only. -/
theorem Rewriting.scrubbing_andThen_blanking :
    Rewriting.scrubbing.andThen .blanking = .blanking := by
  have json (value : Value) :
      (scrubJson value).bind blankJson = blankJson value := by
    cases value with
    | string content =>
        rw [scrubJson, scrubValue]
        cases looksSensitive content <;> rfl
    | null | bool | number | array | object => rfl
  exact congrArg (Rewriting.mk fun _ _ => "") (funext json)

theorem Client.sanitizedEventForHook_eq (event : ErrorEvent) :
    sanitizedEventForHook event =
      { event.rewrite .scrubbing with eventId := 0 } := by
  rw [sanitizedEventForHook, event.reads_scrubbed]
  rfl

/-- A scrubbed payload reads back into its type, and what it reads back as is
the payload again once texts and free JSON are blanked.  So a hook's event is
never replaced by the redacted one. -/
theorem scrubbing_keeps_schema (payload : Payload) :
    (∃ read,
      payload.fromValueAs (scrubValue payload.toValue) = some read ∧
        read.rewrite .blanking = (payload.rewrite .blanking).withoutId) ∧
      ∀ event : ErrorEvent,
        (ErrorEvent.fromValue (scrubValue event.toValue)).isSome ∧
          Client.sanitizedEventForHook event =
            { event.rewrite .scrubbing with eventId := 0 } := by
  constructor
  · refine ⟨_, payload.reads_scrubbed, ?_⟩
    rw [Payload.rewrite_withoutId, Payload.rewrite_andThen,
      Rewriting.scrubbing_andThen_blanking]
  · intro event
    constructor
    · rw [event.reads_scrubbed]
      rfl
    · exact Client.sanitizedEventForHook_eq event

end Scrubbed

end Allstak
