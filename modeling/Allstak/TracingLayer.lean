import Allstak.Performance

/-!
# The `tracing` layer

Events of the `tracing` facade become breadcrumbs, logs or error events on the
current hub, as a filter says; spans that pass another filter become root spans,
which the registry of the subscriber keeps until it closes them.
-/

namespace Allstak

namespace Tracing

inductive TLevel where
  | error
  | warn
  | info
  | debug
  | trace
  deriving DecidableEq

structure Metadata where
  name : String
  target : String
  level : TLevel

/-- A field as one of the visitor's methods gets it; other values arrive in
their `Debug` rendering. -/
inductive FieldValue where
  | debug (rendering : String)
  | str (text : String)
  | i64 (value : Int64)
  | u64 (value : UInt64)
  | bool (value : Bool)

namespace FieldValue

/-- The JSON value the visitor records. -/
def toValue : FieldValue → Value
  | .debug text => .string text
  | .str text => .string text
  | .i64 value =>
      .number (if value < 0 then .negInt value else .posInt value.toUInt64)
  | .u64 value => .number (.posInt value)
  | .bool value => .bool value

/-- The text of a string, and `to_string` of any other JSON value. -/
def tagText : FieldValue → String
  | .debug text => text
  | .str text => text
  | .i64 value => toString value
  | .u64 value => toString value
  | .bool value => toString value

end FieldValue

abbrev Field := String × FieldValue

structure FieldVisitor where
  message : Option String := none
  data : Map := []
  tags : List (String × String) := []

/-- What follows `tags.` in the name of a field. -/
def tagName (name : String) : Option String :=
  if "tags.".toList.isPrefixOf name.toList then
    some (String.ofList (name.toList.drop 5))
  else none

namespace FieldVisitor

def store (field : Field) (visitor : FieldVisitor) : FieldVisitor :=
  match tagName field.1 with
  | some tag =>
      { visitor with
        tags := Library.OrderedMap.insert tag field.2.tagText visitor.tags }
  | none =>
      { visitor with data := visitor.data.insert field.1 field.2.toValue }

/-- A message that is no string is data. -/
def record (visitor : FieldVisitor) (field : Field) : FieldVisitor :=
  if field.1 = "message" then
    match field.2.toValue with
    | .string text => { visitor with message := some text }
    | _ => visitor.store field
  else visitor.store field

/-- `record` on the fields in their order. -/
def visit (fields : List Field) : FieldVisitor := fields.foldl record {}

/-- The collected data as metadata; none when there is none. -/
def metadata (visitor : FieldVisitor) : Option Value :=
  if visitor.data.isEmpty then none else some (.object visitor.data)

end FieldVisitor

inductive EventFilter where
  | ignore
  | breadcrumb
  | event
  | exception
  | log
  deriving DecidableEq

def defaultEventFilter (metadata : Metadata) : EventFilter :=
  match metadata.level with
  | .error => .exception
  | .warn | .info => .breadcrumb
  | .debug | .trace => .ignore

def toLevel : TLevel → Level
  | .error => .error
  | .warn => .warning
  | .info => .info
  | .debug => .debug
  | .trace => .debug

structure AllstakLayer where
  eventFilter : Metadata → EventFilter := defaultEventFilter
  spanFilter : Metadata → Bool := fun _ => true

/-- `layer()`. -/
def layer : AllstakLayer := {}

/-- An event, with the id drawn for it, the clock's reading and the turn of the
breadcrumb hook. -/
structure TracingEvent where
  metadata : Metadata
  fields : List Field
  eventId : Uuid
  now : String
  turn : Nat := 0

namespace TracingEvent

def visitor (event : TracingEvent) : FieldVisitor :=
  .visit event.fields

/-- The message, or else the target. -/
def message (event : TracingEvent) : String :=
  event.visitor.message.getD event.metadata.target

def breadcrumb (event : TracingEvent) : Breadcrumb :=
  { timestamp := some event.now
    ty := some "log"
    category := some event.metadata.target
    message := some event.message
    level := some (toLevel event.metadata.level)
    data := event.visitor.metadata }

def log (event : TracingEvent) (options : ClientOptions) : LogRecord :=
  { level := (toLevel event.metadata.level).asStr
    message := event.message
    service := options.serverName
    environment := some options.resolvedEnvironment
    metadata := event.visitor.metadata }

def errorEvent (event : TracingEvent) : ErrorEvent :=
  { eventId := event.eventId
    exceptionClass := event.metadata.target
    message := event.message
    level := some (toLevel event.metadata.level).asStr
    metadata := event.visitor.metadata }

end TracingEvent

/-- The attributes of a new span, with the ids drawn for it and its start. -/
structure Attributes where
  metadata : Metadata
  fields : List Field
  newTraceId : String
  newSpanId : String
  moment : Moment

/-- A field of the name that is a string. -/
def FieldVisitor.textOf (name : String) (visitor : FieldVisitor) :
    Option String :=
  (visitor.data.get name).bind Value.asString?

/-- The root span made of the attributes.  The fields `as.op` and `as.name`
name its operation and the span itself. -/
def Attributes.span (attributes : Attributes) : Span :=
  let visitor := FieldVisitor.visit attributes.fields
  let operation := (visitor.textOf "as.op").getD "default"
  let name := (visitor.textOf "as.name").getD attributes.metadata.name
  let span := Span.transaction operation name attributes.newTraceId
    attributes.newSpanId attributes.moment
  let span := visitor.tags.foldl (fun span tag => span.setTag tag.1 tag.2) span
  if visitor.data.isEmpty then span else span.setData (.object visitor.data)

/-- What the layer keeps with a span of the registry. -/
structure SpanHolder where
  span : Option OpenSpan

/-- The spans of the subscriber's registry under their ids, each with its
extensions. -/
abbrev Registry := Nat → Option (Option SpanHolder)

namespace AllstakLayer

section

variable [UnicodeTables]

def onEvent (layer : AllstakLayer) (hub : HubId) (event : TracingEvent)
    (world : World) : World :=
  match layer.eventFilter event.metadata with
  | .ignore => world
  | .breadcrumb => world.addBreadcrumb hub event.turn event.breadcrumb
  | .log =>
      match (world.hubs hub).client with
      | none => world
      | some client =>
          world.ingest client fun client counters =>
            client.captureLog (event.log client.options) counters
  | .event | .exception => world.captureEvent hub event.errorEvent

end

def onNewSpan (layer : AllstakLayer) (attributes : Attributes) (id : Nat)
    (registry : Registry) : Registry :=
  if layer.spanFilter attributes.metadata then
    match registry id with
    | none => registry
    | some _ =>
        Function.update registry id
          (some (some { span := some { span := attributes.span } }))
  else registry

variable [UnicodeTables]

/-- The holder gives its span away the first time. -/
def onClose (hub : HubId) (id : Nat) (moment : Moment) (registry : Registry)
    (world : World) : Registry × World :=
  match registry id with
  | some (some { span := some opened }) =>
      (Function.update registry id (some (some { span := none })),
        opened.finish hub moment world)
  | _ => (registry, world)

end AllstakLayer

end Tracing

end Allstak
