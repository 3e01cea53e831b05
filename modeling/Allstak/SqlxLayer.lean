import Allstak.QueryCanonical
import Allstak.SessionPairing
import Allstak.Sqlx
import Allstak.TracingLayer
import Allstak.Transport.RateLimiter

/-!
# The sqlx layer

A query event of sqlx becomes one database record on the current hub, unless it
names no statement or was too fast.  Everything else passes by.  An elapsed time
no duration can hold panics out of the layer before anything is captured.
-/

namespace Allstak

namespace SqlxLayer

open Tracing (Metadata)

def SQLX_TARGET : String := "sqlx::query"

/-- A 64-bit float, a finite one by its value. -/
inductive F64 where
  | finite (value : Rat)
  | infinite (negative : Bool)
  | nan

/-- `max(0.0)`, which passes over a NaN. -/
def F64.maxZero : F64 → F64
  | .finite value => .finite (if value < 0 then 0 else value)
  | .infinite false => .infinite false
  | .infinite true | .nan => .finite 0

/-- The nearest whole number, the even one of two. -/
def nearestEven (value : Rat) : Nat :=
  let below := value.floor.toNat
  let rest := value - below
  if rest < 1 / 2 ∨ rest = 1 / 2 ∧ below % 2 = 0 then below else below + 1

/-- `Duration::from_secs_f64`, to the nearest nanosecond; none where it panics:
the seconds are a 64-bit number. -/
def fromSecsF64 : F64 → Option Duration
  | .finite value =>
      if 0 ≤ value ∧ value < UInt64.size then
        some (nearestEven (value * NANOS_PER_SEC))
      else none
  | .infinite _ | .nan => none

/-- A field as one of the visitor's methods gets it; other values arrive in
their `Debug` rendering. -/
inductive FieldValue where
  | debug (rendering : String)
  | str (text : String)
  | f64 (value : F64)
  | u64 (value : UInt64)
  | i64 (value : Int64)

abbrev Field := String × FieldValue

structure Visitor where
  texts : SqlxVisitor := {}
  elapsedSecs : Option F64 := none
  rowsAffected : Option UInt64 := none
  rowsReturned : Option UInt64 := none

namespace Visitor

def recordRows (field : String) (value : UInt64) (visitor : Visitor) :
    Visitor :=
  match field with
  | "rows_affected" => { visitor with rowsAffected := some value }
  | "rows_returned" => { visitor with rowsReturned := some value }
  | _ => visitor

def record (visitor : Visitor) (field : Field) : Visitor :=
  match field.2 with
  | .debug rendering =>
      { visitor with texts := visitor.texts.recordDebug field.1 rendering }
  | .str text => { visitor with texts := visitor.texts.recordStr field.1 text }
  | .f64 value =>
      if field.1 = "elapsed_secs" then
        { visitor with elapsedSecs := some value }
      else visitor
  | .u64 value => visitor.recordRows field.1 value
  | .i64 value => visitor.recordRows field.1 value.toUInt64

def visit (fields : List Field) : Visitor := fields.foldl record {}

end Visitor

structure AllstakSqlxLayer where
  databaseType : Metadata → Option String := fun _ => none
  minDuration : Duration := 0

namespace AllstakSqlxLayer

def withDatabaseType (ty : String) (layer : AllstakSqlxLayer) :
    AllstakSqlxLayer := { layer with databaseType := fun _ => some ty }

def withMinDuration (min : Duration) (layer : AllstakSqlxLayer) :
    AllstakSqlxLayer := { layer with minDuration := min }

end AllstakSqlxLayer

/-- An event, with the clock's reading when its record is built. -/
structure QueryEvent where
  metadata : Metadata
  fields : List Field
  timestampMillis : UInt64

/-- The trimmed statement, or else the summary sqlx provides. -/
def statementOf (visitor : Visitor) : Option String :=
  let statement := visitor.texts.statement.map fun text =>
    String.ofList (Text.trim text.toList)
  match statement.filter fun text => text != "" with
  | some text => some text
  | none => visitor.texts.summary

/-- `Duration::as_millis` as an unsigned 64-bit number. -/
def asMillis (duration : Duration) : UInt64 :=
  UInt64.ofNat (duration / 1000000)

section

variable [AlphanumericTable] [UnicodeTables]

/-- The layer's `on_event` on a thread whose current hub is the given one; none
where it panics. -/
def onEvent (layer : AllstakSqlxLayer) (digest : String → UInt64) (hub : HubId)
    (event : QueryEvent) (world : World) : Option World :=
  if event.metadata.target != SQLX_TARGET then some world
  else
    match (world.hubs hub).client with
    | none => some world
    | some client =>
        let visitor := Visitor.visit event.fields
        match statementOf visitor with
        | none => some world
        | some sql =>
            let elapsedSecs := visitor.elapsedSecs.getD (.finite 0)
            (fromSecsF64 elapsedSecs.maxZero).map fun duration =>
              if duration < layer.minDuration then world
              else
                let record := world.buildRecord digest hub sql
                  (asMillis duration) none (layer.databaseType event.metadata)
                  event.timestampMillis
                let record :=
                  match visitor.texts.message with
                  | some message =>
                      if Text.contains (Text.toAsciiLowercase message)
                          "slow" then
                        { record with status := "slow" }
                      else record
                  | none => record
                world.ingest client fun client counters =>
                  client.captureDbQueries [record] counters

end

/-- The text a field gives under a name. -/
def textOf (name : String) (field : Field) : Option String :=
  if field.1 = name then
    match field.2 with
    | .debug rendering => some (stripQuotes rendering)
    | .str text => some text
    | _ => none
  else none

/-- The envelopes of database queries, in the order they were sent. -/
def queriesSent (world : World) : List (ClientId × Envelope) :=
  world.sent.filter fun sent => sent.2.path == "/ingest/v1/db"

/-- An event on a thread whose current hub is the given one, or anything the
process does that sends no database query. -/
inductive Happening where
  | event (hub : HubId) (event : QueryEvent)
  | elsewhere (change : World → World)
      (quiet : ∀ world, queriesSent (change world) = queriesSent world)

section

variable [AlphanumericTable] [UnicodeTables]

/-- A panic leaves the world as it was: what a panic hook then does is something
else that happens. -/
def perform (layer : AllstakSqlxLayer) (digest : String → UInt64)
    (world : World) : Happening → World
  | .event hub event => (onEvent layer digest hub event world).getD world
  | .elsewhere change _ => change world

def run (layer : AllstakSqlxLayer) (digest : String → UInt64) (world : World)
    (happenings : List Happening) : World :=
  happenings.foldl (perform layer digest) world

end

end SqlxLayer

end Allstak
