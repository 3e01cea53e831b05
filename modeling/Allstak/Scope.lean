import Allstak.Protocol

/-!
# Scopes

The contextual data laid over an event when it is captured.  The string maps
are ordered by key; the breadcrumbs are a ring that keeps the newest items.
-/

namespace Allstak

/-- What outbound instrumentation reads from a scope. -/
structure TraceContext where
  traceId : Option String := none
  parentSpanId : Option String := none
  requestId : Option String := none
  baggage : Option String := none
  deriving DecidableEq

structure Scope where
  user : Option User := none
  tags : List (String × String) := []
  extra : Map := []
  contexts : Map := []
  level : Option Level := none
  fingerprint : Option (List String) := none
  transaction : Option String := none
  traceId : Option String := none
  spanId : Option String := none
  requestId : Option String := none
  breadcrumbs : List Breadcrumb := []
  maxBreadcrumbs : Nat

namespace Scope

/-- An empty scope with the given breadcrumb cap. -/
def new (maxBreadcrumbs : Nat) : Scope := { maxBreadcrumbs }

def setUser (scope : Scope) (user : Option User) : Scope := { scope with user }

def setTag (scope : Scope) (key value : String) : Scope :=
  { scope with tags := Library.OrderedMap.insert key value scope.tags }

def setExtra (scope : Scope) (key : String) (value : Value) : Scope :=
  { scope with extra := scope.extra.insert key value }

def setContext (scope : Scope) (key : String) (value : Value) : Scope :=
  { scope with contexts := scope.contexts.insert key value }

def setLevel (scope : Scope) (level : Option Level) : Scope :=
  { scope with level }

def setTraceId (scope : Scope) (traceId : Option String) : Scope :=
  { scope with traceId }

def setSpanId (scope : Scope) (spanId : Option String) : Scope :=
  { scope with spanId }

def setRequestId (scope : Scope) (requestId : Option String) : Scope :=
  { scope with requestId }

def traceContext (scope : Scope) : TraceContext :=
  { traceId := scope.traceId
    parentSpanId := scope.spanId
    requestId := scope.requestId }

/-- Append a breadcrumb and drop the oldest ones past the cap. -/
def addBreadcrumb (scope : Scope) (breadcrumb : Breadcrumb) : Scope :=
  let crumbs := scope.breadcrumbs ++ [breadcrumb]
  { scope with breadcrumbs := crumbs.drop (crumbs.length - scope.maxBreadcrumbs) }

/-- Reset everything but the breadcrumb cap. -/
def clear (scope : Scope) : Scope := new scope.maxBreadcrumbs

/-- The scope's own entries, merged into the metadata in this order. -/
def metadataEntries (scope : Scope) : Map :=
  (if scope.tags.isEmpty then [] else [("tags", stringMap scope.tags)]) ++
  (if scope.extra.isEmpty then [] else [("extra", .object scope.extra)]) ++
  (if scope.contexts.isEmpty then [] else [("contexts", .object scope.contexts)]) ++
  (scope.fingerprint.toList.map fun parts =>
    ("fingerprint", .array (parts.map .string))) ++
  (scope.transaction.toList.map fun name => ("transaction", .string name))

/-- Metadata that is no object is not carried over: the merge starts from an
empty map, and an empty result leaves the event without metadata. -/
def mergeMetadata (scope : Scope) (metadata : Option Value) : Option Value :=
  let start : Map :=
    match metadata with
    | some (.object entries) => entries
    | _ => []
  let merged := scope.metadataEntries.foldl
    (fun map entry => map.insert entry.1 entry.2) start
  if merged.isEmpty then none else some (.object merged)

/-- Lay the scope's data over an event. -/
def applyToEvent (scope : Scope) (event : ErrorEvent) : ErrorEvent :=
  { event with
    user := event.user <|> scope.user
    traceId := event.traceId <|> scope.traceId
    breadcrumbs :=
      if scope.breadcrumbs.isEmpty then event.breadcrumbs
      else some (scope.breadcrumbs ++ event.breadcrumbs.getD [])
    metadata := scope.mergeMetadata event.metadata
    level := event.level <|> scope.level.map Level.asStr }

end Scope

end Allstak
