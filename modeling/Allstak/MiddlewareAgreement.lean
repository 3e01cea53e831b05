import Allstak.Middleware

/-!
# The middlewares compared

Both middlewares take the trace id from the propagation headers.  The request
id is read by the one as part of the propagation, where an empty or unreadable
header gives way to the next, and by the other from the first header present.
-/

namespace Allstak

/-- The request id that is read does not depend on how the headers are tried. -/
def ReadsAlike (headers : String → Option HeaderText) : Prop :=
  match headers "x-request-id" with
  | none => headers "x-allstak-request-id" ≠ some (some "")
  | some none => ∀ text, headers "x-allstak-request-id" = some (some text) →
      text = ""
  | some (some text) => text ≠ ""

theorem first_requestId (get : String → Option String) :
    Propagation.first Propagation.REQUEST_ID_HEADERS get =
      ((get "x-request-id").filter (· != "") <|>
        (get "x-allstak-request-id").filter (· != "")) := by
  rw [Propagation.first, Propagation.REQUEST_ID_HEADERS, List.findSome?_cons]
  cases (get "x-request-id").filter (· != "") with
  | some text => rfl
  | none =>
      rw [List.findSome?_cons]
      cases (get "x-allstak-request-id").filter (· != "") with
      | some text => rfl
      | none => rfl

/-- An empty text is passed over by the propagation only. -/
theorem filter_nonempty (text : String) :
    (some text).filter (· != "") = if text = "" then none else some text := by
  by_cases empty : text = ""
  · simp [empty]
  · simp [empty, Option.filter]

/-- The axum layer passes a header over only where it is empty; the actix
transform settles for a header without a text, and takes an empty one. -/
theorem requestId_eq_iff (request : Request) :
    (Propagation.extract request.header).requestId =
        (request.headers "x-request-id" <|>
          request.headers "x-allstak-request-id").join ↔
      ReadsAlike request.headers := by
  have extracted : (Propagation.extract request.header).requestId =
      ((request.header "x-request-id").filter (· != "") <|>
        (request.header "x-allstak-request-id").filter (· != "")) :=
    first_requestId request.header
  rw [extracted, ReadsAlike, Request.header, Request.header]
  cases request.headers "x-request-id" with
  | none =>
      rcases request.headers "x-allstak-request-id" with _ | _ | text
      · simp
      · simp
      · simp [filter_nonempty]
  | some value =>
      cases value with
      | none =>
          rcases request.headers "x-allstak-request-id" with _ | _ | text
          · simp
          · simp
          · simp [filter_nonempty]
      | some text =>
          by_cases empty : text = ""
          · rcases request.headers "x-allstak-request-id" with _ | _ | other
            · simp [empty]
            · simp [empty]
            · simp [empty, filter_nonempty]
          · simp [empty, filter_nonempty]

namespace Pending

/-- A request without an id leaves the one of the hub it arrived on. -/
theorem scope_requestId (pending : Pending) (base : Scope) :
    (pending.scope base).requestId =
      (pending.requestId <|> base.requestId) := by
  unfold scope
  cases pending.traceId <;> cases pending.requestId <;> cases pending.span <;> rfl

end Pending

theorem Transform.call_top (current : HubId) (arrival : Arrival) (world : World) :
    ((call current arrival world).2.hubs world.nextHub).scopes.top =
      (call current arrival world).1.scope (world.hubs current).scopes.top := by
  rw [call, ← World.newFromTop_top world current]
  exact World.configureRequest_top _ _

namespace Middleware

/-- The record of a request. -/
def record (middleware : Middleware) (current : HubId) (arrival : Arrival)
    (answer : Answer) (world : World) : HttpRequestRecord :=
  (middleware.call current arrival world).1.record answer arrival.completed

/-- The scope the handler of a request starts with. -/
def requestScope (middleware : Middleware) (current : HubId) (arrival : Arrival)
    (world : World) : Scope :=
  let (pending, world) := middleware.call current arrival world
  (world.hubs pending.hub).scopes.top

/-- The middlewares make the same of a request. -/
structure Agree (current : HubId) (arrival : Arrival) (answer : Answer)
    (world : World) : Prop where
  traceId : (axum.record current arrival answer world).traceId =
    (actix.record current arrival answer world).traceId
  requestId : (axum.record current arrival answer world).requestId =
    (actix.record current arrival answer world).requestId
  direction : (axum.record current arrival answer world).direction =
    (actix.record current arrival answer world).direction
  statusCode : (axum.record current arrival answer world).statusCode =
    (actix.record current arrival answer world).statusCode
  scope : (axum.requestScope current arrival world).requestId =
    (actix.requestScope current arrival world).requestId

theorem requestScope_requestId (middleware : Middleware) (current : HubId)
    (arrival : Arrival) (answer : Answer) (world : World) :
    (middleware.requestScope current arrival world).requestId =
      ((middleware.record current arrival answer world).requestId <|>
        (world.hubs current).scopes.top.requestId) := by
  have top : middleware.requestScope current arrival world =
      (middleware.call current arrival world).1.scope
        (world.hubs current).scopes.top := by
    cases middleware with
    | axum => exact AllstakLayer.call_top .new current arrival world
    | actix => exact Transform.call_top current arrival world
  rw [top]
  exact Pending.scope_requestId _ _

/-- Everything but the request id is the same for every request. -/
theorem agree_iff (current : HubId) (arrival : Arrival) (answer : Answer)
    (world : World) :
    Agree current arrival answer world ↔ ReadsAlike arrival.request.headers := by
  rw [← requestId_eq_iff]
  constructor
  · intro agree
    exact agree.requestId
  · intro same
    constructor
    · rfl
    · exact same
    · rfl
    · rfl
    · rw [requestScope_requestId axum current arrival answer,
        requestScope_requestId actix current arrival answer]
      have recorded : (axum.record current arrival answer world).requestId =
          (actix.record current arrival answer world).requestId := same
      rw [recorded]

/-- A request with an empty header before one that has an id. -/
def twoIds : Arrival :=
  let moment : Moment := { instant := 0, millis := 0, iso8601 := "" }
  { request :=
      { method := "GET"
        headers := fun name =>
          if name = "x-request-id" then some (some "")
          else if name = "x-allstak-request-id" then some (some "req-9")
          else none
        rawPath := "/"
        matchedPath := none
        connectionHost := "" }
    newTraceId := "11111111111111111111111111111111"
    newSpanId := "2222222222222222"
    arrived := moment
    completed := moment }

/-- The one middleware records the id, the other the empty text. -/
theorem empty_header_splits :
    (axum.record World.main twoIds (.response 200) .initial).requestId =
        some "req-9" ∧
      (actix.record World.main twoIds (.response 200) .initial).requestId =
        some "" ∧
      ¬ Agree World.main twoIds (.response 200) .initial := by
  refine ⟨by decide, by decide, ?_⟩
  rw [agree_iff]
  intro alike
  exact alike rfl

end Middleware

end Allstak
