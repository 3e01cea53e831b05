import Allstak.Middleware

/-!
# Server errors and the session of the originating hub

A middleware marks a session crashed on the hub it derived for the request.
That hub never has a session, so the session of the hub the request arrived on
ends as the handler leaves it.
-/

namespace Allstak

namespace World

def sessionStatus (hub : HubId) (world : World) : Option SessionStatus :=
  (world.hubs hub).session.map Session.status

/-- What `end_session()` would report for the active session. -/
def endReport (hub : HubId) (now : Nat) (world : World) : Option SessionEnd :=
  (world.hubs hub).session.map fun session => session.toEnd none now

/-- `end_session()` sends the report of a hub with a client. -/
theorem endSession_sent [UnicodeTables] {world : World} {hub : HubId}
    {client : ClientId} {report : SessionEnd} (now : Nat)
    (bound : (world.hubs hub).client = some client)
    (active : world.endReport hub now = some report) :
    (world.endSession hub now).sent =
      (world.ingest client fun client counters =>
        client.sendSessionEnd report counters).sent := by
  obtain ⟨session, found, rfl⟩ := Option.map_eq_some_iff.mp active
  simp only [endSession, endSessionWithStatusInternal, bound, found]
  rfl

/-- The report says crashed exactly when the session is. -/
theorem endReport_crashed_iff (world : World) (hub : HubId) (now : Nat) :
    (world.endReport hub now).map SessionEnd.status = some "crashed" ↔
      world.sessionStatus hub = some .crashed := by
  unfold endReport sessionStatus
  cases (world.hubs hub).session with
  | none => simp
  | some session => simp [Session.toEnd_status_crashed_iff]

end World

namespace SessionCrash

/-- A served request leaves the originating hub's session crashed after a
server error, and alone after any other answer. -/
structure ReportsCrash (served : Served) (origin : HubId) : Prop where
  failed : 500 ≤ served.answer.statusCode →
    served.after.sessionStatus origin = some .crashed ∧
      ∀ now, (served.after.endReport origin now).map SessionEnd.status =
        some "crashed"
  answered : served.answer.statusCode < 500 →
    served.after.sessionStatus origin = served.left.sessionStatus origin

/-- For every request on every existing hub, whatever the handler and the rest
of the process do: a server error is reported exactly when the handler itself
left the hub's session crashed. -/
theorem reportsCrash_iff [UnicodeTables] (middleware : Middleware)
    (slot : Option HubId) (arrival : Arrival)
    (handler : HubId → World → Answer × World) (world : World)
    (allocated : World.current slot < world.nextHub) :
    let served := middleware.serve (World.current slot) arrival handler world
    ReportsCrash served (World.current slot) ↔
      (500 ≤ served.answer.statusCode →
        served.left.sessionStatus (World.current slot) = some .crashed) := by
  intro served
  have untouched : served.after.hubs (World.current slot) =
      served.left.hubs (World.current slot) :=
    middleware.serve_hubs _ arrival handler world (Nat.ne_of_lt allocated)
  have status : served.after.sessionStatus (World.current slot) =
      served.left.sessionStatus (World.current slot) := by
    rw [World.sessionStatus, World.sessionStatus, untouched]
  constructor
  · intro reports failed
    rw [← status]
    exact (reports.failed failed).1
  · intro left
    constructor
    · intro failed
      have crashed := status.trans (left failed)
      exact ⟨crashed, fun now => (World.endReport_crashed_iff _ _ now).mpr crashed⟩
    · intro _
      exact status

def openSession : Session :=
  { sessionId := "first"
    release := "1.0.0"
    environment := none
    userId := none
    status := .ok
    started := 0 }

/-- The main hub has a client and an active session. -/
def activeWorld : World :=
  { World.initial with
    hubs := fun _ =>
      { client := some 0, scopes := .single (Scope.new 100),
        session := some openSession }
    nextClient := 1 }

def bareArrival : Arrival :=
  let moment : Moment := { instant := 0, millis := 0, iso8601 := "" }
  { request :=
      { method := "GET", headers := fun _ => none, rawPath := "/",
        matchedPath := none, connectionHost := "" }
    newTraceId := "trace"
    newSpanId := "span"
    arrived := moment
    completed := moment }

/-- Answer 500, and do something to the world before. -/
def failing (effect : World → World) (_ : HubId) (world : World) :
    Answer × World :=
  (.response 500, effect world)

def servedFailing (middleware : Middleware) (effect : World → World) : Served :=
  @Middleware.serve asciiTables middleware (World.current none) bareArrival
    (failing effect) activeWorld

/-- The request is answered 500 and its session is reported as exited. -/
def ExitsAfterError (served : Served) : Prop :=
  served.answer.statusCode = 500 ∧
    (served.after.endReport (World.current none) 9).map SessionEnd.status =
      some "exited" ∧
    ¬ ReportsCrash served (World.current none)

theorem exitsAfterError (middleware : Middleware) :
    ExitsAfterError (servedFailing middleware id) := by
  have exits : (servedFailing middleware id).answer.statusCode = 500 ∧
      ((servedFailing middleware id).after.endReport (World.current none) 9).map
        SessionEnd.status = some "exited" := by
    cases middleware <;> decide
  refine ⟨exits.1, exits.2, fun reports => ?_⟩
  have crashed := (reports.failed (by rw [exits.1]; decide)).2 9
  rw [exits.2] at crashed
  exact absurd crashed (by decide)

theorem serverError_exits :
    ExitsAfterError (servedFailing .axum id) ∧
      ExitsAfterError (servedFailing .actix id) :=
  ⟨exitsAfterError .axum, exitsAfterError .actix⟩

/-- A handler that marks the main hub's session itself. -/
theorem reportsCrash_iff_marked :
    ReportsCrash
        (servedFailing .axum (World.onHub World.main Hub.markSessionCrashed))
        (World.current none) ↔
      (500 ≤ (servedFailing .axum
          (World.onHub World.main Hub.markSessionCrashed)).answer.statusCode →
        (servedFailing .axum
          (World.onHub World.main Hub.markSessionCrashed)).left.sessionStatus
            (World.current none) = some .crashed) :=
  @reportsCrash_iff asciiTables .axum none bareArrival
    (failing (World.onHub World.main Hub.markSessionCrashed)) activeWorld
    (by decide)

end SessionCrash

end Allstak
