import Allstak.PanicHook
import Allstak.SessionSummary
import Allstak.TracingLayer

/-!
# What the application tells of a session

The application reaches a hub through the functions of the crate, the `tracing`
layer and the panic hook.  What becomes of a session depends on what they make
of their arguments.
-/

namespace Allstak

namespace PublicApi

open SessionSummary (HubCall sessionEnds sends)
open Tracing (TracingEvent)

/-- A call of the application, with the backtrace and the event id it draws. -/
inductive AppCall where
  | addBreadcrumb (turn : Nat) (breadcrumb : Breadcrumb)
  | configureScope (configure : Scope → Scope)
  | pushScope (scopeFn : Scope → Scope)
  | popScope
  | captureEvent (event : ErrorEvent)
  | captureError (error : StdError) (symbols : List Symbol) (eventId : Uuid)
  | captureMessage (message : String) (level : Level) (symbols : List Symbol)
      (eventId : Uuid)
  | captureAnyhow (error : StdError) (eventId : Uuid)
  | tracing (layer : Tracing.AllstakLayer) (event : TracingEvent)
  | panic (extractors : List Panic.Extractor) (info : Panic.PanicInfo)

/-- The options a hub's client builds events with. -/
abbrev OptionsOf := ClientId → BacktraceOptions

section

variable [AlphanumericTable]

/-- The calls of the hub that a call of the application amounts to.  A log
record concerns the client only. -/
def AppCall.hubCalls (options : Option BacktraceOptions) :
    AppCall → List HubCall
  | .addBreadcrumb turn breadcrumb => [.addBreadcrumb turn breadcrumb]
  | .configureScope configure => [.configureScope configure]
  | .pushScope scopeFn => [.pushScope scopeFn]
  | .popScope => [.popScope]
  | .captureEvent event => [.captureEvent event]
  | .captureError error symbols eventId =>
      [.captureEvent (.fromError error (options.getD {}) symbols eventId)]
  | .captureMessage message level symbols eventId =>
      [.captureEvent (.fromMessage message level options symbols eventId)]
  | .captureAnyhow error eventId => [.captureEvent (.fromAnyhow error eventId)]
  | .tracing layer event =>
      match layer.eventFilter event.metadata with
      | .ignore | .log => []
      | .breadcrumb => [.addBreadcrumb event.turn event.breadcrumb]
      | .event | .exception => [.captureEvent event.errorEvent]
  | .panic extractors info =>
      [.markSessionCrashed, .captureEvent (Panic.buildEvent extractors info)]

variable [UnicodeTables]

/-- The options of the client bound to the hub. -/
def optionsAt (options : OptionsOf) (hub : HubId) (world : World) :
    Option BacktraceOptions :=
  (world.hubs hub).client.map options

def perform (options : OptionsOf) (hub : HubId) (world : World) :
    AppCall → World
  | .addBreadcrumb turn breadcrumb => world.addBreadcrumb hub turn breadcrumb
  | .configureScope configure => world.onHub hub (Hub.configureScope configure)
  | .pushScope scopeFn => world.onHub hub (Hub.pushScope scopeFn)
  | .popScope => world.onHub hub Hub.popScope
  | .captureEvent event => world.captureEvent hub event
  | .captureError error symbols eventId =>
      world.captureEvent hub
        (.fromError error ((optionsAt options hub world).getD {}) symbols
          eventId)
  | .captureMessage message level symbols eventId =>
      world.captureEvent hub
        (.fromMessage message level (optionsAt options hub world) symbols
          eventId)
  | .captureAnyhow error eventId =>
      world.captureEvent hub (.fromAnyhow error eventId)
  | .tracing layer event => layer.onEvent hub event world
  | .panic extractors info => Panic.panicHandler extractors info hub world

end

def AppCall.crashes : AppCall → Bool
  | .panic _ _ => true
  | _ => false

/-- The call reports an error.  A message does so at its level, an event of the
`tracing` layer when it becomes an event of the level error. -/
def AppCall.errs : AppCall → Bool
  | .captureEvent event => event.isErrorLevel
  | .captureError _ _ _ => true
  | .captureMessage _ level _ _ => level = .error || level = .fatal
  | .captureAnyhow _ _ => true
  | .tracing layer event =>
      (layer.eventFilter event.metadata = .event ||
        layer.eventFilter event.metadata = .exception) &&
          event.metadata.level = .error
  | _ => false

/-- The status that `end_session` reports after some calls. -/
def verdict (calls : List AppCall) : SessionStatus :=
  if calls.any AppCall.crashes then .crashed
  else if calls.any AppCall.errs then .errored
  else .exited

private theorem isErrorLevel_of_level {event : ErrorEvent} {level : Level}
    (has : event.level = some level.asStr) :
    event.isErrorLevel = (level = .error || level = .fatal) := by
  rw [ErrorEvent.isErrorLevel, has]
  cases level <;> decide

section

variable [AlphanumericTable]

private theorem any_crashes (options : Option BacktraceOptions)
    (call : AppCall) :
    (call.hubCalls options).any HubCall.crashes = call.crashes := by
  cases call with
  | tracing layer event =>
      rw [AppCall.hubCalls]
      cases layer.eventFilter event.metadata <;> rfl
  | _ => rfl

theorem any_errs (options : Option BacktraceOptions) {call : AppCall}
    (runs : call.crashes = false) :
    (call.hubCalls options).any HubCall.errs = call.errs := by
  have single (event : ErrorEvent) :
      [HubCall.captureEvent event].any HubCall.errs = event.isErrorLevel := by
    simp [HubCall.errs]
  cases call with
  | captureEvent event => exact single event
  | captureError error symbols eventId =>
      have level : (ErrorEvent.fromError error (options.getD {}) symbols
          eventId).level = some Level.error.asStr :=
        ErrorEvent.attachFrames_level ..
      rw [AppCall.hubCalls, single, isErrorLevel_of_level level]
      rfl
  | captureMessage message level symbols eventId =>
      rw [AppCall.hubCalls, single,
        isErrorLevel_of_level (ErrorEvent.fromMessage_level ..)]
      rfl
  | captureAnyhow error eventId =>
      have level : (ErrorEvent.fromAnyhow error eventId).level =
          some Level.error.asStr := rfl
      rw [AppCall.hubCalls, single, isErrorLevel_of_level level]
      rfl
  | tracing layer event =>
      have level : event.errorEvent.isErrorLevel =
          decide (event.metadata.level = .error) := by
        have carried : event.errorEvent.level =
          some (Tracing.toLevel event.metadata.level).asStr := rfl
        rw [isErrorLevel_of_level carried]
        cases event.metadata.level <;> decide
      rw [AppCall.hubCalls, AppCall.errs]
      cases layer.eventFilter event.metadata <;> simp [HubCall.errs, level]
  | panic => cases runs
  | addBreadcrumb | configureScope | pushScope | popScope => rfl

variable [UnicodeTables]

/-- Some calls mark the session as calls of the hub do that crash and err as
they; no end is sent, and the client stays bound. -/
structure Tells (hub : HubId) (calls : List AppCall) (before after : World) :
    Prop where
  bound : ((after.hubs hub).client).isSome
  silent : sessionEnds after.sent = sessionEnds before.sent
  marked : ∃ marks : List HubCall,
    (after.hubs hub).session = (before.hubs hub).session.map
      (fun session => marks.foldl (fun session call => call.mark session)
        session) ∧
    marks.any HubCall.crashes = calls.any AppCall.crashes ∧
    (calls.any AppCall.crashes = false →
      marks.any HubCall.errs = calls.any AppCall.errs)

theorem tells_of_hubCalls {hub : HubId} {world : World} {call : AppCall}
    (options : Option BacktraceOptions)
    (bound : ((world.hubs hub).client).isSome)
    (go : ∀ made ∈ call.hubCalls options, made.ends = false) :
    Tells hub [call] world
      ((call.hubCalls options).foldl (SessionSummary.perform hub) world) := by
  obtain ⟨stillBound, session, silent⟩ := SessionSummary.run_marks bound go
  refine ⟨stillBound, silent, call.hubCalls options, session, ?_, ?_⟩
  · rw [any_crashes]
    simp
  · intro runs
    simp only [List.any_cons, List.any_nil, Bool.or_false] at runs ⊢
    exact any_errs options runs

theorem tells_perform {hub : HubId} {world : World} (options : OptionsOf)
    (bound : ((world.hubs hub).client).isSome) (call : AppCall) :
    Tells hub [call] world (perform options hub world call) := by
  have plain (go : ∀ made ∈ call.hubCalls (optionsAt options hub world),
      made.ends = false) :=
    tells_of_hubCalls (optionsAt options hub world) bound go
  cases call with
  | tracing layer event =>
      rw [perform, Tracing.AllstakLayer.onEvent]
      simp only [AppCall.hubCalls] at plain
      cases decided : layer.eventFilter event.metadata with
      | log =>
          obtain ⟨client, binds⟩ := Option.isSome_iff_exists.mp bound
          simp only [binds]
          refine ⟨?_, ?_, [], ?_, ?_, ?_⟩
          · rw [World.ingest_hubs]
            exact bound
          · rw [SessionSummary.sessionEnds_ingest]
            apply List.append_right_eq_self.mpr
            apply List.filterMap_eq_nil_iff.mpr
            intro envelope handed
            simp [SessionSummary.sessionEnd,
              SessionPairing.deliver_paths handed]
          · rw [World.ingest_hubs]
            exact (Option.map_id' ..).symm
          · rfl
          · intro _
            simp [AppCall.errs, decided]
      | ignore | breadcrumb | event | exception =>
          rw [decided] at plain
          exact plain (by simp [HubCall.ends])
  | addBreadcrumb | configureScope | pushScope | popScope | captureEvent
  | captureError | captureMessage | captureAnyhow | panic =>
      exact plain (by simp [AppCall.hubCalls, HubCall.ends])

theorem Tells.run {hub : HubId} {world : World} (options : OptionsOf)
    (bound : ((world.hubs hub).client).isSome) (calls : List AppCall) :
    Tells hub calls world (calls.foldl (perform options hub) world) := by
  induction calls generalizing world with
  | nil => exact ⟨bound, rfl, [], (Option.map_id' ..).symm, rfl, fun _ => rfl⟩
  | cons call calls induction =>
      obtain ⟨firstBound, firstSilent, first, firstSession, firstCrashes,
        firstErrs⟩ :=
        tells_perform options bound call
      obtain ⟨lastBound, silent, rest, session, crashes, errs⟩ :=
        induction firstBound
      refine ⟨lastBound, silent.trans firstSilent, first ++ rest, ?_, ?_, ?_⟩
      · rw [List.foldl_cons, session, firstSession, Option.map_map]
        simp only [List.foldl_append]
        rfl
      · rw [List.any_append, firstCrashes, crashes]
        simp
      · intro runs
        rw [List.any_cons, Bool.or_eq_false_iff] at runs
        rw [List.any_append, firstErrs (by simp [runs.1]), errs runs.2]
        simp

/-- From the start of a session on, whatever the application calls: the end it
asks for reports a crash if there was a panic, or else an error if an error, a
message of level error or fatal, an event at error level or a `tracing` error
that the filter makes an event was captured, or else an exit.  It is the first
end sent since the start, and carries the id of the start. -/
theorem end_reports_verdict (options : OptionsOf) (hub : HubId) (world : World)
    (newTraceId : String) (started ended : Nat)
    (opens : SessionPairing.sendsStart hub world = true)
    (calls : List AppCall) :
    let opened := world.startSession hub newTraceId started
    let reached := calls.foldl (perform options hub) opened
    sessionEnds (reached.endSession hub ended).sent =
      sessionEnds opened.sent ++
        if sends hub reached then
          [(some newTraceId, some (verdict calls).asStr)]
        else [] := by
  intro opened reached
  obtain ⟨bound, session, active, id, fine⟩ :=
    @SessionSummary.startSession_opens _ hub world newTraceId started opens
  obtain ⟨stillBound, silent, marks, marked, crashes, errs⟩ :=
    Tells.run options bound calls
  obtain ⟨-, -, sent⟩ :=
    @SessionSummary.perform_ends _ hub reached (.endSession ended) stillBound
      rfl
  obtain ⟨sameId, status⟩ := SessionSummary.marks_status fine marks
  have told : SessionSummary.summary marks = verdict calls := by
    rw [SessionSummary.summary, verdict, crashes]
    cases crashed : calls.any AppCall.crashes with
    | true => rfl
    | false => rw [errs crashed]
  have left : (reached.hubs hub).session = some
      (marks.foldl (fun session call => call.mark session) session) := by
    rw [marked, active]
    rfl
  change sessionEnds
    (SessionSummary.perform hub reached (.endSession ended)).sent = _
  rw [sent, silent, left]
  dsimp only
  rw [sameId, id, SessionSummary.finalStatus_of_worst status, told]
  rfl

end

/-- A warning that the layer makes an event, and an error that it logs. -/
def warnedAndFailed : List AppCall :=
  let event (level : Tracing.TLevel) : TracingEvent :=
    { metadata := { name := "event", target := "app", level }
      fields := [], eventId := 1, now := "" }
  [.tracing { eventFilter := fun _ => .event } (event .warn),
    .tracing { eventFilter := fun _ => .log } (event .error),
    .captureError (.caused "Outer(Inner)" "outer" (.root "Inner" "inner")) [] 2]

theorem end_reports_verdict_failed :
    let _ := asciiTables
    let _ := asciiAlphanumeric
    let opened := SessionSummary.manualWorld.startSession World.main "first" 5
    let reached :=
      warnedAndFailed.foldl (perform (fun _ => {}) World.main) opened
    sends World.main reached = true ∧
      verdict (warnedAndFailed.take 2) = .exited ∧
      sessionEnds (reached.endSession World.main 9).sent =
        sessionEnds opened.sent ++
          if sends World.main reached then
            [(some "first", some (verdict warnedAndFailed).asStr)]
          else [] := by
  intro _ _ opened reached
  refine ⟨by decide, by decide, ?_⟩
  exact end_reports_verdict (fun _ => {}) World.main SessionSummary.manualWorld
    "first" 5 9 (by decide) warnedAndFailed

end PublicApi

end Allstak
