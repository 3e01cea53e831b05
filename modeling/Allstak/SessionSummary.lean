import Allstak.SessionPairing

/-!
# The status of a session's end

Between its start and its end a session only gets worse: an error-level event
makes it errored, a panic makes it crashed, and neither is taken back.  The end
carries what became of it, once, under the id of the start.
-/

namespace Allstak

namespace SessionSummary

/-- The calls on one hub that start no session.  The client stays bound, though
not always the same one; a panic is a mark and a capture. -/
inductive HubCall where
  | bindClient (client : ClientId)
  | configureScope (configure : Scope → Scope)
  | pushScope (scopeFn : Scope → Scope)
  | popScope
  | addBreadcrumb (turn : Nat) (breadcrumb : Breadcrumb)
  | captureEvent (event : ErrorEvent)
  | markSessionCrashed
  | endSession (now : Nat)
  | endSessionWithStatus (status : SessionStatus) (now : Nat)

namespace HubCall

def ends : HubCall → Bool
  | .endSession _ => true
  | .endSessionWithStatus _ _ => true
  | _ => false

/-- The status the call asks for. -/
def asks : HubCall → Option SessionStatus
  | .endSessionWithStatus status _ => some status
  | _ => none

def crashes : HubCall → Bool
  | .markSessionCrashed => true
  | _ => false

def errs : HubCall → Bool
  | .captureEvent event => event.isErrorLevel
  | _ => false

/-- What the call does to an open session, if it does not end it. -/
def mark (call : HubCall) (session : Session) : Session :=
  if call.crashes then session.markCrashed
  else if call.errs then session.markErrored
  else session

end HubCall

/-- What became of a session in which these calls were made. -/
def worst (calls : List HubCall) : SessionStatus :=
  if calls.any HubCall.crashes then .crashed
  else if calls.any HubCall.errs then .errored
  else .ok

/-- The status `end_session` reports after these calls. -/
def summary (calls : List HubCall) : SessionStatus :=
  if calls.any HubCall.crashes then .crashed
  else if calls.any HubCall.errs then .errored
  else .exited

/-- The id and the status of a session end. -/
def sessionEnd (envelope : Envelope) : Option (Option String × Option String) :=
  if envelope.path = "/ingest/v1/sessions/end" then
    some ((envelope.body.get "sessionId").bind Value.asString?,
      (envelope.body.get "status").bind Value.asString?)
  else none

def sessionEnds (sent : List (ClientId × Envelope)) :
    List (Option String × Option String) :=
  sent.filterMap fun entry => sessionEnd entry.2

/-- A client is bound and sends. -/
def sends (hub : HubId) (world : World) : Bool :=
  ((world.hubs hub).client.map fun client =>
    (world.clients client).client.isEnabled).getD false

theorem sessionEnds_ingest (world : World) (client : ClientId)
    (capture : Client → Counters → Counters × List Envelope) :
    sessionEnds (world.ingest client capture).sent = sessionEnds world.sent ++
      (capture (world.clients client).client
        (world.clients client).counters).2.filterMap sessionEnd := by
  rw [World.ingest_sent, sessionEnds, List.filterMap_append, List.filterMap_map]
  rfl

/-- A call that ends no session marks the one that is open, sends no end, and
leaves a client bound. -/
structure Marks (hub : HubId) (call : HubCall) (before after : World) : Prop where
  bound : ((after.hubs hub).client).isSome
  session : (after.hubs hub).session = (before.hubs hub).session.map call.mark
  silent : sessionEnds after.sent = sessionEnds before.sent

/-- A section of the hub, after which it has a client and the marked session. -/
theorem Marks.of_section {hub : HubId} {call : HubCall} {world : World}
    {change : Hub → Hub}
    (bound : ((change (world.hubs hub)).client).isSome)
    (session : (change (world.hubs hub)).session =
      (world.hubs hub).session.map call.mark) :
    Marks hub call world (world.onHub hub change) := by
  refine ⟨?_, ?_, rfl⟩
  · rw [World.onHub_hubs_self]
    exact bound
  · rw [World.onHub_hubs_self]
    exact session

theorem addBreadcrumb_marks {hub : HubId} {world : World} (turn : Nat)
    (breadcrumb : Breadcrumb) (bound : ((world.hubs hub).client).isSome) :
    Marks hub (.addBreadcrumb turn breadcrumb) world
      (world.addBreadcrumb hub turn breadcrumb) := by
  have hubs := world.processBreadcrumb_hubs hub turn breadcrumb
  have sent : (world.processBreadcrumb hub turn breadcrumb).2.sent =
      world.sent := by
    rw [World.processBreadcrumb]
    split <;> rfl
  rw [World.addBreadcrumb]
  dsimp only
  split
  · refine ⟨?_, ?_, congrArg sessionEnds sent⟩
    · rw [hubs]
      exact bound
    · rw [hubs]
      exact (Option.map_id' ..).symm
  · refine ⟨?_, ?_, congrArg sessionEnds sent⟩
    · rw [World.onHub_hubs_self, hubs]
      exact bound
    · rw [World.onHub_hubs_self, hubs]
      exact (Option.map_id' ..).symm

theorem markErrored_status (session : Session) :
    session.markErrored.status =
      if session.status = .ok then .errored else session.status := by
  rw [Session.markErrored]
  split <;> rfl

/-- Marks keep the id, and the worst one stays. -/
theorem marks_status {session : Session} (fresh : session.status = .ok)
    (calls : List HubCall) :
    let after := calls.foldl (fun session call => call.mark session) session
    after.sessionId = session.sessionId ∧ after.status = worst calls := by
  induction calls using List.reverseRecOn with
  | nil => exact ⟨rfl, fresh⟩
  | append_singleton before call induction =>
      obtain ⟨id, status⟩ := induction
      rw [List.foldl_append, List.foldl_cons, List.foldl_nil, HubCall.mark]
      cases crashes : call.crashes with
      | true => exact ⟨id, by simp [worst, crashes, Session.markCrashed]⟩
      | false =>
          rw [if_neg (by simp)]
          cases errs : call.errs with
          | false =>
              refine ⟨id, ?_⟩
              simp only [status, worst, List.any_append, List.any_cons, crashes,
                errs, List.any_nil, Bool.or_false, Bool.false_eq_true, if_false]
          | true =>
              refine ⟨(Session.markErrored_sessionId _).trans id, ?_⟩
              rw [if_pos rfl, markErrored_status, status]
              simp only [worst, List.any_append, List.any_cons, crashes, errs,
                List.any_nil, Bool.or_false, Bool.or_true, if_true]
              by_cases crashed : before.any HubCall.crashes = true
              · simp [crashed]
              · by_cases erred : before.any HubCall.errs = true
                · simp [crashed, erred]
                · simp [crashed, erred]

theorem finalStatus_of_worst {session : Session} {calls : List HubCall}
    (status : session.status = worst calls) :
    session.finalStatus = summary calls := by
  rw [Session.finalStatus, status, worst, summary]
  by_cases crashed : calls.any HubCall.crashes = true
  · simp [crashed]
  · by_cases erred : calls.any HubCall.errs = true
    · simp [crashed, erred]
    · simp [crashed, erred]

section

variable [UnicodeTables]

def perform (hub : HubId) (world : World) : HubCall → World
  | .bindClient client => world.onHub hub (Hub.bindClient (some client))
  | .configureScope configure => world.onHub hub (Hub.configureScope configure)
  | .pushScope scopeFn => world.onHub hub (Hub.pushScope scopeFn)
  | .popScope => world.onHub hub Hub.popScope
  | .addBreadcrumb turn breadcrumb => world.addBreadcrumb hub turn breadcrumb
  | .captureEvent event => world.captureEvent hub event
  | .markSessionCrashed => world.onHub hub Hub.markSessionCrashed
  | .endSession now => world.endSession hub now
  | .endSessionWithStatus status now => world.endSessionWithStatus hub status now

theorem get_status_delivered (client : Client) {payload : Value}
    {status : SessionStatus}
    (written : payload.get "status" = some (.string status.asStr)) :
    (if client.options.sendDefaultPii then payload else scrubValue payload).get
      "status" = some (.string status.asStr) := by
  have plain : isSensitiveKey "status" = false := by decide
  have scrubbed : isIdentityKey "status" = false := by decide
  have harmless : looksSensitive status.asStr = false := by
    rw [looksSensitive_of_ascii (by cases status <;> decide)]
    cases status <;> decide
  split
  · exact written
  · rw [get_scrubValue, written]
    simp [scrubEntry, plain, scrubbed, scrubValue, harmless]

theorem sendSessionEnd_ends {client : Client} (session : Session)
    (status : Option SessionStatus) (now : Nat) (counters : Counters) :
    (client.sendSessionEnd (session.toEnd status now) counters).2.filterMap
        sessionEnd =
      if client.isEnabled then
        [(some session.sessionId,
          some (status.getD session.finalStatus).asStr)]
      else [] := by
  cases enabled : client.isEnabled with
  | false => simp [Client.sendSessionEnd, Client.capturePayload, Client.deliver, enabled]
  | true =>
      have id := SessionPairing.get_sessionId_delivered client
        (session.toEnd status now).get_sessionId
      have final := get_status_delivered client (session.toEnd status now).get_status
      simp [Client.sendSessionEnd, Client.capturePayload,
        SessionPairing.deliver_of_enabled _ _ _ _ enabled, sessionEnd, id, final,
        Value.asString?]
      rfl

theorem captureEvent_ends {client : Client} (event : ErrorEvent)
    (scope : Scope) (counters : Counters) :
    (client.captureEvent event scope counters).2.filterMap sessionEnd = [] := by
  apply List.filterMap_eq_nil_iff.mpr
  intro envelope handed
  simp [sessionEnd, SessionPairing.captureEvent_paths handed]

theorem captureEvent_marks {hub : HubId} {world : World} (event : ErrorEvent)
    (bound : ((world.hubs hub).client).isSome) :
    Marks hub (.captureEvent event) world (world.captureEvent hub event) := by
  obtain ⟨client, binds⟩ := Option.isSome_iff_exists.mp bound
  rw [World.captureEvent, binds]
  dsimp only
  have silent : sessionEnds ((world.captureWith hub client event
      (world.hubs hub).scopes.top).captured hub event).sent =
        sessionEnds world.sent := by
    rw [World.captured_sent, World.captureWith, sessionEnds_ingest,
      captureEvent_ends, List.append_nil]
  by_cases errs : event.isErrorLevel = true
  · have marked : ((world.captureWith hub client event
        (world.hubs hub).scopes.top).captured hub event).hubs =
          (world.onHub hub Hub.markSessionErrored).hubs := by
      rw [World.captured, if_pos errs]
      rfl
    refine ⟨?_, ?_, silent⟩
    · rw [marked, World.onHub_hubs_self]
      exact bound
    · have mark : (HubCall.captureEvent event).mark = Session.markErrored := by
        funext session
        simp [HubCall.mark, HubCall.crashes, HubCall.errs, errs]
      rw [marked, World.onHub_hubs_self, mark]
      rfl
  · have kept : ((world.captureWith hub client event
        (world.hubs hub).scopes.top).captured hub event).hubs = world.hubs := by
      rw [World.captured, if_neg errs]
      rfl
    refine ⟨?_, ?_, silent⟩
    · rw [kept]
      exact bound
    · have mark : (HubCall.captureEvent event).mark = fun session => session := by
        funext session
        simp [HubCall.mark, HubCall.crashes, HubCall.errs, errs]
      rw [kept, mark]
      exact (Option.map_id' ..).symm

theorem perform_marks {hub : HubId} {world : World} {call : HubCall}
    (bound : ((world.hubs hub).client).isSome) (goes : call.ends = false) :
    Marks hub call world (perform hub world call) := by
  cases call with
  | bindClient client => exact .of_section rfl (Option.map_id' ..).symm
  | configureScope | pushScope | popScope =>
      exact .of_section bound (Option.map_id' ..).symm
  | addBreadcrumb turn breadcrumb =>
      exact addBreadcrumb_marks turn breadcrumb bound
  | captureEvent event => exact captureEvent_marks event bound
  | markSessionCrashed => exact .of_section bound rfl
  | endSession | endSessionWithStatus => cases goes

/-- A call that ends the session sends its end, if the client sends at all. -/
theorem perform_ends {hub : HubId} {world : World} {call : HubCall}
    (bound : ((world.hubs hub).client).isSome) (ends : call.ends = true) :
    (((perform hub world call).hubs hub).client).isSome ∧
      ((perform hub world call).hubs hub).session = none ∧
      sessionEnds (perform hub world call).sent = sessionEnds world.sent ++
        match (world.hubs hub).session with
        | none => []
        | some session =>
            if sends hub world then
              [(some session.sessionId,
                some (call.asks.getD session.finalStatus).asStr)]
            else [] := by
  have internal (status : Option SessionStatus) (now : Nat) :
      let after := world.endSessionWithStatusInternal hub status now
      ((after.hubs hub).client).isSome ∧ (after.hubs hub).session = none ∧
        sessionEnds after.sent = sessionEnds world.sent ++
          match (world.hubs hub).session with
          | none => []
          | some session =>
              if sends hub world then
                [(some session.sessionId,
                  some (status.getD session.finalStatus).asStr)]
              else [] := by
    obtain ⟨client, binds⟩ := Option.isSome_iff_exists.mp bound
    rw [World.endSessionWithStatusInternal, binds]
    cases active : (world.hubs hub).session with
    | none =>
        dsimp only
        rw [World.onHub_hubs_self, List.append_nil]
        exact ⟨bound, rfl, rfl⟩
    | some session =>
        dsimp only
        rw [World.ingest_hubs, World.onHub_hubs_self, sessionEnds_ingest,
          sendSessionEnd_ends, sends, binds]
        exact ⟨rfl, rfl, rfl⟩
  cases call with
  | endSession now => exact internal none now
  | endSessionWithStatus status now => exact internal (some status) now
  | _ => cases ends

/-- Calls that end no session. -/
theorem run_marks {hub : HubId} {world : World} {calls : List HubCall}
    (bound : ((world.hubs hub).client).isSome)
    (go : ∀ call ∈ calls, call.ends = false) :
    let after := calls.foldl (perform hub) world
    ((after.hubs hub).client).isSome ∧
      (after.hubs hub).session = (world.hubs hub).session.map
        (fun session => calls.foldl (fun session call => call.mark session) session) ∧
      sessionEnds after.sent = sessionEnds world.sent := by
  induction calls generalizing world with
  | nil => exact ⟨bound, (Option.map_id' ..).symm, rfl⟩
  | cons call calls induction =>
      have marks := perform_marks bound (go call List.mem_cons_self)
      obtain ⟨bound, session, silent⟩ := induction marks.bound
        fun later member => go later (List.mem_cons_of_mem _ member)
      refine ⟨bound, ?_, silent.trans marks.silent⟩
      rw [List.foldl_cons, session, marks.session, Option.map_map]
      rfl

/-- Without a session to end, no call sends an end. -/
theorem run_silent {hub : HubId} {world : World} (calls : List HubCall)
    (bound : ((world.hubs hub).client).isSome)
    (closed : (world.hubs hub).session = none) :
    sessionEnds (calls.foldl (perform hub) world).sent = sessionEnds world.sent := by
  induction calls generalizing world with
  | nil => rfl
  | cons call calls induction =>
      cases ends : call.ends with
      | false =>
          have marks := perform_marks bound ends
          have inactive := marks.session
          rw [closed, Option.map_none] at inactive
          exact (induction marks.bound inactive).trans marks.silent
      | true =>
          obtain ⟨still, inactive, sent⟩ := perform_ends bound ends
          rw [closed, List.append_nil] at sent
          exact (induction still inactive).trans sent

/-- A start that opens a session. -/
theorem startSession_opens {hub : HubId} {world : World} {newTraceId : String}
    {now : Nat} (opens : SessionPairing.sendsStart hub world = true) :
    let after := world.startSession hub newTraceId now
    ((after.hubs hub).client).isSome ∧
      ∃ session, (after.hubs hub).session = some session ∧
        session.sessionId = newTraceId ∧ session.status = .ok := by
  unfold SessionPairing.sendsStart at opens
  rw [World.startSession]
  cases binds : (world.hubs hub).client with
  | none =>
      rw [binds] at opens
      cases opens
  | some client =>
      rw [binds, Option.bind_some] at opens
      obtain ⟨release, released⟩ := Option.isSome_iff_exists.mp opens
      simp only [Session.start, released, Option.map_some]
      rw [World.onHub_hubs_self]
      refine ⟨?_, _, rfl, rfl, rfl⟩
      rw [World.ingest_hubs, binds]
      rfl

/-- After a start that opened a session, calls that do not end it send no end;
the first call that does sends one, if the client sends at all, with the id of
the start and the status asked for, or else the worst that happened; and no
call after it sends another. -/
theorem end_summarises (hub : HubId) (world : World) (newTraceId : String)
    (now : Nat) (opens : SessionPairing.sendsStart hub world = true)
    (before : List HubCall) (go : ∀ call ∈ before, call.ends = false) :
    let started := world.startSession hub newTraceId now
    let reached := before.foldl (perform hub) started
    sessionEnds reached.sent = sessionEnds started.sent ∧
      ∀ (finish : HubCall) (after : List HubCall), finish.ends = true →
        sessionEnds ((finish :: after).foldl (perform hub) reached).sent =
          sessionEnds started.sent ++
            if sends hub reached then
              [(some newTraceId,
                some (finish.asks.getD (summary before)).asStr)]
            else [] := by
  intro started reached
  obtain ⟨bound, session, active, id, fresh⟩ := startSession_opens opens
  obtain ⟨stillBound, marked, silent⟩ := run_marks bound go
  refine ⟨silent, ?_⟩
  intro finish after ends
  obtain ⟨boundAfter, closed, sent⟩ := perform_ends stillBound ends
  obtain ⟨sameId, status⟩ := marks_status fresh before
  rw [List.foldl_cons, run_silent after boundAfter closed, sent, silent, marked,
    active]
  simp only [Option.map_some]
  rw [sameId, id, finalStatus_of_worst status]

end

/-- A process with a client and a release, and no automatic session. -/
def manualWorld : World :=
  (@World.init asciiTables (fun _ => none)
    { SessionPairing.releasedOptions with autoSessionTracking := false } id
    "unused" 0 .initial).2

def failure : ErrorEvent := { eventId := 0, exceptionClass := "E", message := "m" }

theorem end_summarises_panic :
    let started := @World.startSession asciiTables World.main "first" 5 manualWorld
    let reached := [HubCall.captureEvent failure, .markSessionCrashed].foldl
      (@perform asciiTables World.main) started
    sends World.main reached = true ∧
      sessionEnds ([HubCall.endSession 9, .endSession 10].foldl
          (@perform asciiTables World.main) reached).sent =
        sessionEnds started.sent ++
          if sends World.main reached then
            [(some "first", some (((HubCall.endSession 9).asks).getD
              (summary [.captureEvent failure, .markSessionCrashed])).asStr)]
          else [] := by
  let _ := asciiTables
  refine ⟨by decide, ?_⟩
  have summarises := end_summarises World.main manualWorld "first" 5
    (by decide) [.captureEvent failure, .markSessionCrashed] (by simp [HubCall.ends])
  exact summarises.2 (.endSession 9) [.endSession 10] rfl

end SessionSummary

end Allstak
