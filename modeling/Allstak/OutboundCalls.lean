import Allstak.Handing
import Allstak.Library.Journal
import Allstak.Library.Machine
import Allstak.SpanForest
import Allstak.TraceChain

/-!
# Outbound requests under way

A process makes any number of outbound requests through the middleware, at the
same time and on any hubs.  Each is answered, fails, or is given up: its future
is dropped while it waits, and the span in it with it.  Between the end of the
span and the record anything else may happen.
-/

namespace Allstak

namespace AllstakHttpMiddleware

variable [UnicodeTables]

/-- `handle`, after the answer, up to the end of the span. -/
def finish (outgoing : Outgoing) (current : HubId) (outcome : Outcome)
    (moment : Moment) (world : World) : World :=
  match outgoing.span with
  | none => world
  | some span =>
      world.finishSpan current (closeSpan outgoing outcome span) moment

/-- `handle`, from the end of the span on. -/
def report (middleware : AllstakHttpMiddleware) (outgoing : Outgoing)
    (outcome : Outcome) (moment : Moment) (world : World) : World :=
  if middleware.recordRequest then
    match (world.hubs outgoing.hub).client with
    | none => world
    | some client =>
        world.ingest client fun client counters =>
          client.captureHttpRequest (record outgoing outcome moment) counters
  else world

theorem complete_eq (middleware : AllstakHttpMiddleware) (outgoing : Outgoing)
    (current : HubId) (outcome : Outcome) (moment : Moment) (world : World) :
    middleware.complete outgoing current outcome moment world =
      middleware.report outgoing outcome moment
        (finish outgoing current outcome moment world) := rfl

end AllstakHttpMiddleware

namespace OutboundCalls

open Handing

structure Call where
  middleware : AllstakHttpMiddleware
  outgoing : Outgoing

structure State where
  world : World
  journal : Library.Journal Call (Chapter Outcome) (ClientId × Envelope)

/-- A step of a request, on a thread with the given `CURRENT_HUB`. -/
inductive CallStep where
  | depart (middleware : AllstakHttpMiddleware) (slot : Option HubId)
      (departure : Departure)
  | turn (index : Nat) (slot : Option HubId) (turn : Turn Outcome)
  | elsewhere (activity : Elsewhere)

/-- The hub a turn is about: the one of the request for its record, and for its
span the current one. -/
def Call.hub (current : HubId) (turn : Turn Outcome) (call : Call) : HubId :=
  match turn with
  | .record _ => call.outgoing.hub
  | _ => current

/-- The span of a request is in its trace, and what the next service extracts
from the headers is that span. -/
theorem send_stamps {values : HeaderValues} (keeps : KeepsText values)
    {middleware : AllstakHttpMiddleware} {hub : HubId} {departure : Departure}
    {world : World} {span : Span}
    (opened : (middleware.send values hub departure world).span = some span) :
    let outgoing := middleware.send values hub departure world
    outgoing.context.traceId = some span.traceId ∧
      (middleware.injectHeaders = true →
        Propagation.IsWireId 32 span.traceId →
        Propagation.IsWireId 16 span.spanId →
        (TraceChain.found outgoing.request.headers).traceId =
            some span.traceId ∧
          (TraceChain.found outgoing.request.headers).parentSpanId =
            some span.spanId) := by
  intro outgoing
  have starts : middleware.startSpan = true := by
    cases starts : middleware.startSpan with
    | true => rfl
    | false => simp [AllstakHttpMiddleware.send, starts] at opened
  have traced : outgoing.context.traceId = some span.traceId := by
    simp only [AllstakHttpMiddleware.send, starts, if_true,
      Option.some.injEq] at opened
    subst opened
    simp only [outgoing, AllstakHttpMiddleware.send, Span.continued]
    cases (world.hubs hub).currentTraceContext.traceId <;> rfl
  refine ⟨traced, ?_⟩
  intro injects trace wireSpan
  have spanId : span.spanId = departure.newSpanId := by
    simp only [AllstakHttpMiddleware.send, starts, if_true,
      Option.some.injEq] at opened
    rw [← opened]
    rfl
  have asDefault : outgoing.request =
      (AllstakHttpMiddleware.default.send values hub departure
        world).request := by
    simp only [outgoing, AllstakHttpMiddleware.send, starts, injects, if_true]
    rfl
  obtain ⟨-, parent, -⟩ := AllstakHttpMiddleware.send_headers keeps traced trace
    (spanId ▸ wireSpan)
  rw [asDefault]
  rw [← spanId] at parent
  exact TraceChain.found_next trace wireSpan parent

section

variable [UnicodeTables]

/-- What the process does in a turn. -/
def Call.perform (hub : HubId) (call : Call) (world : World) :
    Chapter Outcome → World
  | .givenUp _ moment => dropSpan hub moment call.outgoing.span world
  | .answered _ _ => world
  | .closed outcome _ moment =>
      AllstakHttpMiddleware.finish call.outgoing hub outcome moment world
  | .recorded outcome answered _ moment =>
      call.middleware.report call.outgoing outcome (stamped answered moment)
        world

def step (values : HeaderValues) (state : State) : CallStep → Option State
  | .depart middleware slot departure =>
      some
        { state with
          journal := state.journal.openJob
            { middleware
              outgoing := middleware.send values (World.current slot) departure
                state.world } }
  | .turn index slot turn =>
      let hub := Call.hub (World.current slot) turn
      let next (call : Call) := turn.next (clientOf state.world (hub call))
      (state.journal.tell? index next).map fun told =>
        { world := told.1.perform (hub told.1) state.world told.2.1
          journal := told.2.2 }
  | .elsewhere activity =>
      some
        { world := activity.change state.world
          journal := state.journal.note (activity.sends state.world) }

/-- A process that sent nothing yet. -/
def machine (values : HeaderValues) : Library.Machine State CallStep where
  start state := ∃ world : World, world.sent = [] ∧
    state = { world, journal := .empty }
  next := step values

/-- The span goes to the client of the hub current when it ends, as it was
closed, or as it was opened when the request was given up.  The record goes to
the client of the request's hub. -/
def Call.sends (call : Call) : Chapter Outcome → List (ClientId × Envelope)
  | .givenUp bound moment =>
      call.outgoing.span.elim [] fun span => spanHanded bound span moment
  | .answered _ _ => []
  | .closed outcome bound moment =>
      call.outgoing.span.elim [] fun span =>
        spanHanded bound
          (AllstakHttpMiddleware.closeSpan call.outgoing outcome span) moment
  | .recorded outcome answered bound moment =>
      if call.middleware.recordRequest then
        recordHanded bound
          (AllstakHttpMiddleware.record call.outgoing outcome
            (stamped answered moment))
      else []

theorem sent_finish (outgoing : Outgoing) (current : HubId) (outcome : Outcome)
    (moment : Moment) (world : World) :
    (AllstakHttpMiddleware.finish outgoing current outcome moment world).sent =
      world.sent ++ outgoing.span.elim [] fun span =>
        spanHanded (clientOf world current)
          (AllstakHttpMiddleware.closeSpan outgoing outcome span) moment := by
  unfold AllstakHttpMiddleware.finish
  cases outgoing.span with
  | none => exact (List.append_nil _).symm
  | some span => exact sent_finishSpan world current _ moment

theorem sent_report (middleware : AllstakHttpMiddleware) (outgoing : Outgoing)
    (outcome : Outcome) (moment : Moment) (world : World) :
    (middleware.report outgoing outcome moment world).sent =
      world.sent ++
        if middleware.recordRequest then
          recordHanded (clientOf world outgoing.hub)
            (AllstakHttpMiddleware.record outgoing outcome moment)
        else [] := by
  unfold AllstakHttpMiddleware.report clientOf
  split
  · cases (world.hubs outgoing.hub).client with
    | none => exact (List.append_nil _).symm
    | some client => exact sent_capturePayload world client _ _ _
  · exact (List.append_nil _).symm

/-- A turn sends what its chapter says. -/
theorem sent_perform {call : Call} {current : HubId} {turn : Turn Outcome}
    {world : World} {before : List (Chapter Outcome)}
    {chapter : Chapter Outcome}
    (comes : turn.next (clientOf world (call.hub current turn)) before =
      some chapter) :
    (call.perform (call.hub current turn) world chapter).sent =
      world.sent ++ call.sends chapter := by
  unfold Turn.next at comes
  split at comes
  · cases comes
    exact sent_dropSpan world current _ _
  · cases comes
    exact (List.append_nil _).symm
  · cases comes
    exact sent_finish call.outgoing current _ _ world
  · cases comes
    exact sent_report call.middleware call.outgoing _ _ world
  · cases comes

/-- What every step keeps. -/
structure Kept (values : HeaderValues) (state : State) : Prop where
  sent : state.world.sent = state.journal.output Call.sends
  told : ∀ index, Told (state.journal.chapters index)
  departed : ∀ call ∈ state.journal.opened, ∃ hub departure world,
    call.outgoing = call.middleware.send values hub departure world

theorem kept_of_step {values : HeaderValues} {state after : State}
    {callStep : CallStep} (kept : Kept values state)
    (moved : step values state callStep = some after) : Kept values after := by
  cases callStep with
  | depart middleware slot departure =>
      cases moved
      constructor
      · rw [Library.Journal.output_openJob]
        exact kept.sent
      · intro index
        rw [Library.Journal.chapters_openJob]
        exact kept.told index
      · intro call member
        rw [Library.Journal.opened_openJob] at member
        rcases List.mem_append.mp member with old | new
        · exact kept.departed call old
        · rw [List.mem_singleton.mp new]
          exact ⟨World.current slot, departure, state.world, rfl⟩
  | turn index slot turn =>
      obtain ⟨⟨call, chapter, journal⟩, told, rfl⟩ :=
        Option.map_eq_some_iff.mp moved
      obtain ⟨before, found, comes, rfl⟩ :=
        Library.Journal.tell?_eq_some told
      constructor
      · rw [Library.Journal.output_tell, ← kept.sent]
        exact sent_perform comes
      · exact Library.Journal.forall_chapters_tell found kept.told
          fun told => told.next comes
      · rw [Library.Journal.opened_tell]
        exact kept.departed
  | elsewhere activity =>
      cases moved
      constructor
      · rw [Library.Journal.output_note, activity.appends, kept.sent]
      · exact kept.told
      · exact kept.departed

theorem kept_of_reachable {values : HeaderValues} {state : State}
    (reached : (machine values).Reachable state) : Kept values state := by
  apply reached.induct
  · rintro state ⟨world, unsent, rfl⟩
    exact ⟨unsent, fun _ => .waiting, by simp⟩
  · exact fun before label after kept _ moved => kept_of_step kept moved

/-- In every run, what the process sends is, line by line, what was sent
elsewhere and what each request sent in its chapters, each told once and in
order: the span, as opened, of one that was given up, and of one that was
answered the closed span and then the record, for the one answer.  The span is
in the trace of the record.  It is the parent the next service was told, and in
the trace that service was told, where headers are injected. -/
theorem calls_accounted {values : HeaderValues} (keeps : KeepsText values)
    {state : State} (reached : (machine values).Reachable state) :
    state.world.sent = state.journal.output Call.sends ∧
      (∀ index, state.journal.numbers index =
        List.range (state.journal.chapters index).length) ∧
      (∀ index, Told (state.journal.chapters index)) ∧
      ∀ call ∈ state.journal.opened, ∀ span, call.outgoing.span = some span →
        call.outgoing.context.traceId = some span.traceId ∧
          (call.middleware.injectHeaders = true →
            Propagation.IsWireId 32 span.traceId →
            Propagation.IsWireId 16 span.spanId →
            (TraceChain.found call.outgoing.request.headers).traceId =
                some span.traceId ∧
              (TraceChain.found call.outgoing.request.headers).parentSpanId =
                some span.spanId) := by
  have kept := kept_of_reachable reached
  refine ⟨kept.sent, state.journal.told, kept.told, ?_⟩
  intro call member span opened
  obtain ⟨hub, departure, world, sent⟩ := kept.departed call member
  rw [sent] at opened ⊢
  exact send_stamps keeps opened

end

/-- Two requests at once; the second is given up between the end of the first
one's span and its record. -/
def twoCalls : List CallStep :=
  let moment : Moment := { instant := 0, millis := 0, iso8601 := "" }
  let departure (spanId : String) : Departure :=
    { request :=
        { method := "GET", host := some "next", path := "/"
          headers := fun _ => none }
      newTraceId := "33333333333333333333333333333333"
      newSpanId := spanId
      fallback := { wireTraceId := "", traceId := "", spanId := "" }
      departed := moment }
  [.depart .default none (departure "4444444444444444"),
    .depart .default none (departure "5555555555555555"),
    .turn 0 none (.answer (.response 503) moment),
    .turn 0 none (.close moment),
    .turn 1 none (.giveUp moment),
    .turn 0 none (.record moment)]

theorem calls_accounted_cancelled :
    ∃ state : State,
      state.world.sent.map (fun sent => sent.2.path) =
        ["/ingest/v1/spans", "/ingest/v1/spans", "/ingest/v1/http-requests"] ∧
      state.world.sent =
        state.journal.output (@Call.sends asciiTables) := by
  let _ := asciiTables
  have run : ((machine TraceChain.headerValue).exec
      { world := SpanForest.boundWorld, journal := .empty } twoCalls).map
        (fun state => state.world.sent.map fun sent => sent.2.path) =
      some ["/ingest/v1/spans", "/ingest/v1/spans",
        "/ingest/v1/http-requests"] := by
    decide
  obtain ⟨state, executed, seen⟩ := Option.map_eq_some_iff.mp run
  have started : (machine TraceChain.headerValue).start
      { world := SpanForest.boundWorld, journal := .empty } :=
    ⟨SpanForest.boundWorld, rfl, rfl⟩
  have reached := Library.Machine.reachable_of_exec started executed
  exact ⟨state, seen,
    (calls_accounted TraceChain.headerValue_keepsText reached).1⟩

end OutboundCalls

end Allstak
