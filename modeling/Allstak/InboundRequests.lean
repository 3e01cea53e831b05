import Allstak.Handing
import Allstak.Library.Journal
import Allstak.Library.Machine
import Allstak.SpanForest

/-!
# Inbound requests under way

A process serves any number of requests at the same time, behind the axum layer
or the actix transform.  Each is answered, fails, or is given up: its future is
dropped while it waits, and the span in it with it.  Between the answer, the end
of the span and the record anything else may happen.
-/

namespace Allstak

namespace InboundRequests

open Handing

/-- What a request arrives at. -/
inductive Front where
  | axum (layer : AllstakLayer)
  | actix (transform : Transform)

structure Visit where
  front : Front
  arrival : Arrival
  pending : Pending

structure State where
  world : World
  journal : Library.Journal Visit (Chapter Answer) (ClientId × Envelope)

/-- A step of a request, on a thread with the given `CURRENT_HUB`.  Handlers are
elsewhere. -/
inductive VisitStep where
  | arrive (front : Front) (slot : Option HubId) (arrival : Arrival)
  | turn (index : Nat) (slot : Option HubId) (turn : Turn Answer)
  | elsewhere (activity : Elsewhere)

namespace Front

def call : Front → HubId → Arrival → World → Pending × World
  | axum layer => layer.call
  | actix _ => Transform.call

/-- Whether the session of the request's hub is marked for the answer. -/
def marks (front : Front) (pending : Pending) (answer : Answer) : Bool :=
  500 ≤ answer.statusCode &&
    match front with
    | axum _ => pending.span.isSome
    | actix transform => transform.captureServerErrors

/-- What comes right after the answer. -/
def mark (front : Front) (pending : Pending) (answer : Answer) (world : World) :
    World :=
  if front.marks pending answer then
    world.onHub pending.hub Hub.markSessionCrashed
  else world

end Front

/-- The span as the answer closes it. -/
def closed (answer : Answer) (span : Span) : Span :=
  if 500 ≤ answer.statusCode then span.setStatus "internal_error"
  else span.setStatus "ok"

/-- The hub a turn is about: the one of the request, unless it is given up. -/
def Visit.hub (current : HubId) (turn : Turn Answer) (visit : Visit) : HubId :=
  match turn with
  | .giveUp _ => current
  | _ => visit.pending.hub

/-- The actix transform opens no span. -/
def Visit.Spanned (visit : Visit) : Prop :=
  ∀ transform, visit.front = .actix transform → visit.pending.span = none

private theorem mark_sent (front : Front) (pending : Pending) (answer : Answer)
    (world : World) : (front.mark pending answer world).sent = world.sent := by
  unfold Front.mark
  split <;> rfl

private theorem mark_nextHub (front : Front) (pending : Pending)
    (answer : Answer) (world : World) :
    (front.mark pending answer world).nextHub = world.nextHub := by
  unfold Front.mark
  split <;> rfl

private theorem configureRequest_sent (world : World) (pending : Pending) :
    (world.configureRequest pending).sent = world.sent := by
  have configured : ∀ (world : World) (hub : HubId) {α : Type}
      (value : Option α) (configure : α → Scope → Scope),
      (world.configureWith hub value configure).sent = world.sent := by
    intro world hub α value configure
    cases value <;> rfl
  simp only [World.configureRequest, configured]

/-- An arriving request sends nothing and takes the next hub. -/
theorem call_sent (front : Front) (current : HubId) (arrival : Arrival)
    (world : World) :
    (front.call current arrival world).2.sent = world.sent := by
  cases front with
  | axum layer => exact configureRequest_sent _ _
  | actix transform => exact configureRequest_sent _ _

theorem call_hub (front : Front) (current : HubId) (arrival : Arrival)
    (world : World) :
    (front.call current arrival world).1.hub = world.nextHub := by
  cases front <;> rfl

theorem call_nextHub (front : Front) (current : HubId) (arrival : Arrival)
    (world : World) :
    (front.call current arrival world).2.nextHub = world.nextHub + 1 := by
  cases front with
  | axum layer => exact AllstakLayer.call_nextHub layer current arrival world
  | actix transform =>
      simp only [Front.call, Transform.call, World.configureRequest]
      rw [World.configureWith_nextHub, World.configureWith_nextHub,
        World.configureWith_nextHub]
      rfl

/-- The record has the trace id that came with the request.  The span has the
parent that came with it and, when there was a trace, is in it. -/
structure Visit.Continues (visit : Visit) : Prop where
  record : visit.pending.traceId =
    (Propagation.extract visit.arrival.request.header).traceId
  parent : ∀ span, visit.pending.span = some span → span.parentSpanId =
    (Propagation.extract visit.arrival.request.header).parentSpanId
  trace : ∀ span, visit.pending.span = some span → ∀ traceId,
    visit.pending.traceId = some traceId → span.traceId = traceId

/-- A visit begins with a call. -/
def Visit.Called (visit : Visit) : Prop :=
  ∃ current world,
    visit.pending = (visit.front.call current visit.arrival world).1

private theorem Visit.Called.spanned {visit : Visit} (called : visit.Called) :
    visit.Spanned := by
  intro transform front
  obtain ⟨current, world, same⟩ := called
  rw [same, front]
  rfl

theorem Visit.Called.continues {visit : Visit} (called : visit.Called) :
    visit.Continues := by
  obtain ⟨current, world, same⟩ := called
  cases front : visit.front with
  | actix transform =>
      have spanless : visit.pending.span = none := by
        rw [same, front]
        rfl
      constructor
      · rw [same, front]
        rfl
      · simp [spanless]
      · simp [spanless]
  | axum layer =>
      rw [front] at same
      have opened : visit.pending.span =
          (layer.pending world.nextHub visit.arrival).span := by
        rw [same]
        rfl
      constructor
      · rw [same]
        rfl
      · intro span present
        rw [opened] at present
        simp only [AllstakLayer.pending,
          Option.ite_none_right_eq_some] at present
        rw [← Option.some.inj present.2]
        rfl
      · intro span present traceId traced
        rw [opened] at present
        simp only [AllstakLayer.pending,
          Option.ite_none_right_eq_some] at present
        rw [same] at traced
        change (Propagation.extract visit.arrival.request.header).traceId =
          some traceId at traced
        rw [← Option.some.inj present.2]
        simp [Span.continued, traced]

section

variable [UnicodeTables]

/-- The span of the request ends on its hub, marked with the answer. -/
def finish (pending : Pending) (answer : Answer) (moment : Moment)
    (world : World) : World :=
  match pending.span with
  | none => world
  | some span => world.finishSpan pending.hub (closed answer span) moment

namespace Front

def complete : Front → Pending → Answer → Moment → World → World
  | axum _ => AllstakLayer.complete
  | actix transform => transform.complete

end Front

/-- Without anything in between, the three turns after the answer are what the
middleware does then. -/
theorem complete_eq {visit : Visit} (spanned : visit.Spanned) (answer : Answer)
    (moment : Moment) (world : World) :
    visit.front.complete visit.pending answer moment world =
      (finish visit.pending answer moment
          (visit.front.mark visit.pending answer world)).recordRequest
        visit.pending answer moment := by
  obtain ⟨front, arrival, pending⟩ := visit
  cases front with
  | axum layer =>
      unfold Front.complete AllstakLayer.complete finish closed Front.mark
        Front.marks
      cases present : pending.span with
      | none => simp [present]
      | some span =>
          by_cases failed : 500 ≤ answer.statusCode
          · simp [present, failed]
          · simp [present, failed]
  | actix transform =>
      have spanless : pending.span = none := spanned transform rfl
      unfold Front.complete Transform.complete finish Front.mark Front.marks
      simp [spanless, and_comm]

/-- What the process does in a turn. -/
def Visit.perform (hub : HubId) (visit : Visit) (world : World) :
    Chapter Answer → World
  | .givenUp _ moment => dropSpan hub moment visit.pending.span world
  | .answered answer _ => visit.front.mark visit.pending answer world
  | .closed answer _ moment => finish visit.pending answer moment world
  | .recorded answer answered _ moment =>
      world.recordRequest visit.pending answer (stamped answered moment)

def step (state : State) : VisitStep → Option State
  | .arrive front slot arrival =>
      let (pending, world) :=
        front.call (World.current slot) arrival state.world
      some
        { world
          journal := state.journal.openJob { front, arrival, pending } }
  | .turn index slot turn =>
      let hub := Visit.hub (World.current slot) turn
      let next (visit : Visit) := turn.next (clientOf state.world (hub visit))
      (state.journal.tell? index next).map fun told =>
        { world := told.1.perform (hub told.1) state.world told.2.1
          journal := told.2.2 }
  | .elsewhere activity =>
      some
        { world := activity.change state.world
          journal := state.journal.note (activity.sends state.world) }

/-- A process that sent nothing yet. -/
def machine : Library.Machine State VisitStep where
  start state := ∃ world : World, world.sent = [] ∧
    state = { world, journal := .empty }
  next := step

/-- The closed span and the record go to the client of the request's hub.  When
the request was given up, the span goes out as it was opened, to the client of
the hub current then. -/
def Visit.sends (visit : Visit) : Chapter Answer → List (ClientId × Envelope)
  | .givenUp bound moment =>
      visit.pending.span.elim [] fun span => spanHanded bound span moment
  | .answered _ _ => []
  | .closed answer bound moment =>
      visit.pending.span.elim [] fun span =>
        spanHanded bound (closed answer span) moment
  | .recorded answer answered bound moment =>
      recordHanded bound
        (visit.pending.record answer (stamped answered moment))

theorem sent_finish (pending : Pending) (answer : Answer) (moment : Moment)
    (world : World) :
    (finish pending answer moment world).sent =
      world.sent ++ pending.span.elim [] fun span =>
        spanHanded (clientOf world pending.hub) (closed answer span)
          moment := by
  unfold finish
  cases pending.span with
  | none => exact (List.append_nil _).symm
  | some span => exact sent_finishSpan world pending.hub _ moment

/-- A turn sends what its chapter says. -/
theorem sent_perform {visit : Visit} {current : HubId} {turn : Turn Answer}
    {world : World} {before : List (Chapter Answer)} {chapter : Chapter Answer}
    (comes : turn.next (clientOf world (visit.hub current turn)) before =
      some chapter) :
    (visit.perform (visit.hub current turn) world chapter).sent =
      world.sent ++ visit.sends chapter := by
  unfold Turn.next at comes
  split at comes
  · cases comes
    exact sent_dropSpan world current _ _
  · cases comes
    rw [Visit.sends, List.append_nil]
    exact mark_sent visit.front visit.pending _ world
  · cases comes
    exact sent_finish visit.pending _ _ world
  · cases comes
    exact sent_recordRequest world visit.pending _ _
  · cases comes

theorem perform_nextHub (hub : HubId) (visit : Visit) (world : World)
    (chapter : Chapter Answer) :
    (visit.perform hub world chapter).nextHub = world.nextHub := by
  cases chapter with
  | givenUp bound moment =>
      exact dropSpan_nextHub world hub moment visit.pending.span
  | answered answer moment =>
      exact mark_nextHub visit.front visit.pending answer world
  | closed answer bound moment =>
      unfold Visit.perform finish
      cases visit.pending.span with
      | none => rfl
      | some span => exact World.finishSpan_nextHub world _ _ moment
  | recorded answer answered bound moment =>
      exact World.recordRequest_nextHub world visit.pending answer _

/-- What every step keeps. -/
structure Kept (state : State) : Prop where
  sent : state.world.sent = state.journal.output Visit.sends
  told : ∀ index, Told (state.journal.chapters index)
  called : ∀ visit ∈ state.journal.opened, visit.Called
  apart : (state.journal.opened.map fun visit => visit.pending.hub).Nodup
  known : ∀ visit ∈ state.journal.opened,
    visit.pending.hub < state.world.nextHub

theorem Kept.arrives {state : State} (kept : Kept state) (front : Front)
    (current : HubId) (arrival : Arrival) :
    let visit : Visit :=
      { front, arrival, pending := (front.call current arrival state.world).1 }
    Kept
      { world := (front.call current arrival state.world).2
        journal := state.journal.openJob visit } := by
  intro visit
  have taken : visit.pending.hub = state.world.nextHub :=
    call_hub front current arrival state.world
  have members : ∀ other ∈ (state.journal.openJob visit).opened,
      other ∈ state.journal.opened ∨ other = visit := by
    intro other member
    rw [Library.Journal.opened_openJob] at member
    simpa using member
  constructor
  · rw [Library.Journal.output_openJob, call_sent]
    exact kept.sent
  · intro index
    rw [Library.Journal.chapters_openJob]
    exact kept.told index
  · intro other member
    rcases members other member with old | rfl
    · exact kept.called other old
    · exact ⟨current, state.world, rfl⟩
  · rw [Library.Journal.opened_openJob, List.map_append]
    apply List.nodup_append.mpr
    refine ⟨kept.apart, by simp, ?_⟩
    intro hub member last isLast same
    obtain ⟨other, old, rfl⟩ := List.mem_map.mp member
    have below := kept.known other old
    simp only [List.map_cons, List.map_nil, List.mem_singleton] at isLast
    rw [isLast, taken] at same
    exact absurd same (Nat.ne_of_lt below)
  · intro other member
    rw [call_nextHub]
    rcases members other member with old | rfl
    · exact Nat.lt_succ_of_lt (kept.known other old)
    · rw [taken]
      exact Nat.lt_succ_self _

/-- A turn adds its chapter and takes no hub. -/
theorem Kept.turns {state : State} (kept : Kept state) {index : Nat}
    {visit : Visit} {before : List (Chapter Answer)} {current : HubId}
    {turn : Turn Answer} {chapter : Chapter Answer}
    (found : state.journal.jobs[index]? = some (visit, before))
    (comes :
      turn.next (clientOf state.world (visit.hub current turn)) before =
        some chapter) :
    Kept
      { world := visit.perform (visit.hub current turn) state.world chapter
        journal := state.journal.tell found chapter } := by
  constructor
  · rw [Library.Journal.output_tell, ← kept.sent]
    exact sent_perform comes
  · exact Library.Journal.forall_chapters_tell found kept.told
      fun told => told.next comes
  · rw [Library.Journal.opened_tell]
    exact kept.called
  · rw [Library.Journal.opened_tell]
    exact kept.apart
  · rw [Library.Journal.opened_tell, perform_nextHub]
    exact kept.known

theorem kept_of_step {state after : State} {visitStep : VisitStep}
    (kept : Kept state) (moved : step state visitStep = some after) :
    Kept after := by
  cases visitStep with
  | arrive front slot arrival =>
      cases moved
      exact kept.arrives front (World.current slot) arrival
  | turn index slot turn =>
      obtain ⟨⟨visit, chapter, journal⟩, told, rfl⟩ :=
        Option.map_eq_some_iff.mp moved
      obtain ⟨before, found, comes, rfl⟩ := Library.Journal.tell?_eq_some told
      exact kept.turns found comes
  | elsewhere activity =>
      cases moved
      constructor
      · rw [Library.Journal.output_note, activity.appends, kept.sent]
      · exact kept.told
      · exact kept.called
      · exact kept.apart
      · intro visit member
        exact Nat.lt_of_lt_of_le (kept.known visit member)
          (activity.hubs state.world)

theorem kept_of_reachable {state : State} (reached : machine.Reachable state) :
    Kept state := by
  apply reached.induct
  · rintro state ⟨world, unsent, rfl⟩
    exact ⟨unsent, fun _ => .waiting, by simp, List.nodup_nil, by simp⟩
  · exact fun before label after kept _ moved => kept_of_step kept moved

/-- In every run, what the process sends is, line by line, what was sent
elsewhere and what each request sent in its chapters, each told once and in
order: the span, as opened, of one that was given up, and of one that was
answered the closed span, when it has one, and then the record, for the one
answer.  Every request has a hub of its own, and its span and record continue
the trace that came with it. -/
theorem requests_accounted {state : State} (reached : machine.Reachable state) :
    state.world.sent = state.journal.output Visit.sends ∧
      (∀ index, state.journal.numbers index =
        List.range (state.journal.chapters index).length) ∧
      (∀ index, Told (state.journal.chapters index)) ∧
      (state.journal.opened.map fun visit => visit.pending.hub).Nodup ∧
      ∀ visit ∈ state.journal.opened, visit.Continues := by
  have kept := kept_of_reachable reached
  refine ⟨kept.sent, state.journal.told, kept.told, kept.apart, ?_⟩
  exact fun visit member => (kept.called visit member).continues

end

/-- Three requests at once: one is answered behind the actix transform, one is
given up, and one fails with the other two in between. -/
def threeVisits : List VisitStep :=
  let moment : Moment := { instant := 0, millis := 0, iso8601 := "" }
  let arrival (spanId : String) : Arrival :=
    { request :=
        { method := "GET"
          headers := fun _ => none
          rawPath := "/"
          matchedPath := none
          connectionHost := "here" }
      newTraceId := "33333333333333333333333333333333"
      newSpanId := spanId
      arrived := moment
      completed := moment }
  [.arrive (.axum .new) none (arrival "4444444444444444"),
    .arrive (.axum .new) none (arrival "5555555555555555"),
    .arrive (.actix .new) none (arrival "6666666666666666"),
    .turn 1 none (.answer .error moment),
    .turn 1 none (.close moment),
    .turn 2 none (.answer (.response 200) moment),
    .turn 2 none (.close moment),
    .turn 2 none (.record moment),
    .turn 0 none (.giveUp moment),
    .turn 1 none (.record moment)]

theorem requests_accounted_dropped :
    ∃ state : State,
      state.world.sent.map (fun sent => sent.2.path) =
        ["/ingest/v1/spans", "/ingest/v1/http-requests", "/ingest/v1/spans",
          "/ingest/v1/http-requests"] ∧
      state.world.sent =
        state.journal.output (@Visit.sends asciiTables) := by
  let _ := asciiTables
  have run : (machine.exec
      { world := SpanForest.boundWorld, journal := .empty } threeVisits).map
        (fun state => state.world.sent.map fun sent => sent.2.path) =
      some ["/ingest/v1/spans", "/ingest/v1/http-requests", "/ingest/v1/spans",
        "/ingest/v1/http-requests"] := by
    decide
  obtain ⟨state, executed, seen⟩ := Option.map_eq_some_iff.mp run
  have started : machine.start
      { world := SpanForest.boundWorld, journal := .empty } :=
    ⟨SpanForest.boundWorld, rfl, rfl⟩
  have reached := Library.Machine.reachable_of_exec started executed
  exact ⟨state, seen, (requests_accounted reached).1⟩

end InboundRequests

end Allstak
