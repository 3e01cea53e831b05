import Allstak.Library.Machine
import Allstak.Library.Pool
import Allstak.Performance
import Allstak.SessionPairing

/-!
# The spans of a program

A program opens spans, changes them and finishes or drops them, on any threads
and in any order.  A span that is finished is moved and cannot be used again.
What else the process does meanwhile sends no spans.
-/

namespace Allstak

/-- The envelopes of spans, in the order they were sent. -/
def World.spansSent (world : World) : List (ClientId × Envelope) :=
  world.sent.filter fun sent => sent.2.path == "/ingest/v1/spans"

namespace SpanForest

/-- Anything the process does beside the spans of the program. -/
structure Elsewhere where
  change : World → World
  quiet : ∀ world, (change world).spansSent = world.spansSent

/-- What sends its envelopes elsewhere sends no spans. -/
theorem spansSent_ingest (world : World) (client : ClientId)
    (capture : Client → Counters → Counters × List Envelope)
    (others : ∀ client counters, ∀ envelope ∈ (capture client counters).2,
      envelope.path ≠ "/ingest/v1/spans") :
    (world.ingest client capture).spansSent = world.spansSent := by
  rw [World.spansSent, World.ingest_sent, List.filter_append]
  apply List.append_right_eq_self.mpr
  apply List.filter_eq_nil_iff.mpr
  intro sent member
  obtain ⟨envelope, handed, rfl⟩ := List.mem_map.mp member
  simpa using others _ _ envelope handed

/-- `Hub::capture_event`, by the program or by anything else. -/
def Elsewhere.captureEvent [UnicodeTables] (hub : HubId) (event : ErrorEvent) :
    Elsewhere where
  change := World.captureEvent hub event
  quiet world := by
    rw [World.captureEvent]
    split
    · rfl
    · rw [World.spansSent, World.captured_sent]
      apply spansSent_ingest
      intro client counters envelope handed
      rw [SessionPairing.captureEvent_paths handed]
      decide

/-- A call on the span with the given index, or one that opens a new span.  The
slot is the `CURRENT_HUB` of the calling thread. -/
inductive SpanCall where
  | transaction (operation name newTraceId newSpanId : String) (moment : Moment)
  | startChild (parent : Nat) (operation description newSpanId : String)
      (moment : Moment)
  | continued (operation name : String) (traceId parentSpanId : Option String)
      (newTraceId newSpanId : String) (moment : Moment)
  | setStatus (index : Nat) (status : String)
  | setTag (index : Nat) (key value : String)
  | setData (index : Nat) (data : Value)
  | finish (index : Nat) (slot : Option HubId) (moment : Moment)
  | drop (index : Nat) (slot : Option HubId) (moment : Moment)
  | elsewhere (activity : Elsewhere)

/-- What a call sets on the span with the index. -/
def SpanCall.setting (index : Nat) : SpanCall → Span → Span
  | .setStatus at_ status => if at_ = index then Span.setStatus status else id
  | .setTag at_ key value => if at_ = index then Span.setTag key value else id
  | .setData at_ data => if at_ = index then Span.setData data else id
  | _ => id

/-- What some calls make of a span with the index. -/
def settled (calls : List SpanCall) (index : Nat) (span : Span) : Span :=
  calls.foldl (fun span call => call.setting index span) span

/-- A span as it was opened, the one whose `start_child` opened it, and whether
its trace id was minted for it. -/
structure Birth where
  span : Span
  parent : Option Nat
  mintsTrace : Bool

/-- The end of a span: what it was then, and the client of the hub that was
current. -/
structure Closing where
  index : Nat
  span : Span
  moment : Moment
  client : Option (ClientId × Client)

/-- A moved span is `none`.  The calls, the births and the closings so far are
kept for the statements. -/
structure State where
  world : World
  handles : List (Option OpenSpan) := []
  calls : List SpanCall := []
  births : List Birth := []
  closings : List Closing := []

namespace State

def opened (state : State) (index : Nat) : Option OpenSpan :=
  state.handles[index]?.join

def called (call : SpanCall) (state : State) : State :=
  { state with calls := state.calls ++ [call] }

def create (state : State) (birth : Birth) : State :=
  { state with
    handles := state.handles ++ [some { span := birth.span }]
    births := state.births ++ [birth] }

def put (index : Nat) (opened : OpenSpan) (state : State) : State :=
  { state with handles := state.handles.set index (some opened) }

def update (index : Nat) (change : Span → Span) (state : State) :
    Option State :=
  (state.opened index).map fun opened =>
    state.put index { opened with span := change opened.span }

def clientOf (state : State) (hub : HubId) : Option (ClientId × Client) :=
  (state.world.hubs hub).client.map fun client =>
    (client, (state.world.clients client).client)

/-- The span is moved, and leaves the world behind. -/
def moveOut (closing : Closing) (world : World) (state : State) : State :=
  { state with
    world
    handles := state.handles.set closing.index none
    closings := state.closings ++ [closing] }

/-- `consume` takes the span out of the program's hands. -/
def close (index : Nat) (hub : HubId) (moment : Moment)
    (consume : HubId → Moment → OpenSpan → World → World) (state : State) :
    Option State :=
  (state.opened index).map fun opened =>
    state.moveOut
      { index, span := opened.span, moment, client := state.clientOf hub }
      (consume hub moment opened state.world)

end State

section

variable [UnicodeTables]

/-- The span a call opens. -/
def born (state : State) : SpanCall → Option Birth
  | .transaction operation name newTraceId newSpanId moment =>
      some
        { span := .transaction operation name newTraceId newSpanId moment
          parent := none
          mintsTrace := true }
  | .startChild parent operation description newSpanId moment =>
      (state.opened parent).map fun opened =>
        { span := opened.span.startChild operation description newSpanId moment
          parent := some parent
          mintsTrace := false }
  | .continued operation name traceId parentSpanId newTraceId newSpanId at_ =>
      some
        { span := .continued operation name traceId parentSpanId newTraceId
            newSpanId at_
          parent := none
          mintsTrace := traceId.isNone }
  | _ => none

def perform (state : State) : SpanCall → Option State
  | .setStatus index status => state.update index (Span.setStatus status)
  | .setTag index key value => state.update index (Span.setTag key value)
  | .setData index data => state.update index (Span.setData data)
  | .finish index slot moment =>
      state.close index (World.current slot) moment OpenSpan.finish
  | .drop index slot moment =>
      state.close index (World.current slot) moment OpenSpan.drop
  | .elsewhere activity =>
      some { state with world := activity.change state.world }
  | opening => (born state opening).map state.create

def step (state : State) (call : SpanCall) : Option State :=
  perform (state.called call) call

/-- A process none of whose spans were opened yet. -/
def machine : Library.Machine State SpanCall where
  start state := ∃ world : World, world.spansSent = [] ∧ state = { world }
  next := step

end

/-- The kinds of calls.  A setting leaves a span its ids, and what is moved out
is dropped once. -/
inductive Move [UnicodeTables] (before : State) (call : SpanCall) : State → Prop
  | created (birth : Birth)
      (settings : ∀ index, call.setting index = id)
      (bears : born before call = some birth) :
      Move before call ((before.called call).create birth)
  | changed (index : Nat) (opened : OpenSpan) (change : Span → Span)
      (found : before.opened index = some opened)
      (settings : ∀ other,
        call.setting other = if index = other then change else id) :
      Move before call ((before.called call).put index
        { opened with span := change opened.span })
  | closed (closing : Closing) (hub : HubId) (opened : OpenSpan)
      (settings : ∀ index, call.setting index = id)
      (found : before.opened closing.index = some opened)
      (span : closing.span = opened.span)
      (client : closing.client = before.clientOf hub) :
      Move before call ((before.called call).moveOut closing
        (opened.drop hub closing.moment before.world))
  | elsewhere (activity : Elsewhere)
      (settings : ∀ index, call.setting index = id) :
      Move before call { before.called call with
        world := activity.change before.world }

private theorem opened_iff {state : State} {index : Nat} {opened : OpenSpan} :
    state.opened index = some opened ↔
      state.handles[index]? = some (some opened) :=
  Option.join_eq_some_iff

private theorem opened_lt {state : State} {index : Nat} {opened : OpenSpan}
    (found : state.opened index = some opened) : index < state.handles.length :=
  (List.getElem?_eq_some_iff.mp (opened_iff.mp found)).1

private theorem settled_concat (calls : List SpanCall) (call : SpanCall)
    (index : Nat) (span : Span) :
    settled (calls ++ [call]) index span =
      call.setting index (settled calls index span) := by
  simp [settled]

private theorem settled_quiet (calls : List SpanCall) {call : SpanCall}
    {index : Nat} (quiet : call.setting index = id) (span : Span) :
    settled (calls ++ [call]) index span = settled calls index span := by
  rw [settled_concat, quiet, id]

theorem settled_ids (calls : List SpanCall) (index : Nat) (span : Span) :
    (settled calls index span).traceId = span.traceId ∧
      (settled calls index span).spanId = span.spanId ∧
      (settled calls index span).parentSpanId = span.parentSpanId := by
  induction calls generalizing span with
  | nil => exact ⟨rfl, rfl, rfl⟩
  | cons call calls induction =>
      have one : (call.setting index span).traceId = span.traceId ∧
          (call.setting index span).spanId = span.spanId ∧
          (call.setting index span).parentSpanId = span.parentSpanId := by
        cases call with
        | setStatus | setTag | setData =>
            rw [SpanCall.setting]
            split <;> exact ⟨rfl, rfl, rfl⟩
        | transaction | startChild | continued | finish | drop | elsewhere =>
            exact ⟨rfl, rfl, rfl⟩
      obtain ⟨traceId, spanId, parentSpanId⟩ :=
        induction (call.setting index span)
      exact ⟨traceId.trans one.1, spanId.trans one.2.1,
        parentSpanId.trans one.2.2⟩

section

variable [UnicodeTables]

private theorem move_of_born {before after : State} {call : SpanCall}
    (settings : ∀ index, call.setting index = id)
    (moved : (born before call).map (before.called call).create = some after) :
    Move before call after := by
  obtain ⟨birth, bears, rfl⟩ := Option.map_eq_some_iff.mp moved
  exact .created birth settings bears

theorem move_of_step {before after : State} {call : SpanCall}
    (moved : step before call = some after) : Move before call after := by
  cases call with
  | transaction | continued | startChild =>
      exact move_of_born (fun _ => rfl) moved
  | setStatus index | setTag index | setData index =>
      obtain ⟨opened, found, rfl⟩ := Option.map_eq_some_iff.mp moved
      exact .changed index opened _ found fun _ => rfl
  | finish index slot moment =>
      obtain ⟨opened, found, rfl⟩ := Option.map_eq_some_iff.mp moved
      rw [OpenSpan.finish_eq_drop]
      exact .closed _ (World.current slot) opened (fun _ => rfl) found rfl rfl
  | drop index slot moment =>
      obtain ⟨opened, found, rfl⟩ := Option.map_eq_some_iff.mp moved
      exact .closed _ (World.current slot) opened (fun _ => rfl) found rfl rfl
  | elsewhere activity =>
      cases moved
      exact .elsewhere activity fun _ => rfl

/-- What a closing hands to the transport. -/
def Closing.sends (closing : Closing) : List (ClientId × Envelope) :=
  match closing.client with
  | none => []
  | some (id, client) =>
      if client.isEnabled then
        let payload := batch "spans"
          [(closing.span.toRecord client.options closing.moment).toValue]
        [(id,
          { path := "/ingest/v1/spans"
            category := .transaction
            body :=
              if client.options.sendDefaultPii then payload
              else scrubValue payload })]
      else []

theorem spansSent_drop (world : World) (hub : HubId) {opened : OpenSpan}
    (unsent : opened.finished = false) (closing : Closing)
    (span : closing.span = opened.span)
    (client : closing.client = (world.hubs hub).client.map fun client =>
      (client, (world.clients client).client)) :
    (opened.drop hub closing.moment world).spansSent =
      world.spansSent ++ closing.sends := by
  rw [OpenSpan.drop_unfinished _ _ _ unsent, World.finishSpan, Closing.sends,
    client, ← span]
  cases (world.hubs hub).client with
  | none => simp
  | some bound =>
      rw [World.spansSent, World.ingest_sent, List.filter_append]
      apply congrArg (world.spansSent ++ ·)
      change List.filter _ (List.map _ (Client.deliver _ _ _ _ _).2) = _
      rw [Client.deliver]
      split
      · rename_i enabled
        simp [enabled]
      · rename_i disabled
        simp [disabled]

/-- What is kept by every call. -/
structure Kept (state : State) : Prop where
  sizes : state.births.length = state.handles.length
  untouched : ∀ index, state.handles.length ≤ index →
    ∀ span, settled state.calls index span = span
  live : ∀ index opened, state.opened index = some opened →
    opened.finished = false ∧
      ∃ birth, state.births[index]? = some birth ∧
        opened.span = settled state.calls index birth.span
  closed : ∀ closing ∈ state.closings,
    state.handles[closing.index]? = some none ∧
      ∃ birth, state.births[closing.index]? = some birth ∧
        closing.span = settled state.calls closing.index birth.span
  moved : ∀ index, state.handles[index]? = some none →
    index ∈ state.closings.map Closing.index
  once : (state.closings.map Closing.index).Nodup
  sent : state.world.spansSent = state.closings.flatMap Closing.sends

theorem Kept.created {before : State} {call : SpanCall} (kept : Kept before)
    (birth : Birth) (settings : ∀ index, call.setting index = id) :
    Kept ((before.called call).create birth) := by
  have quiet (index : Nat) (span : Span) :=
    settled_quiet before.calls (settings index) span
  have stays {index : Nat} {old : Birth}
      (found : before.births[index]? = some old) :
      (before.births ++ [birth])[index]? = some old := by
    rw [List.getElem?_append_left (List.getElem?_eq_some_iff.mp found).1, found]
  constructor
  · simp [State.create, State.called, kept.sizes]
  · intro index outside span
    simp only [State.create, State.called, List.length_append] at outside ⊢
    rw [quiet]
    exact kept.untouched index (by omega) span
  · intro index opened found
    rw [opened_iff] at found
    rcases Library.Pool.getElem?_concat_cases found with old | ⟨rfl, same⟩
    · obtain ⟨unsent, origin, at_, span⟩ :=
        kept.live index opened (opened_iff.mpr old)
      refine ⟨unsent, origin, stays at_, ?_⟩
      rw [span]
      exact (quiet index origin.span).symm
    · cases same
      refine ⟨rfl, birth, ?_, ?_⟩
      · change (before.births ++ [birth])[before.handles.length]? = _
        rw [← kept.sizes, List.getElem?_concat_length]
      · change birth.span = settled (before.calls ++ [call])
          before.handles.length birth.span
        rw [quiet, kept.untouched _ (Nat.le_refl _)]
  · intro closing member
    obtain ⟨gone, origin, at_, span⟩ := kept.closed closing member
    refine ⟨?_, origin, stays at_, ?_⟩
    · change (before.handles ++ _)[closing.index]? = _
      rw [List.getElem?_append_left (List.getElem?_eq_some_iff.mp gone).1, gone]
    · rw [span]
      exact (quiet closing.index origin.span).symm
  · intro index gone
    rcases Library.Pool.getElem?_concat_cases gone with old | ⟨-, same⟩
    · exact kept.moved index old
    · cases same
  · exact kept.once
  · exact kept.sent

theorem Kept.changed {before : State} {call : SpanCall} (kept : Kept before)
    {index : Nat} {opened : OpenSpan} {change : Span → Span}
    (found : before.opened index = some opened)
    (settings : ∀ other,
      call.setting other = if index = other then change else id) :
    Kept ((before.called call).put index
      { opened with span := change opened.span }) := by
  have inside := opened_lt found
  have quiet {other : Nat} (apart : other ≠ index) (span : Span) :
      settled (before.calls ++ [call]) other span =
        settled before.calls other span := by
    apply settled_quiet
    rw [settings, if_neg (Ne.symm apart)]
  constructor
  · simp [State.put, State.called, kept.sizes]
  · intro other outside span
    simp only [State.put, State.called, List.length_set] at outside ⊢
    rw [quiet (by omega)]
    exact kept.untouched other outside span
  · intro other now located
    rw [opened_iff] at located
    rcases Library.Pool.getElem?_set_cases inside located with
      ⟨rfl, same⟩ | ⟨apart, old⟩
    · cases same
      obtain ⟨unsent, origin, at_, span⟩ := kept.live _ opened found
      refine ⟨unsent, origin, at_, ?_⟩
      change change opened.span = settled (before.calls ++ [call]) _ _
      rw [settled_concat, settings, if_pos rfl, span]
    · obtain ⟨unsent, origin, at_, span⟩ :=
        kept.live other now (opened_iff.mpr old)
      refine ⟨unsent, origin, at_, ?_⟩
      rw [span]
      exact (quiet apart origin.span).symm
  · intro closing member
    obtain ⟨gone, origin, at_, span⟩ := kept.closed closing member
    have apart : closing.index ≠ index := by
      intro same
      rw [same, opened_iff.mp found] at gone
      cases gone
    refine ⟨?_, origin, at_, ?_⟩
    · change (before.handles.set index _)[closing.index]? = _
      rw [List.getElem?_set_ne (Ne.symm apart), gone]
    · rw [span]
      exact (quiet apart origin.span).symm
  · intro other gone
    rcases Library.Pool.getElem?_set_cases inside gone with ⟨-, same⟩ | ⟨-, old⟩
    · cases same
    · exact kept.moved other old
  · exact kept.once
  · exact kept.sent

theorem Kept.closing {before : State} {call : SpanCall} (kept : Kept before)
    {closing : Closing} {hub : HubId} {opened : OpenSpan}
    (settings : ∀ index, call.setting index = id)
    (found : before.opened closing.index = some opened)
    (span : closing.span = opened.span)
    (client : closing.client = before.clientOf hub) :
    Kept ((before.called call).moveOut closing
      (opened.drop hub closing.moment before.world)) := by
  have inside := opened_lt found
  have quiet (index : Nat) (span : Span) :=
    settled_quiet before.calls (settings index) span
  have new : closing.index ∉ before.closings.map Closing.index := by
    intro member
    obtain ⟨other, earlier, same⟩ := List.mem_map.mp member
    have gone := (kept.closed other earlier).1
    rw [same, opened_iff.mp found] at gone
    cases gone
  obtain ⟨unsent, origin, at_, settledSpan⟩ := kept.live _ opened found
  constructor
  · simp [State.moveOut, State.called, kept.sizes]
  · intro other outside span
    simp only [State.moveOut, State.called, List.length_set] at outside ⊢
    rw [quiet]
    exact kept.untouched other outside span
  · intro other now located
    rw [opened_iff] at located
    rcases Library.Pool.getElem?_set_cases inside located with
      ⟨-, same⟩ | ⟨-, old⟩
    · cases same
    · obtain ⟨unsent, origin, at_, span⟩ :=
        kept.live other now (opened_iff.mpr old)
      refine ⟨unsent, origin, at_, ?_⟩
      rw [span]
      exact (quiet other origin.span).symm
  · intro other member
    rcases List.mem_append.mp member with earlier | last
    · obtain ⟨gone, origin, at_, span⟩ := kept.closed other earlier
      refine ⟨?_, origin, at_, ?_⟩
      · change (before.handles.set closing.index none)[other.index]? = _
        by_cases same : closing.index = other.index
        · rw [same, List.getElem?_set_self (same ▸ inside)]
        · rw [List.getElem?_set_ne same, gone]
      · rw [span]
        exact (quiet other.index origin.span).symm
    · rw [List.mem_singleton.mp last]
      refine ⟨?_, origin, at_, ?_⟩
      · exact List.getElem?_set_self inside
      · rw [span, settledSpan]
        exact (quiet closing.index origin.span).symm
  · intro other gone
    change other ∈ (before.closings ++ [closing]).map Closing.index
    rw [List.map_append, List.mem_append]
    rcases Library.Pool.getElem?_set_cases inside gone with
      ⟨rfl, -⟩ | ⟨-, old⟩
    · exact .inr (List.mem_singleton.mpr rfl)
    · exact .inl (kept.moved other old)
  · change ((before.closings ++ [closing]).map Closing.index).Nodup
    rw [List.map_append]
    refine List.nodup_append.mpr ⟨kept.once, List.nodup_singleton _, ?_⟩
    intro index earlier other last same
    rw [List.mem_singleton.mp last] at same
    exact new (same ▸ earlier)
  · change (opened.drop hub closing.moment before.world).spansSent =
      (before.closings ++ [closing]).flatMap Closing.sends
    rw [spansSent_drop before.world hub unsent closing span client, kept.sent]
    simp

theorem Kept.elsewhere {before : State} {call : SpanCall} (kept : Kept before)
    (activity : Elsewhere) (settings : ∀ index, call.setting index = id) :
    Kept { before.called call with world := activity.change before.world } := by
  have quiet (index : Nat) (span : Span) :=
    settled_quiet before.calls (settings index) span
  constructor
  · exact kept.sizes
  · intro index outside span
    exact (quiet index span).trans (kept.untouched index outside span)
  · intro index opened found
    obtain ⟨unsent, origin, at_, span⟩ := kept.live index opened found
    exact ⟨unsent, origin, at_, span.trans (quiet index origin.span).symm⟩
  · intro closing member
    obtain ⟨gone, origin, at_, span⟩ := kept.closed closing member
    exact ⟨gone, origin, at_, span.trans (quiet closing.index origin.span).symm⟩
  · exact kept.moved
  · exact kept.once
  · exact (activity.quiet before.world).trans kept.sent

theorem Move.kept {before after : State} {call : SpanCall}
    (move : Move before call after) (kept : Kept before) : Kept after := by
  cases move with
  | created birth settings => exact kept.created birth settings
  | changed index opened change found settings =>
      exact kept.changed found settings
  | closed closing hub opened settings found span client =>
      exact kept.closing settings found span client
  | elsewhere activity settings => exact kept.elsewhere activity settings

theorem kept_start {state : State} (started : machine.start state) :
    Kept state := by
  obtain ⟨world, unsent, rfl⟩ := started
  constructor
  · rfl
  · intro _ _ _
    rfl
  · intro _ _ found
    simp [State.opened] at found
  · intro _ member
    cases member
  · intro _ gone
    simp at gone
  · exact List.nodup_nil
  · exact unsent

theorem kept_reached {state : State} (reached : machine.Reachable state) :
    Kept state :=
  reached.induct (fun _ => kept_start)
    fun _ _ _ kept _ moved => (move_of_step moved).kept kept

/-- In every run a span is closed at most once, and it is closed when it is
moved.  What is sent of spans is one envelope for each closing with a live
client, in the order of the closings, of the span with what the program set on
it. -/
theorem spans_sent_once {state : State} (reached : machine.Reachable state) :
    (state.closings.map Closing.index).Nodup ∧
      (∀ index, index ∈ state.closings.map Closing.index ↔
        state.handles[index]? = some none) ∧
      (∀ closing ∈ state.closings,
        ∃ birth, state.births[closing.index]? = some birth ∧
          closing.span = settled state.calls closing.index birth.span) ∧
      state.world.spansSent = state.closings.flatMap Closing.sends := by
  have kept := kept_reached reached
  refine ⟨kept.once, fun index => ⟨?_, kept.moved index⟩, ?_, kept.sent⟩
  · intro member
    obtain ⟨closing, closed, rfl⟩ := List.mem_map.mp member
    exact (kept.closed closing closed).1
  · intro closing closed
    exact (kept.closed closing closed).2

def boundWorld : World :=
  (World.initial.newClient { apiKey := "key" }).2.onHub World.main
    (Hub.bindClient (some 0))

private theorem boundWorld_starts : machine.start { world := boundWorld } :=
  ⟨boundWorld, rfl, rfl⟩

/-- A request with a query below it, and a request of another trace. -/
def nestedCalls : List SpanCall :=
  let moment : Moment := { instant := 0, millis := 0, iso8601 := "" }
  [.transaction "http" "GET /" "trace" "root" moment,
    .startChild 0 "db" "select" "child" moment,
    .continued "http" "GET /x" (some "inbound") (some "caller") "" "other"
      moment,
    .setTag 1 "table" "users",
    .finish 1 none moment,
    .elsewhere (.captureEvent World.main
      { eventId := 1, exceptionClass := "Timeout", message := "slow query" }),
    .drop 2 none moment,
    .finish 0 none moment]

end

theorem spans_sent_once_nested :
    ∃ state : State, state.closings.map Closing.index = [1, 2, 0] ∧
      state.world.spansSent.length = 3 ∧
      (state.closings.map Closing.index).Nodup ∧
      (∀ index, index ∈ state.closings.map Closing.index ↔
        state.handles[index]? = some none) ∧
      (∀ closing ∈ state.closings,
        ∃ birth, state.births[closing.index]? = some birth ∧
          closing.span = settled state.calls closing.index birth.span) ∧
      state.world.spansSent =
        state.closings.flatMap (@Closing.sends asciiTables) := by
  let _ := asciiTables
  have run : (machine.exec { world := boundWorld } nestedCalls).map
      (fun state =>
        (state.closings.map Closing.index, state.world.spansSent.length)) =
      some ([1, 2, 0], 3) := by
    decide
  obtain ⟨state, executed, seen⟩ := Option.map_eq_some_iff.mp run
  simp only [Prod.mk.injEq] at seen
  have reached :=
    Library.Machine.reachable_of_exec boundWorld_starts executed
  exact ⟨state, seen.1, seen.2, spans_sent_once reached⟩

namespace State

def spanIds (state : State) : List String :=
  state.births.map fun birth => birth.span.spanId

/-- The span ids that came from elsewhere. -/
def foreignParents (state : State) : List String :=
  state.births.filterMap fun birth =>
    if birth.parent.isNone then birth.span.parentSpanId else none

def traceIds (state : State) : List String :=
  state.births.map fun birth => birth.span.traceId

def mintedTraceIds (state : State) : List String :=
  (state.births.filter Birth.mintsTrace).map fun birth => birth.span.traceId

/-- The span whose `start_child` opened the one with the index. -/
def opener (state : State) (index : Nat) : Option Nat :=
  state.births[index]?.bind Birth.parent

/-- Where the openers lead in so many steps. -/
def origin (state : State) : Nat → Nat → Nat
  | 0, index => index
  | steps + 1, index =>
      match state.opener index with
      | none => index
      | some parent => state.origin steps parent

/-- A span is opened after its opener, so its index bounds the way. -/
def root (state : State) (index : Nat) : Nat := state.origin index index

end State

/-- Ids that are minted were not seen before, and ids from elsewhere were not
minted here. -/
structure Birth.Fresh (state : State) (birth : Birth) : Prop where
  span : birth.span.spanId ∉ state.spanIds ++ state.foreignParents
  foreign : birth.parent = none → ∀ id ∈ birth.span.parentSpanId,
    id ∉ birth.span.spanId :: state.spanIds
  trace : birth.parent = none →
    birth.span.traceId ∉
      if birth.mintsTrace then state.traceIds else state.mintedTraceIds

instance (state : State) (birth : Birth) : Decidable (birth.Fresh state) :=
  decidable_of_iff
    (birth.span.spanId ∉ state.spanIds ++ state.foreignParents ∧
      (birth.parent = none → ∀ id ∈ birth.span.parentSpanId,
        id ∉ birth.span.spanId :: state.spanIds) ∧
      (birth.parent = none →
        birth.span.traceId ∉
          if birth.mintsTrace then state.traceIds else state.mintedTraceIds))
    ⟨fun all => ⟨all.1, all.2.1, all.2.2⟩,
      fun fresh => ⟨fresh.span, fresh.foreign, fresh.trace⟩⟩

/-- What a call opens has fresh ids. -/
def Fresh (state : State) (call : SpanCall) : Prop :=
  ∀ birth ∈ born state call, birth.Fresh state

instance (state : State) (call : SpanCall) : Decidable (Fresh state call) :=
  inferInstanceAs (Decidable (∀ birth ∈ born state call, birth.Fresh state))

/-- The births form a forest whose edges the ids tell. -/
structure Rooted (births : List Birth) : Prop where
  ids : (births.map fun birth => birth.span.spanId).Nodup
  edge : ∀ (index : Nat) (birth : Birth) (parent : Nat),
    births[index]? = some birth →
    birth.parent = some parent →
      parent < index ∧ ∃ origin, births[parent]? = some origin ∧
        birth.span.traceId = origin.span.traceId ∧
        birth.span.parentSpanId = some origin.span.spanId
  foreign : ∀ birth ∈ births, birth.parent = none →
    ∀ id, birth.span.parentSpanId = some id →
      ∀ other ∈ births, other.span.spanId ≠ id
  apart : ∀ (index other : Nat) (birth second : Birth),
    births[index]? = some birth →
    births[other]? = some second → index ≠ other → birth.parent = none →
      second.parent = none → birth.mintsTrace = true →
        birth.span.traceId ≠ second.span.traceId

theorem born_parent {state : State} {call : SpanCall} {birth : Birth}
    {parent : Nat} (bears : born state call = some birth)
    (child : birth.parent = some parent) :
    birth.mintsTrace = false ∧ ∃ opened, state.opened parent = some opened ∧
      birth.span.traceId = opened.span.traceId ∧
        birth.span.parentSpanId = some opened.span.spanId := by
  cases call with
  | transaction | continued =>
      cases bears
      cases child
  | startChild =>
      obtain ⟨opened, found, rfl⟩ := Option.map_eq_some_iff.mp bears
      cases child
      exact ⟨rfl, opened, found, rfl, rfl⟩
  | setStatus | setTag | setData | finish | drop | elsewhere => cases bears

theorem Rooted.index_eq {births : List Birth} (rooted : Rooted births)
    {index other : Nat} {first second : Birth}
    (found : births[index]? = some first)
    (foundOther : births[other]? = some second)
    (same : first.span.spanId = second.span.spanId) : index = other := by
  have inside : index < (births.map fun birth => birth.span.spanId).length := by
    rw [List.length_map]
    exact (List.getElem?_eq_some_iff.mp found).1
  apply (List.getElem?_inj inside rooted.ids).mp
  rw [List.getElem?_map, List.getElem?_map, found, foundOther, Option.map_some,
    Option.map_some, same]

private theorem opener_eq_some {state : State} {index parent : Nat} :
    state.opener index = some parent ↔
      ∃ birth, state.births[index]? = some birth ∧ birth.parent = some parent :=
  Option.bind_eq_some_iff

/-- The way from a span ends at a root of its trace. -/
theorem origin_spec {state : State} (rooted : Rooted state.births) (steps : Nat)
    {index : Nat} {birth : Birth} (found : state.births[index]? = some birth)
    (enough : index ≤ steps) :
    ∃ root, state.births[state.origin steps index]? = some root ∧
      root.parent = none ∧ birth.span.traceId = root.span.traceId := by
  induction steps generalizing index birth with
  | zero =>
      refine ⟨birth, found, ?_, rfl⟩
      cases opener : birth.parent with
      | none => rfl
      | some parent =>
          have earlier := (rooted.edge index birth parent found opener).1
          omega
  | succ steps induction =>
      rw [State.origin]
      have opener : state.opener index = birth.parent := by
        rw [State.opener, found, Option.bind_some]
      rw [opener]
      cases child : birth.parent with
      | none => exact ⟨birth, found, child, rfl⟩
      | some parent =>
          obtain ⟨earlier, origin, at_, traceId, -⟩ :=
            rooted.edge index birth parent found child
          obtain ⟨root, atRoot, top, same⟩ := induction at_ (by omega)
          exact ⟨root, atRoot, top, traceId.trans same⟩

section

variable [UnicodeTables]

theorem Rooted.created {before : State} {call : SpanCall} {birth : Birth}
    (kept : Kept before) (rooted : Rooted before.births)
    (bears : born before call = some birth) (fresh : birth.Fresh before) :
    Rooted (before.births ++ [birth]) := by
  have unseen : ∀ other ∈ before.births,
      other.span.spanId ≠ birth.span.spanId := by
    intro other member same
    apply fresh.span
    rw [← same]
    exact List.mem_append_left _ (List.mem_map_of_mem member)
  constructor
  · rw [List.map_append]
    refine List.nodup_append.mpr ⟨rooted.ids, List.nodup_singleton _, ?_⟩
    intro id earlier other last same
    obtain ⟨old, member, rfl⟩ := List.mem_map.mp earlier
    exact unseen old member (same.trans (List.mem_singleton.mp last))
  · intro index child parent found opener
    rcases Library.Pool.getElem?_concat_cases found with old | ⟨rfl, rfl⟩
    · obtain ⟨earlier, origin, at_, same⟩ :=
        rooted.edge index child parent old opener
      refine ⟨earlier, origin, ?_, same⟩
      rw [List.getElem?_append_left (List.getElem?_eq_some_iff.mp at_).1, at_]
    · obtain ⟨-, opened, live, traceId, parentSpanId⟩ :=
        born_parent bears opener
      obtain ⟨-, origin, at_, span⟩ := kept.live parent opened live
      have inside := (List.getElem?_eq_some_iff.mp at_).1
      obtain ⟨sameTrace, sameId, -⟩ :=
        settled_ids before.calls parent origin.span
      refine ⟨inside, origin, ?_, ?_, ?_⟩
      · rw [List.getElem?_append_left inside, at_]
      · rw [traceId, span, sameTrace]
      · rw [parentSpanId, span, sameId]
  · intro child member noParent id parentSpanId other otherMember same
    rcases List.mem_append.mp member with old | last
    · rcases List.mem_append.mp otherMember with oldOther | lastOther
      · exact rooted.foreign child old noParent id parentSpanId other oldOther
          same
      · rw [List.mem_singleton.mp lastOther] at same
        apply fresh.span
        rw [same]
        apply List.mem_append_right
        refine List.mem_filterMap.mpr ⟨child, old, ?_⟩
        simp [noParent, parentSpanId]
    · rw [List.mem_singleton.mp last] at noParent parentSpanId
      apply fresh.foreign noParent id parentSpanId
      rcases List.mem_append.mp otherMember with oldOther | lastOther
      · exact List.mem_cons_of_mem _ (same ▸ List.mem_map_of_mem oldOther)
      · rw [← same, List.mem_singleton.mp lastOther]
        exact List.mem_cons_self
  · intro index other first second found foundOther distinct noParent
      noParentOther mints same
    rcases Library.Pool.getElem?_concat_cases found with old | ⟨rfl, rfl⟩
    · rcases Library.Pool.getElem?_concat_cases foundOther with
        oldOther | ⟨rfl, rfl⟩
      · exact rooted.apart index other first second old oldOther distinct
          noParent noParentOther mints same
      · have trace := fresh.trace noParentOther
        apply trace
        have member := List.mem_of_getElem? old
        split
        · exact same ▸ List.mem_map_of_mem member
        · rw [← same]
          exact List.mem_map_of_mem (List.mem_filter.mpr ⟨member, mints⟩)
    · rcases Library.Pool.getElem?_concat_cases foundOther with
        oldOther | ⟨rfl, rfl⟩
      · have trace := fresh.trace noParent
        rw [mints, if_pos rfl] at trace
        exact trace (same ▸ List.mem_map_of_mem (List.mem_of_getElem? oldOther))
      · exact distinct rfl

private theorem Move.rooted {before after : State} {call : SpanCall}
    (move : Move before call after) (kept : Kept before)
      (fresh : Fresh before call)
    (rooted : Rooted before.births) : Rooted after.births := by
  cases move with
  | created birth _ bears =>
      change Rooted (before.births ++ [birth])
      exact rooted.created kept bears (fresh birth bears)
  | changed | closed | elsewhere => exact rooted

private theorem rooted_reached {state : State}
    (reached : machine.Reach Fresh state) :
    Rooted state.births := by
  refine reached.invariant (motive := fun state => Rooted state.births)
    (fun _ earlier => kept_reached earlier.reachable) ?_ ?_
  · intro state started
    obtain ⟨world, -, rfl⟩ := started
    constructor <;> simp
  · intro before call after kept rooted fresh moved
    exact (move_of_step moved).rooted kept fresh rooted

/-- The ids of the closed spans tell the calls of `start_child` that opened
them: as long as minted ids are new and ids from elsewhere were not minted here,
a span has another one's id as its parent's exactly when that one opened it.  All
spans below one root have its trace id, and no trace id minted for a root is met
below another root. -/
theorem ids_tell_forest {state : State} (reached : machine.Reach Fresh state) :
    (∀ child ∈ state.closings, ∀ parent ∈ state.closings,
      (child.span.parentSpanId = some parent.span.spanId ↔
        state.opener child.index = some parent.index)) ∧
      ∀ first ∈ state.closings, ∀ second ∈ state.closings,
        (state.root first.index = state.root second.index →
          first.span.traceId = second.span.traceId) ∧
        (state.root first.index ≠ state.root second.index →
          ∀ root, state.births[state.root first.index]? = some root →
            root.mintsTrace = true →
              first.span.traceId ≠ second.span.traceId) := by
  have rooted := rooted_reached reached
  have kept := kept_reached reached.reachable
  have birthOf : ∀ closing ∈ state.closings,
      ∃ birth, state.births[closing.index]? = some birth ∧
        closing.span.traceId = birth.span.traceId ∧
        closing.span.spanId = birth.span.spanId ∧
        closing.span.parentSpanId = birth.span.parentSpanId := by
    intro closing member
    obtain ⟨-, birth, found, span⟩ := kept.closed closing member
    have ids := settled_ids state.calls closing.index birth.span
    rw [← span] at ids
    exact ⟨birth, found, ids⟩
  constructor
  · intro child member parent parentMember
    obtain ⟨birth, found, -, -, parentId⟩ := birthOf child member
    obtain ⟨origin, at_, -, spanId, -⟩ := birthOf parent parentMember
    rw [parentId, spanId, opener_eq_some]
    constructor
    · intro linked
      refine ⟨birth, found, ?_⟩
      cases opener : birth.parent with
      | none =>
          exact (rooted.foreign birth (List.mem_of_getElem? found) opener _
            linked origin (List.mem_of_getElem? at_) rfl).elim
      | some other =>
          obtain ⟨-, opened, atOther, -, otherId⟩ :=
            rooted.edge child.index birth other found opener
          have sameId : opened.span.spanId = origin.span.spanId :=
            Option.some.inj (otherId.symm.trans linked)
          rw [rooted.index_eq atOther at_ sameId]
    · rintro ⟨other, atOther, opener⟩
      rw [found, Option.some.injEq] at atOther
      subst atOther
      obtain ⟨-, opened, located, -, linked⟩ :=
        rooted.edge child.index birth parent.index found opener
      rw [at_, Option.some.injEq] at located
      rw [linked, located]
  · intro first member second secondMember
    obtain ⟨birth, found, traceId, -⟩ := birthOf first member
    obtain ⟨other, foundOther, otherTrace, -⟩ := birthOf second secondMember
    obtain ⟨root, atRoot, top, same⟩ :=
      origin_spec rooted _ found (Nat.le_refl _)
    obtain ⟨otherRoot, atOther, otherTop, otherSame⟩ :=
      origin_spec rooted _ foundOther (Nat.le_refl _)
    rw [traceId, otherTrace, same, otherSame]
    constructor
    · intro together
      have located :
          state.births[state.root first.index]? = some otherRoot := by
        rw [together]
        exact atOther
      rw [State.root, atRoot, Option.some.injEq] at located
      rw [located]
    · intro distinct minted located mints
      rw [State.root, atRoot, Option.some.injEq] at located
      subst located
      exact rooted.apart _ _ root otherRoot atRoot atOther distinct top otherTop
        mints

end

theorem ids_tell_forest_nested :
    ∃ state : State, state.closings.map Closing.index = [1, 2, 0] ∧
      [0, 1, 2].map state.root = [0, 0, 2] ∧
      (∀ child ∈ state.closings, ∀ parent ∈ state.closings,
        (child.span.parentSpanId = some parent.span.spanId ↔
          state.opener child.index = some parent.index)) ∧
        ∀ first ∈ state.closings, ∀ second ∈ state.closings,
          (state.root first.index = state.root second.index →
            first.span.traceId = second.span.traceId) ∧
          (state.root first.index ≠ state.root second.index →
            ∀ root, state.births[state.root first.index]? = some root →
              root.mintsTrace = true →
                first.span.traceId ≠ second.span.traceId) := by
  let _ := asciiTables
  have run : (machine.execWhere (fun state call => decide (Fresh state call))
      { world := boundWorld } nestedCalls).map (fun state =>
        (state.closings.map Closing.index, [0, 1, 2].map state.root)) =
      some ([1, 2, 0], [0, 0, 2]) := by
    decide
  obtain ⟨state, executed, seen⟩ := Option.map_eq_some_iff.mp run
  simp only [Prod.mk.injEq] at seen
  have reached := (Library.Machine.Reach.start boundWorld_starts).execWhere
    (fun _ _ => of_decide_eq_true) executed
  exact ⟨state, seen.1, seen.2, ids_tell_forest reached⟩

end SpanForest

end Allstak
