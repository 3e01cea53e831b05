import Allstak.SpanForest
import Allstak.TracingFields

/-!
# The spans of a subscriber

The registry of a subscriber gives a new span an id that is not in use, tells
the layer, and tells it again when the span is closed; then it drops what the
layer kept with the span and may use the id again.
-/

namespace Allstak

namespace Tracing

open SpanForest (Closing Elsewhere spansSent_drop spansSent_ingest)

/-- Setting the tags of a map one by one gives the map. -/
theorem foldl_setTag (tags : List (String × String)) (span : Span) :
    tags.foldl (fun span tag => span.setTag tag.1 tag.2) span =
      { span with tags := Library.OrderedMap.insertAll tags span.tags } := by
  induction tags generalizing span with
  | nil => rfl
  | cons tag tags induction => exact induction (span.setTag tag.1 tag.2)

/-- A root span with the tags and the data of the fields, named by them. -/
theorem attributes_span (attributes : Attributes) :
    let visitor := FieldVisitor.visit attributes.fields
    attributes.span =
      { traceId := attributes.newTraceId
        spanId := attributes.newSpanId
        parentSpanId := none
        operation := (visitor.textOf "as.op").getD "default"
        description :=
          some ((visitor.textOf "as.name").getD attributes.metadata.name)
        tags := visitor.tags
        data := visitor.metadata
        startMillis := attributes.moment.millis
        started := attributes.moment.instant } := by
  intro visitor
  have sorted : Library.OrderedMap.Sorted visitor.tags := by
    change Library.OrderedMap.Sorted (FieldVisitor.visit attributes.fields).tags
    rw [visit_eq]
    exact Library.OrderedMap.sorted_insertAll _ List.Pairwise.nil
  rw [Attributes.span, foldl_setTag]
  change (if visitor.data.isEmpty then _ else _) = _
  rw [FieldVisitor.metadata]
  split
  · simp [Span.transaction, Library.OrderedMap.insertAll_sorted sorted, visitor]
  · simp [Span.transaction, Span.setData,
      Library.OrderedMap.insertAll_sorted sorted, visitor]

/-- What the registry tells the layer, an event, or anything else the process
does. -/
inductive TracingCall where
  | newSpan (id : Nat) (attributes : Attributes)
  | tryClose (id : Nat) (slot : Option HubId) (moment : Moment)
  | event (slot : Option HubId) (event : TracingEvent)
  | elsewhere (activity : Elsewhere)

/-- The attributes of the spans the layer keeps, those that are held under an
id, and the closings so far are kept for the statements. -/
structure State where
  world : World
  registry : Registry := fun _ => none
  openings : List Attributes := []
  held : Nat → Option Nat := fun _ => none
  closings : List Closing := []

namespace State

def clientOf (state : State) (hub : HubId) : Option (ClientId × Client) :=
  (state.world.hubs hub).client.map fun client =>
    (client, (state.world.clients client).client)

/-- The closing of the span held under an id. -/
def closing (state : State) (id : Nat) (hub : HubId) (moment : Moment) :
    List Closing :=
  ((state.held id).bind fun index =>
    (state.openings[index]?).map fun attributes =>
      { index, span := attributes.span, moment
        client := state.clientOf hub }).toList

end State

theorem onNewSpan_created (layer : AllstakLayer) (attributes : Attributes)
    (id : Nat) (registry : Registry) :
    layer.onNewSpan attributes id (Function.update registry id (some none)) =
      Function.update registry id (some
        (if layer.spanFilter attributes.metadata then
          some { span := some { span := attributes.span } }
        else none)) := by
  rw [AllstakLayer.onNewSpan]
  split
  · rw [Function.update_self]
    exact Function.update_idem _ _ _
  · rfl

section

variable [UnicodeTables]

/-- The registry drops the extensions of a span. -/
def dropExtensions (hub : HubId) (moment : Moment)
    (extensions : Option SpanHolder) (world : World) : World :=
  match extensions.bind SpanHolder.span with
  | none => world
  | some opened => opened.drop hub moment world

def step (layer : AllstakLayer) (state : State) : TracingCall → Option State
  | .newSpan id attributes =>
      if (state.registry id).isSome then none
      else
        let created := Function.update state.registry id (some none)
        let accepts := layer.spanFilter attributes.metadata
        some
          { state with
            registry := layer.onNewSpan attributes id created
            openings := state.openings ++ if accepts then [attributes] else []
            held := Function.update state.held id
              (if accepts then some state.openings.length else none) }
  | .tryClose id slot moment =>
      let hub := World.current slot
      (state.registry id).map fun _ =>
        let closed :=
          AllstakLayer.onClose hub id moment state.registry state.world
        { state with
          world := dropExtensions hub moment (closed.1 id).join closed.2
          registry := Function.update closed.1 id none
          held := Function.update state.held id none
          closings := state.closings ++ state.closing id hub moment }
  | .event slot event =>
      some { state with
        world := layer.onEvent (World.current slot) event state.world }
  | .elsewhere activity =>
      some { state with world := activity.change state.world }

/-- A subscriber without spans, in a process that sent none. -/
def machine (layer : AllstakLayer) : Library.Machine State TracingCall where
  start state := ∃ world : World, world.spansSent = [] ∧ state = { world }
  next := step layer

/-- An event sends no spans, whatever the layer makes of it. -/
theorem onEvent_spansSent (layer : AllstakLayer) (hub : HubId)
    (event : TracingEvent) (world : World) :
    (layer.onEvent hub event world).spansSent = world.spansSent := by
  have captures :=
    (Elsewhere.captureEvent hub event.errorEvent).quiet world
  rw [AllstakLayer.onEvent]
  split
  · rfl
  · rw [World.addBreadcrumb]
    have filtered : (world.processBreadcrumb hub event.turn
        event.breadcrumb).2.spansSent = world.spansSent := by
      rw [World.processBreadcrumb]
      split <;> rfl
    dsimp only
    split
    · exact filtered
    · exact filtered
  · split
    · rfl
    · apply spansSent_ingest
      intro client counters envelope handed
      rw [SessionPairing.deliver_paths handed]
      decide
  · exact captures
  · exact captures

/-- What is kept by every call. -/
structure Kept (layer : AllstakLayer) (state : State) : Prop where
  extensions : ∀ id extensions, state.registry id = some extensions →
    extensions = (state.held id).bind fun index =>
      state.openings[index]?.map fun attributes =>
        { span := some { span := attributes.span } }
  live : ∀ id index, state.held id = some index →
    (state.registry id).isSome ∧ index < state.openings.length ∧
      index ∉ state.closings.map Closing.index
  apart : ∀ id other index, state.held id = some index →
    state.held other = some index → id = other
  kept : ∀ index < state.openings.length,
    index ∈ state.closings.map Closing.index ∨ ∃ id, state.held id = some index
  accepted : ∀ attributes ∈ state.openings,
    layer.spanFilter attributes.metadata = true
  closed : ∀ closing ∈ state.closings,
    ∃ attributes, state.openings[closing.index]? = some attributes ∧
      closing.span = attributes.span
  once : (state.closings.map Closing.index).Nodup
  sent : state.world.spansSent = state.closings.flatMap Closing.sends

theorem Kept.elsewhere {layer : AllstakLayer} {state : State} {world : World}
    (kept : Kept layer state) (quiet : world.spansSent =
      state.world.spansSent) :
    Kept layer { state with world } :=
  { kept with sent := quiet.trans kept.sent }

theorem Kept.accepting {layer : AllstakLayer} {state : State} {id : Nat}
    {attributes : Attributes} (kept : Kept layer state)
    (unused : state.registry id = none)
    (accepts : layer.spanFilter attributes.metadata = true) :
    Kept layer
      { state with
        registry := Function.update state.registry id
          (some (some { span := some { span := attributes.span } }))
        openings := state.openings ++ [attributes]
        held :=
          Function.update state.held id (some state.openings.length) } := by
  have older {index : Nat} (inside : index < state.openings.length) :
      (state.openings ++ [attributes])[index]? = state.openings[index]? :=
    List.getElem?_append_left inside
  have inside {other index : Nat} (holding : state.held other = some index) :=
    (kept.live other index holding).2.1
  constructor
  · intro other extensions found
    by_cases same : other = id
    · subst same
      simp only [Function.update_self, Option.some.injEq] at found
      subst found
      simp
    · simp only [Function.update_of_ne same] at found ⊢
      rw [kept.extensions other extensions found]
      cases holding : state.held other with
      | none => rfl
      | some index =>
          rw [Option.bind_some, Option.bind_some, older (inside holding)]
  · intro other index holding
    by_cases same : other = id
    · subst same
      simp only [Function.update_self, Option.some.injEq] at holding
      subst holding
      refine ⟨by simp, by simp, ?_⟩
      intro member
      obtain ⟨closing, closed, same⟩ := List.mem_map.mp member
      obtain ⟨_, found, -⟩ := kept.closed closing closed
      have bound := (List.getElem?_eq_some_iff.mp found).1
      omega
    · simp only [Function.update_of_ne same] at holding ⊢
      obtain ⟨used, bound, unclosed⟩ := kept.live other index holding
      refine ⟨used, ?_, unclosed⟩
      rw [List.length_append]
      omega
  · intro first second index holding alsoHolding
    by_cases same : first = id
    · by_cases both : second = id
      · exact same.trans both.symm
      · subst same
        simp only [Function.update_self, Option.some.injEq,
          Function.update_of_ne both] at holding alsoHolding
        have bound := inside alsoHolding
        omega
    · by_cases both : second = id
      · subst both
        simp only [Function.update_self, Option.some.injEq,
          Function.update_of_ne same] at holding alsoHolding
        have bound := inside holding
        omega
      · simp only [Function.update_of_ne same, Function.update_of_ne both]
          at holding alsoHolding
        exact kept.apart first second index holding alsoHolding
  · intro index bound
    rw [List.length_append, List.length_singleton] at bound
    by_cases last : index = state.openings.length
    · subst last
      exact .inr ⟨id, Function.update_self ..⟩
    · rcases kept.kept index (by omega) with closed | ⟨other, holding⟩
      · exact .inl closed
      · refine .inr ⟨other, ?_⟩
        have distinct : other ≠ id := by
          rintro rfl
          have used := (kept.live other index holding).1
          rw [unused] at used
          cases used
        exact (Function.update_of_ne distinct ..).trans holding
  · intro other member
    rcases List.mem_append.mp member with old | new
    · exact kept.accepted other old
    · rw [List.mem_singleton.mp new]
      exact accepts
  · intro closing member
    obtain ⟨opening, found, span⟩ := kept.closed closing member
    refine ⟨opening, ?_, span⟩
    exact (older (List.getElem?_eq_some_iff.mp found).1).trans found
  · exact kept.once
  · exact kept.sent

theorem Kept.newSpan {layer : AllstakLayer} {state after : State} {id : Nat}
    {attributes : Attributes} (kept : Kept layer state)
    (moved : step layer state (.newSpan id attributes) = some after) :
    Kept layer after := by
  rw [step] at moved
  split at moved
  · cases moved
  · rename_i unused
    rw [Bool.not_eq_true, Option.isSome_eq_false_iff, Option.isNone_iff_eq_none]
      at unused
    have unheld : state.held id = none := by
      cases holding : state.held id with
      | none => rfl
      | some index =>
          have used := (kept.live id index holding).1
          rw [unused] at used
          cases used
    dsimp only at moved
    rw [onNewSpan_created] at moved
    cases accepts : layer.spanFilter attributes.metadata with
    | true =>
        simp only [accepts, if_true, Option.some.injEq] at moved
        subst moved
        exact kept.accepting unused accepts
    | false =>
        simp only [accepts, Bool.false_eq_true, if_false, List.append_nil,
          Option.some.injEq] at moved
        subst moved
        have same : Function.update state.held id none = state.held := by
          rw [← unheld]
          exact Function.update_eq_self id state.held
        rw [same]
        refine { kept with extensions := ?_, live := ?_ }
        · intro other extensions found
          by_cases own : other = id
          · subst own
            simp only [Function.update_self, Option.some.injEq] at found
            rw [← found, unheld]
            rfl
          · simp only [Function.update_of_ne own] at found
            exact kept.extensions other extensions found
        · intro other index holding
          obtain ⟨used, bound, unclosed⟩ := kept.live other index holding
          refine ⟨?_, bound, unclosed⟩
          by_cases own : other = id
          · subst own
            simp
          · simp only [Function.update_of_ne own]
            exact used

/-- The layer closes the span an id holds, and nothing is left to drop. -/
theorem onClose_eq {layer : AllstakLayer} {state : State}
    (kept : Kept layer state)
    {id : Nat} {extensions : Option SpanHolder}
    (found : state.registry id = some extensions) (hub : HubId)
    (moment : Moment) :
    let closed :=
      AllstakLayer.onClose hub id moment state.registry state.world
    Function.update closed.1 id none = Function.update state.registry id none ∧
      (dropExtensions hub moment (closed.1 id).join closed.2).spansSent =
        state.world.spansSent ++
          (state.closing id hub moment).flatMap Closing.sends := by
  have holder := kept.extensions id extensions found
  rw [State.closing]
  cases holding : state.held id with
  | none =>
      rw [holding, Option.bind_none] at holder
      subst holder
      simp [AllstakLayer.onClose, found, dropExtensions]
  | some index =>
      obtain ⟨-, bound, -⟩ := kept.live id index holding
      have opening := List.getElem?_eq_getElem bound
      rw [holding, Option.bind_some, opening, Option.map_some] at holder
      subst holder
      simp only [AllstakLayer.onClose, found, Function.update_self,
        Function.update_idem, Option.join_some, dropExtensions,
          Option.bind_some,
        opening, Option.map_some, Option.toList_some, List.flatMap_cons,
        List.flatMap_nil, List.append_nil, true_and]
      rw [OpenSpan.finish_eq_drop]
      have unsent : ({ span := state.openings[index].span } :
        OpenSpan).finished = false := rfl
      exact spansSent_drop state.world hub unsent
        { index, span := state.openings[index].span, moment
          client := state.clientOf hub } rfl rfl

theorem Kept.released {layer : AllstakLayer} {state : State}
    (kept : Kept layer state) (id : Nat) (hub : HubId) (moment : Moment)
    {world : World}
    (sent : world.spansSent = state.world.spansSent ++
      (state.closing id hub moment).flatMap Closing.sends) :
    Kept layer
      { state with
        world
        registry := Function.update state.registry id none
        held := Function.update state.held id none
        closings := state.closings ++ state.closing id hub moment } := by
  have closing_index : ∀ index,
      index ∈ (state.closing id hub moment).map Closing.index ↔
        state.held id = some index := by
    intro index
    rw [State.closing]
    cases holding : state.held id with
    | none => simp
    | some other =>
        obtain ⟨-, bound, -⟩ := kept.live id other holding
        simp [List.getElem?_eq_getElem bound, eq_comm]
  have moves {other index : Nat}
      (holding : Function.update state.held id none other = some index) :
      other ≠ id ∧ state.held other = some index := by
    by_cases own : other = id
    · subst own
      rw [Function.update_self] at holding
      cases holding
    · rw [Function.update_of_ne own] at holding
      exact ⟨own, holding⟩
  constructor
  · intro other extensions at_
    by_cases own : other = id
    · subst own
      simp at at_
    · simp only [Function.update_of_ne own] at at_ ⊢
      exact kept.extensions other extensions at_
  · intro other index holding
    obtain ⟨own, before⟩ := moves holding
    obtain ⟨used, bound, unclosed⟩ := kept.live other index before
    refine ⟨?_, bound, ?_⟩
    · simp only [Function.update_of_ne own]
      exact used
    · rw [List.map_append, List.mem_append, closing_index]
      rintro (closed | held)
      · exact unclosed closed
      · exact own (kept.apart other id index before held)
  · intro first second index holding alsoHolding
    exact kept.apart first second index (moves holding).2 (moves alsoHolding).2
  · intro index bound
    rw [List.map_append, List.mem_append, closing_index]
    rcases kept.kept index bound with closed | ⟨other, holding⟩
    · exact .inl (.inl closed)
    · by_cases own : other = id
      · subst own
        exact .inl (.inr holding)
      · exact .inr ⟨other, (Function.update_of_ne own ..).trans holding⟩
  · exact kept.accepted
  · intro closing member
    rcases List.mem_append.mp member with old | new
    · exact kept.closed closing old
    · rw [State.closing, Option.mem_toList] at new
      obtain ⟨index, -, made⟩ := Option.bind_eq_some_iff.mp new
      obtain ⟨attributes, opening, rfl⟩ := Option.map_eq_some_iff.mp made
      exact ⟨attributes, opening, rfl⟩
  · rw [List.map_append]
    refine List.nodup_append.mpr ⟨kept.once, ?_, ?_⟩
    · rw [State.closing]
      cases (state.held id).bind _ <;> simp
    · intro index closed other new same
      subst same
      exact (kept.live id index ((closing_index index).mp new)).2.2 closed
  · rw [List.flatMap_append, ← kept.sent]
    exact sent

private theorem Kept.tryClose {layer : AllstakLayer} {state after : State}
    {id : Nat} {slot : Option HubId} {moment : Moment} (kept : Kept layer state)
    (moved : step layer state (.tryClose id slot moment) = some after) :
    Kept layer after := by
  obtain ⟨extensions, found, rfl⟩ := Option.map_eq_some_iff.mp moved
  obtain ⟨registry, sent⟩ := onClose_eq kept found (World.current slot) moment
  dsimp only at registry sent ⊢
  rw [registry]
  exact kept.released id (World.current slot) moment sent

theorem kept_step {layer : AllstakLayer} {before after : State}
    {call : TracingCall} (kept : Kept layer before)
    (moved : step layer before call = some after) : Kept layer after := by
  cases call with
  | newSpan id attributes => exact kept.newSpan moved
  | tryClose id slot moment => exact kept.tryClose moved
  | event slot event =>
      cases moved
      exact kept.elsewhere (onEvent_spansSent layer _ event before.world)
  | elsewhere activity =>
      cases moved
      exact kept.elsewhere (activity.quiet before.world)

theorem kept_reached {layer : AllstakLayer} {state : State}
    (reached : (machine layer).Reachable state) : Kept layer state := by
  refine reached.induct (motive := Kept layer) ?_
    fun _ _ _ kept _ moved => kept_step kept moved
  intro state started
  obtain ⟨world, unsent, rfl⟩ := started
  constructor
  · intro id extensions found
    cases found
  · intro id index holding
    cases holding
  · intro id other index holding
    cases holding
  · intro index bound
    exact absurd bound (Nat.not_lt_zero index)
  · intro attributes member
    cases member
  · intro closing member
    cases member
  · exact List.nodup_nil
  · exact unsent

/-- In every run of a subscriber, ids being used again or not, the spans sent
are those the filter accepts that were closed: one envelope for each, in the
order of the closings, if the hub that was current then had a live client.  It
is a root span with the tags and the data among its fields.  An accepted span
that was not closed is kept unsent, under one id. -/
theorem accepted_spans_sent_once {layer : AllstakLayer} {state : State}
    (reached : (machine layer).Reachable state) :
    state.world.spansSent = state.closings.flatMap Closing.sends ∧
      (state.closings.map Closing.index).Nodup ∧
      (∀ closing ∈ state.closings,
        ∃ attributes, state.openings[closing.index]? = some attributes ∧
          layer.spanFilter attributes.metadata = true ∧
          closing.span = attributes.span ∧
          closing.span.parentSpanId = none ∧
          closing.span.tags = (FieldVisitor.visit attributes.fields).tags ∧
          closing.span.data = (FieldVisitor.visit attributes.fields).metadata) ∧
      ∀ (index : Nat) (attributes : Attributes),
        state.openings[index]? = some attributes →
          (index ∉ state.closings.map Closing.index ↔
            ∃ id, state.held id = some index ∧
              state.registry id =
                some (some { span := some { span := attributes.span } }) ∧
              ∀ other, state.held other = some index → other = id) := by
  have kept := kept_reached reached
  refine ⟨kept.sent, kept.once, ?_, ?_⟩
  · intro closing member
    obtain ⟨attributes, opening, span⟩ := kept.closed closing member
    have accepted := kept.accepted attributes (List.mem_of_getElem? opening)
    refine ⟨attributes, opening, accepted, span, ?_⟩
    rw [span, attributes_span]
    exact ⟨rfl, rfl, rfl⟩
  · intro index attributes opening
    constructor
    · intro unclosed
      have bound := (List.getElem?_eq_some_iff.mp opening).1
      obtain ⟨id, holding⟩ := (kept.kept index bound).resolve_left unclosed
      obtain ⟨extensions, found⟩ :=
        Option.isSome_iff_exists.mp (kept.live id index holding).1
      have holder := kept.extensions id extensions found
      rw [holding, Option.bind_some, opening, Option.map_some] at holder
      refine ⟨id, holding, ?_, ?_⟩
      · rw [found, holder]
      · intro other alsoHolding
        exact kept.apart other id index alsoHolding holding
    · rintro ⟨id, holding, -⟩
      exact (kept.live id index holding).2.2

end

def spanAttributes (name traceId spanId : String) (fields : List Field) :
    Attributes :=
  { metadata := { name, target := "app", level := .info }
    fields
    newTraceId := traceId
    newSpanId := spanId
    moment := { instant := 0, millis := 0, iso8601 := "" } }

/-- Two spans one after the other under the same id, with another one open. -/
def reusedId : List TracingCall :=
  let moment : Moment := { instant := 9, millis := 9, iso8601 := "" }
  [.newSpan 1 (spanAttributes "load" "a" "b" [("tags.table", .str "users")]),
    .newSpan 2 (spanAttributes "wait" "c" "d" []),
    .tryClose 1 none moment,
    .newSpan 1 (spanAttributes "store" "e" "f" [("rows", .u64 3)]),
    .tryClose 1 none moment]

theorem accepted_spans_sent_once_reused :
    ∃ state : State, state.closings.map Closing.index = [0, 2] ∧
      state.world.spansSent.length = 2 ∧
      state.world.spansSent =
        state.closings.flatMap (@Closing.sends asciiTables) ∧
      (state.closings.map Closing.index).Nodup ∧
      (∀ closing ∈ state.closings,
        ∃ attributes, state.openings[closing.index]? = some attributes ∧
          layer.spanFilter attributes.metadata = true ∧
          closing.span = attributes.span ∧
          closing.span.parentSpanId = none ∧
          closing.span.tags = (FieldVisitor.visit attributes.fields).tags ∧
          closing.span.data = (FieldVisitor.visit attributes.fields).metadata) ∧
      ∀ (index : Nat) (attributes : Attributes),
        state.openings[index]? = some attributes →
          (index ∉ state.closings.map Closing.index ↔
            ∃ id, state.held id = some index ∧
              state.registry id =
                some (some { span := some { span := attributes.span } }) ∧
              ∀ other, state.held other = some index → other = id) := by
  let _ := asciiTables
  have run : ((machine layer).exec { world := SpanForest.boundWorld }
      reusedId).map (fun state =>
        (state.closings.map Closing.index, state.world.spansSent.length)) =
      some ([0, 2], 2) := by
    decide
  obtain ⟨state, executed, seen⟩ := Option.map_eq_some_iff.mp run
  simp only [Prod.mk.injEq] at seen
  have starts : (machine layer).start { world := SpanForest.boundWorld } :=
    ⟨SpanForest.boundWorld, rfl, rfl⟩
  have reached := Library.Machine.reachable_of_exec starts executed
  exact ⟨state, seen.1, seen.2, accepted_spans_sent_once reached⟩

end Tracing

end Allstak
