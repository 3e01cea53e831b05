import Allstak.BreadcrumbCap
import Allstak.ErrorLevel
import Allstak.SpanForest
import Allstak.TracingFields

/-!
# What leads up to an error

Events below an error leave breadcrumbs on the scope of the hub that is current.
The error event that a later one becomes is delivered with the last of them.
-/

namespace Allstak

namespace Tracing

open BreadcrumbCap (filtered applyToEvent_breadcrumbs)

/-- The breadcrumb an event leaves, if the hook of the client accepts it. -/
def crumbOf (layer : AllstakLayer) (filter : Option (Hook Breadcrumb))
    (event : TracingEvent) : Option Breadcrumb :=
  if layer.eventFilter event.metadata = .breadcrumb then
    filtered filter event.turn event.breadcrumb
  else none

/-- The hub has a client, and its top scope the last of some breadcrumbs. -/
structure Trailing (hub : HubId) (id : ClientId) (client : Client) (cap : Nat)
    (crumbs : List Breadcrumb) (world : World) : Prop where
  bound : (world.hubs hub).client = some id
  client : (world.clients id).client = client
  size : (world.hubs hub).scopes.top.maxBreadcrumbs = cap
  kept : (world.hubs hub).scopes.top.breadcrumbs = crumbs.rtake cap

section

variable {hub : HubId} {id : ClientId} {client : Client} {cap : Nat}
  {crumbs : List Breadcrumb}

/-- What changes neither the hub's client and scopes nor any options. -/
theorem Trailing.same {world after : World}
    (trailing : Trailing hub id client cap crumbs world)
    (bound : (after.hubs hub).client = (world.hubs hub).client)
    (scopes : (after.hubs hub).scopes = (world.hubs hub).scopes)
    (options : (after.clients id).client = (world.clients id).client) :
    Trailing hub id client cap crumbs after := by
  constructor
  · rw [bound, trailing.bound]
  · rw [options, trailing.client]
  · rw [scopes, trailing.size]
  · rw [scopes, trailing.kept]

theorem Trailing.add {world : World}
    (trailing : Trailing hub id client cap crumbs world)
    (breadcrumb : Breadcrumb) :
    Trailing hub id client cap (crumbs ++ [breadcrumb])
      (world.onHub hub
        (Hub.configureScope fun scope => scope.addBreadcrumb breadcrumb)) := by
  constructor
  · rw [World.onHub_hubs_self]
    exact trailing.bound
  · exact trailing.client
  · rw [World.onHub_hubs_self, Hub.configureScope, ScopeStack.top_configureTop]
    exact trailing.size
  · rw [World.onHub_hubs_self, Hub.configureScope, ScopeStack.top_configureTop]
    change (_ ++ [breadcrumb]).rtake _ = _
    rw [trailing.kept, trailing.size]
    exact Library.Ring.rtake_append_of_rtake crumbs [breadcrumb] cap

/-- The hook of the hub's client answers, and only counters change. -/
theorem Trailing.processBreadcrumb {world : World}
    (trailing : Trailing hub id client cap crumbs world) (turn : Nat)
    (breadcrumb : Breadcrumb) :
    (world.processBreadcrumb hub turn breadcrumb).1 =
        filtered client.options.beforeBreadcrumb turn breadcrumb ∧
      Trailing hub id client cap crumbs
        (world.processBreadcrumb hub turn breadcrumb).2 := by
  have hubs := world.processBreadcrumb_hubs hub turn breadcrumb
  constructor
  · rw [World.processBreadcrumb, trailing.bound, ← trailing.client]
    rfl
  · apply trailing.same
    · rw [hubs]
    · rw [hubs]
    · rw [World.processBreadcrumb, trailing.bound]
      simp

variable [UnicodeTables]

theorem Trailing.onEvent {world : World}
    (trailing : Trailing hub id client cap crumbs world) (layer : AllstakLayer)
    (event : TracingEvent) :
    Trailing hub id client cap
      (crumbs ++ (crumbOf layer client.options.beforeBreadcrumb event).toList)
      (layer.onEvent hub event world) := by
  have captures : Trailing hub id client cap crumbs
      (world.captureEvent hub event.errorEvent) := by
    apply trailing.same
    · exact World.captureEvent_client ..
    · exact World.captureEvent_scopes ..
    · exact World.captureEvent_options ..
  rw [AllstakLayer.onEvent]
  cases decided : layer.eventFilter event.metadata with
  | ignore =>
      simpa [crumbOf, decided] using trailing
  | breadcrumb =>
      obtain ⟨answer, filtering⟩ :=
        trailing.processBreadcrumb event.turn event.breadcrumb
      rw [crumbOf, if_pos decided, ← answer]
      dsimp only
      rw [World.addBreadcrumb]
      dsimp only
      split
      · rename_i rejected
        simpa [rejected] using filtering
      · rename_i breadcrumb accepted
        rw [accepted]
        exact filtering.add breadcrumb
  | log =>
      simp only [crumbOf, decided, reduceCtorEq, if_false, Option.toList_none,
        List.append_nil, trailing.bound]
      apply trailing.same
      · rw [World.ingest_hubs]
      · rw [World.ingest_hubs]
      · rw [World.ingest_options]
  | event => simpa [crumbOf, decided] using captures
  | exception => simpa [crumbOf, decided] using captures

theorem Trailing.run {world : World}
    (trailing : Trailing hub id client cap crumbs world) (layer : AllstakLayer)
    (events : List TracingEvent) :
    Trailing hub id client cap
      (crumbs ++
        events.filterMap (crumbOf layer client.options.beforeBreadcrumb))
      (events.foldl (fun world event => layer.onEvent hub event world)
        world) := by
  induction events generalizing world crumbs with
  | nil => simpa using trailing
  | cons event events induction =>
      have later := induction (trailing.onEvent layer event)
      rw [List.append_assoc] at later
      rw [List.filterMap_cons, List.foldl_cons]
      cases left : crumbOf layer client.options.beforeBreadcrumb event <;>
        simpa [left] using later

end

/-- After any events, one that the layer makes an error event is delivered, by a
client without hooks that samples everything, as one envelope: an event of its
target, message and level, with the last of the breadcrumbs the events before it
left, as many as the scope keeps. -/
theorem error_carries_trail [UnicodeTables] (layer : AllstakLayer)
    {world : World} {hub : HubId}
    {id : ClientId} {client : Client}
    (bound : (world.hubs hub).client = some id)
    (options : (world.clients id).client = client)
    (bare : client.options.integrations = [])
    (unhooked : client.options.beforeSend = none)
    (keeps : client.options.sampleRate.keepsAll = true)
    (enabled : client.isEnabled = true)
    (fits : (world.hubs hub).scopes.top.breadcrumbs.length ≤
      (world.hubs hub).scopes.top.maxBreadcrumbs)
    (events : List TracingEvent) (event : TracingEvent)
    (captured : layer.eventFilter event.metadata = .event ∨
      layer.eventFilter event.metadata = .exception) :
    let reached :=
      events.foldl (fun world event => layer.onEvent hub event world) world
    ∃ laid : ErrorEvent,
      (layer.onEvent hub event reached).sent = reached.sent ++
        [(id, { path := "/ingest/v1/errors", category := .error
                body := client.deliveredBody laid })] ∧
      laid.breadcrumbs.getD [] =
        ((world.hubs hub).scopes.top.breadcrumbs ++
          events.filterMap (crumbOf layer
            client.options.beforeBreadcrumb)).rtake
            (world.hubs hub).scopes.top.maxBreadcrumbs ∧
      laid.exceptionClass = event.metadata.target ∧
      laid.message = event.message ∧
      laid.level = some (toLevel event.metadata.level).asStr := by
  intro reached
  have start : Trailing hub id client
      (world.hubs hub).scopes.top.maxBreadcrumbs
      (world.hubs hub).scopes.top.breadcrumbs world := by
    refine ⟨bound, options, rfl, ?_⟩
    rw [List.rtake, Nat.sub_eq_zero_of_le fits, List.drop_zero]
  have trailing := start.run layer events
  have handed : (layer.onEvent hub event reached).sent = reached.sent ++
      [(id, { path := "/ingest/v1/errors", category := .error
              body := client.deliveredBody
                (reached.laidOver hub id event.errorEvent) })] := by
    have sent := World.captureEvent_sent trailing.bound
      (by rw [trailing.client]; exact bare)
      (by rw [trailing.client]; exact unhooked)
      (by rw [trailing.client]; exact keeps) event.errorEvent
    rw [trailing.client, if_pos enabled] at sent
    rw [AllstakLayer.onEvent]
    rcases captured with asEvent | asException
    · rw [asEvent]
      exact sent
    · rw [asException]
      exact sent
  refine ⟨reached.laidOver hub id event.errorEvent, handed, ?_, rfl, rfl, rfl⟩
  rw [World.laidOver, applyToEvent_breadcrumbs, trailing.kept]
  exact List.append_nil _

def logged (level : TLevel) (message : String) : TracingEvent :=
  { metadata := { name := "event", target := "app", level }
    fields := [("message", .debug message)]
    eventId := 1
    now := "2026-01-01T00:00:00Z" }

theorem error_carries_trail_warned :
    let _ := asciiTables
    let client : Client := { options := { apiKey := "key" } }
    let reached :=
      [logged .info "started", logged .debug "detail", logged .warn
        "slow"].foldl
        (fun world event => layer.onEvent World.main event world)
        SpanForest.boundWorld
    ∃ laid : ErrorEvent,
      (layer.onEvent World.main (logged .error "failed") reached).sent =
        reached.sent ++
          [(0, { path := "/ingest/v1/errors", category := .error
                 body := client.deliveredBody laid })] ∧
      (laid.breadcrumbs.getD []).map Breadcrumb.message =
        [some "started", some "slow"] ∧
      laid.exceptionClass = "app" ∧ laid.message = "failed" ∧
      laid.level = some "error" := by
  intro _ client reached
  obtain ⟨laid, sent, crumbs, named, message, level⟩ :=
    error_carries_trail layer
      (show (SpanForest.boundWorld.hubs World.main).client = some 0 from rfl)
      (show (SpanForest.boundWorld.clients 0).client = client from rfl)
      rfl rfl rfl (by decide) (by decide)
      [logged .info "started", logged .debug "detail", logged .warn "slow"]
      (logged .error "failed") (.inr rfl)
  refine ⟨laid, sent, ?_, named, message.trans (by decide), level⟩
  rw [crumbs]
  decide

end Tracing

end Allstak
