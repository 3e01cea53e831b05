import Allstak.Hub
import Allstak.WireSchema

/-!
# The event a hook is given

A capture returns the identifier of its event and makes it the last one of the
process.  The hook is given the event after the scope, the integrations and,
with the default privacy setting, a cycle through its scrubbed JSON form.
-/

namespace Allstak

def Integration.KeepsId (integration : Integration) : Prop :=
  ∀ turn event answer, integration.processEvent turn event = some answer →
    answer.eventId = event.eventId

namespace Client

/-- The event before sanitizing, unless an integration drops it. -/
def integratedEvent (client : Client) (turn : Nat) (event : ErrorEvent)
    (scope : Scope) : Option ErrorEvent :=
  runIntegrations turn client.options.integrations
    (scope.applyToEvent (client.applyDefaults event))

theorem runIntegrations_eventId {turn : Nat} {integrations : List Integration}
    (keeping : ∀ integration ∈ integrations, integration.KeepsId)
    {event answer : ErrorEvent}
    (ran : runIntegrations turn integrations event = some answer) :
    answer.eventId = event.eventId := by
  induction integrations generalizing event with
  | nil =>
      cases ran
      rfl
  | cons integration integrations induction =>
      rw [runIntegrations, Option.bind_eq_some_iff] at ran
      obtain ⟨next, processed, ran⟩ := ran
      rw [List.forall_mem_cons] at keeping
      exact (induction keeping.2 ran).trans
        (keeping.1 turn event next processed)

private theorem integratedEvent_eventId {client : Client} {turn : Nat}
    {event before : ErrorEvent} {scope : Scope}
    (keeping : ∀ integration ∈ client.options.integrations, integration.KeepsId)
    (integrated : client.integratedEvent turn event scope = some before) :
    before.eventId = event.eventId := by
  unfold integratedEvent at integrated
  rw [runIntegrations_eventId keeping integrated]
  rfl

section

variable [UnicodeTables]

/-- What a hook is given. -/
def hookEvent (client : Client) (turn : Nat) (event : ErrorEvent)
    (scope : Scope) : Option ErrorEvent :=
  (client.integratedEvent turn event scope).map fun event =>
    if client.options.sendDefaultPii then event else sanitizedEventForHook event

/-- The pipeline answers with what the hook makes of it. -/
theorem processEvent_eq_hookEvent (client : Client) (turn : Nat)
    (event : ErrorEvent) (scope : Scope) :
    client.processEvent turn event scope =
      (client.hookEvent turn event scope).bind fun seen =>
        match client.options.beforeSend with
        | none => some seen
        | some hook => hook turn seen := by
  unfold processEvent hookEvent integratedEvent
  rw [Option.bind_map]
  rfl

private theorem hookEvent_of_integrated {client : Client} {turn : Nat}
    {event before : ErrorEvent} {scope : Scope}
    (privateByDefault : client.options.sendDefaultPii = false)
    (integrated : client.integratedEvent turn event scope = some before) :
    client.hookEvent turn event scope = some (sanitizedEventForHook before) := by
  rw [hookEvent, integrated, privateByDefault]
  rfl

private theorem sanitizedEventForHook_blanked (event : ErrorEvent) :
    (sanitizedEventForHook event).rewrite .blanking =
      { event.rewrite .blanking with eventId := 0 } := by
  have blanked : (event.rewrite .scrubbing).rewrite .blanking =
      event.rewrite .blanking := by
    rw [ErrorEvent.rewrite_andThen, Rewriting.scrubbing_andThen_blanking]
  rw [sanitizedEventForHook_eq, ← blanked]
  rfl

end

end Client

namespace World

section

variable [UnicodeTables]

def integratedEvent (world : World) (hub : HubId) (client : ClientId)
    (event : ErrorEvent) : Option ErrorEvent :=
  let shared := world.clients client
  shared.client.integratedEvent shared.counters.eventsCaptured
    ((world.hubs hub).stampEvent event) (world.hubs hub).scopes.top

def hookEvent (world : World) (hub : HubId) (client : ClientId)
    (event : ErrorEvent) : Option ErrorEvent :=
  let shared := world.clients client
  shared.client.hookEvent shared.counters.eventsCaptured
    ((world.hubs hub).stampEvent event) (world.hubs hub).scopes.top

/-- The hook's event carries the identifier of the capture, and it is the event
before sanitizing once texts and free JSON are blanked. -/
structure HookAgrees (world : World) (hub : HubId)
    (event before seen : ErrorEvent) : Prop where
  returned : seen.eventId = event.eventId
  reported : (world.captureEvent hub event).lastEventId = some seen.eventId
  framed : seen.rewrite .blanking = before.rewrite .blanking

private theorem captureEvent_lastEventId {world : World} {hub : HubId}
    {client : ClientId} (event : ErrorEvent)
    (bound : (world.hubs hub).client = some client) :
    (world.captureEvent hub event).lastEventId = some event.eventId := by
  rw [captureEvent, bound]
  rfl

/-- The skipped identifier comes back as nil, so the hook's event agrees with
the capture only where the identifier was nil before. -/
theorem hookEvent_agrees_iff (world : World) (hub : HubId) (client : ClientId)
    (event before : ErrorEvent)
    (bound : (world.hubs hub).client = some client)
    (privateByDefault :
      (world.clients client).client.options.sendDefaultPii = false)
    (keeping : ∀ integration ∈
      (world.clients client).client.options.integrations, integration.KeepsId)
    (integrated : world.integratedEvent hub client event = some before) :
    (∃ seen, world.hookEvent hub client event = some seen ∧
      world.HookAgrees hub event before seen) ↔ event.eventId = 0 := by
  unfold integratedEvent at integrated
  have sameId : before.eventId = event.eventId := by
    rw [Client.integratedEvent_eventId keeping integrated]
    rfl
  have given : world.hookEvent hub client event =
      some (Client.sanitizedEventForHook before) :=
    Client.hookEvent_of_integrated privateByDefault integrated
  have nil : (Client.sanitizedEventForHook before).eventId = 0 := by
    rw [Client.sanitizedEventForHook_eq]
  constructor
  · rintro ⟨seen, found, agrees⟩
    rw [given, Option.some.injEq] at found
    rw [← agrees.returned, ← found]
    exact nil
  · intro unset
    refine ⟨_, given, ?_⟩
    constructor
    · rw [nil, unset]
    · rw [captureEvent_lastEventId event bound, nil, unset]
    · rw [Client.sanitizedEventForHook_blanked]
      have skipped : (before.rewrite .blanking).eventId = 0 := sameId.trans unset
      rw [← skipped]

end

/-- A hub whose client has a hook and an integration that adds a tag. -/
def hookedWorld : World :=
  let integration : Integration :=
    { name := "dist"
      processEvent := fun _ event => some { event with dist := some "a@b.co" } }
  let options : ClientOptions :=
    { apiKey := "key"
      beforeSend := some fun _ event => some event
      integrations := [integration] }
  (initial.newClient options).2.onHub main (Hub.bindClient (some 0))

def hookedEvent (eventId : Uuid) : ErrorEvent :=
  { eventId, exceptionClass := "E", message := "m" }

private theorem hookedWorld_keepsId : ∀ integration ∈
    (hookedWorld.clients 0).client.options.integrations,
      integration.KeepsId := by
  intro integration member turn event answer processed
  obtain rfl : integration = _ := List.mem_singleton.mp member
  cases processed
  rfl

theorem hookEvent_agrees_iff_unset :
    ∃ seen,
      @hookEvent asciiTables hookedWorld main 0 (hookedEvent 0) = some seen ∧
        ∀ before,
          integratedEvent hookedWorld main 0 (hookedEvent 0) = some before →
            @HookAgrees asciiTables hookedWorld main (hookedEvent 0) before
              seen := by
  obtain ⟨seen, given, agrees⟩ :=
    (@hookEvent_agrees_iff asciiTables hookedWorld main 0 (hookedEvent 0) _ rfl
      rfl hookedWorld_keepsId rfl).mpr rfl
  refine ⟨seen, given, ?_⟩
  intro before integrated
  cases integrated
  exact agrees

/-- A fresh identifier is nil in the hook, and not in the answer. -/
theorem hookEvent_loses_id :
    ¬ ∃ before seen,
      integratedEvent hookedWorld main 0 (hookedEvent 1) = some before ∧
        @hookEvent asciiTables hookedWorld main 0 (hookedEvent 1) =
            some seen ∧
          @HookAgrees asciiTables hookedWorld main (hookedEvent 1) before
            seen := by
  rintro ⟨before, seen, -, given, returned, -, -⟩
  have skipped : @hookEvent asciiTables hookedWorld main 0 (hookedEvent 1) =
      some (@Client.sanitizedEventForHook asciiTables _) :=
    @Client.hookEvent_of_integrated asciiTables _ _ _ _ _ rfl rfl
  rw [given, Option.some.injEq] at skipped
  rw [skipped, @Client.sanitizedEventForHook_eq asciiTables] at returned
  cases returned

end World

end Allstak
