import Allstak.Hub
import Allstak.ScrubGuard
import Allstak.WireSchema

/-!
# The level that marks a session

A capture decides from the caller's event whether it marks the active session.
The level in the body comes about afterwards, when the scope is laid over the
event, so the two can differ where the event leaves its level open.
-/

namespace Allstak

/-- An error or fatal level, or none at all. -/
def CountsAsError (level : Option String) : Prop :=
  level = none ∨ level = some "error" ∨ level = some "fatal"

instance (level : Option String) : Decidable (CountsAsError level) :=
  inferInstanceAs (Decidable (_ ∨ _ ∨ _))

private theorem ErrorEvent.isErrorLevel_iff (event : ErrorEvent) :
    event.isErrorLevel = true ↔ CountsAsError event.level := by
  rw [isErrorLevel, CountsAsError]
  cases event.level with
  | none => simp
  | some level => simp

/-- The level in a serialized event. -/
def bodyLevel (body : Value) : Option String :=
  (body.get "level").bind Value.asString?

private theorem get_level (event : ErrorEvent) :
    event.toValue.get "level" = optional event.level := by
  rw [ErrorEvent.toValue]
  exact @Value.get_record_field _ (by simp) ("level", optional event.level)
    (by simp)

namespace World

/-- The event with the hub's top scope laid over it. -/
def laidOver (world : World) (hub : HubId) (client : ClientId)
    (event : ErrorEvent) : ErrorEvent :=
  (world.hubs hub).scopes.top.applyToEvent
    ((world.clients client).client.applyDefaults
      ((world.hubs hub).stampEvent event))

private theorem laidOver_level (world : World) (hub : HubId) (client : ClientId)
    (event : ErrorEvent) :
    (world.laidOver hub client event).level =
      (event.level <|> (world.hubs hub).scopes.top.level.map Level.asStr) :=
  rfl

end World

section

variable [UnicodeTables]

theorem looksSensitive_level {level : String}
    (counts : CountsAsError (some level)) :
    looksSensitive level = false := by
  rcases counts with none_ | error | fatal
  · cases none_
  · cases error
    rw [looksSensitive_of_ascii (by decide)]
    decide
  · cases fatal
    rw [looksSensitive_of_ascii (by decide)]
    decide

/-- Scrubbing brings a bracket into what it changes, so it makes no error level
of another. -/
theorem scrubText_level_iff (level : String) :
    CountsAsError (some (scrubText "level" level)) ↔
      CountsAsError (some level) := by
  have plain : Plain "level" := plain_field (by simp [PLAIN_KEYS])
  have scrubbed : scrubText "level" level =
      if looksSensitive level then scrubString level else level := by
    rw [scrubText, plain.1, plain.2]
    rfl
  rw [scrubbed]
  constructor
  · intro counts
    split at counts
    · rename_i sensitive
      have more := count_lt_scrubString sensitive
      have none_ : (scrubString level).toList.count '[' = 0 := by
        rcases counts with nothing | error | fatal
        · cases nothing
        · rw [Option.some.inj error]
          decide
        · rw [Option.some.inj fatal]
          decide
      rw [none_] at more
      exact absurd more (Nat.not_lt_zero _)
    · exact counts
  · intro counts
    rw [if_neg]
    · exact counts
    · rw [looksSensitive_level counts]
      exact Bool.false_ne_true

private theorem scrubbed_level_iff (level : Option String) :
    CountsAsError (level.map (scrubText "level")) ↔ CountsAsError level := by
  cases level with
  | none => exact iff_of_true (.inl rfl) (.inl rfl)
  | some level => exact scrubText_level_iff level

namespace Client

/-- The body made of the event with the scope laid over it, when nothing but the
sanitizer touches it. -/
def deliveredBody (client : Client) (event : ErrorEvent) : Value :=
  if client.options.sendDefaultPii then event.toValue
  else scrubValue (sanitizedEventForHook event).toValue

theorem deliveredBody_level (client : Client) (event : ErrorEvent) :
    CountsAsError (bodyLevel (client.deliveredBody event)) ↔
      CountsAsError event.level := by
  rw [deliveredBody]
  split
  · have same : bodyLevel event.toValue = event.level := by
      rw [bodyLevel, get_level]
      cases event.level <;> rfl
    rw [same]
  · have twice : bodyLevel (scrubValue (sanitizedEventForHook event).toValue) =
        (event.level.map (scrubText "level")).map (scrubText "level") := by
      rw [bodyLevel, get_scrubValue, get_level, sanitizedEventForHook_eq]
      change ((optional (event.level.map (scrubText "level"))).map
        (scrubEntry "level")).bind Value.asString? = _
      cases event.level with
      | none => rfl
      | some level =>
          simp only [optional, Option.map_some, Option.bind_some,
            scrubEntry_text]
          rfl
    rw [twice, scrubbed_level_iff, scrubbed_level_iff]

/-- Without integrations and a hook, and with every event sampled, an enabled
client hands the event over. -/
theorem captureEvent_hands {client : Client}
    (bare : client.options.integrations = [])
    (unhooked : client.options.beforeSend = none)
    (keeps : client.options.sampleRate.keepsAll = true)
    (event : ErrorEvent) (scope : Scope) (counters : Counters) :
    (client.captureEvent event scope counters).2 =
      if client.isEnabled then
        [⟨"/ingest/v1/errors", .error, client.deliveredBody
          (scope.applyToEvent (client.applyDefaults event))⟩]
      else [] := by
  let laid := scope.applyToEvent (client.applyDefaults event)
  have processed : client.processEvent counters.eventsCaptured event scope =
      some (if client.options.sendDefaultPii then laid
        else sanitizedEventForHook laid) := by
    rw [processEvent, bare, unhooked]
    rfl
  have sampled : client.sample counters.captured =
      (true, counters.captured) := by
    rw [sample, keeps]
    rfl
  rw [captureEvent, processed]
  simp only [sampled, deliver, if_true]
  split
  · rw [deliveredBody]
    cases client.options.sendDefaultPii <;> rfl
  · rfl

end Client

namespace World

/-- A capture with a client marks the active session by the caller's level. -/
theorem captureEvent_session {world : World} {hub : HubId} {client : ClientId}
    (bound : (world.hubs hub).client = some client) (event : ErrorEvent) :
    ((world.captureEvent hub event).hubs hub).session =
      if event.isErrorLevel then
        (world.hubs hub).session.map Session.markErrored
      else (world.hubs hub).session := by
  rw [captureEvent, bound]
  change ((captured hub event _).hubs hub).session = _
  rw [captured]
  dsimp only
  split
  · rw [onHub_hubs_self]
    rfl
  · rfl

/-- What a capture adds to what was sent. -/
theorem captureEvent_sent {world : World} {hub : HubId} {client : ClientId}
    (bound : (world.hubs hub).client = some client)
    (bare : (world.clients client).client.options.integrations = [])
    (unhooked : (world.clients client).client.options.beforeSend = none)
    (keeps : (world.clients client).client.options.sampleRate.keepsAll = true)
    (event : ErrorEvent) :
    (world.captureEvent hub event).sent = world.sent ++
      if (world.clients client).client.isEnabled then
        [(client, ⟨"/ingest/v1/errors", .error,
          (world.clients client).client.deliveredBody
            (world.laidOver hub client event)⟩)]
      else [] := by
  rw [captureEvent, bound]
  change (captured hub event _).sent = _
  rw [captured_sent, captureWith, ingest_sent,
    Client.captureEvent_hands bare unhooked keeps]
  split
  · rfl
  · rfl

theorem errored_iff {world : World} {hub : HubId} {client : ClientId}
    {session : Session} (event : ErrorEvent)
    (bound : (world.hubs hub).client = some client)
    (active : (world.hubs hub).session = some session)
    (fine : session.status = .ok) :
    ((world.captureEvent hub event).hubs hub).session.map Session.status =
        some .errored ↔ CountsAsError event.level := by
  rw [captureEvent_session bound, active, ← event.isErrorLevel_iff]
  cases event.isErrorLevel with
  | true =>
      apply iff_of_true _ rfl
      rw [if_pos rfl, Option.map_some, Option.map_some, Session.markErrored,
        if_pos fine]
  | false =>
      apply iff_of_false
      · rw [if_neg Bool.false_ne_true, Option.map_some, fine]
        rintro ⟨⟩
      · exact Bool.false_ne_true

/-- The capture marks the session by the level in every body it hands over. -/
def MarksByBody (world : World) (hub : HubId) (client : ClientId)
    (event : ErrorEvent) : Prop :=
  ∀ envelope,
    (world.captureEvent hub event).sent = world.sent ++ [(client, envelope)] →
      (((world.captureEvent hub event).hubs hub).session.map Session.status =
          some .errored ↔
        CountsAsError (bodyLevel envelope.body))

theorem marksByBody_of_sent {world : World} {hub : HubId} {client : ClientId}
    {session : Session} {event : ErrorEvent} {handed : Envelope}
    (sent : (world.captureEvent hub event).sent =
      world.sent ++ [(client, handed)])
    (bound : (world.hubs hub).client = some client)
    (active : (world.hubs hub).session = some session)
    (fine : session.status = .ok) :
    world.MarksByBody hub client event ↔
      (CountsAsError event.level ↔ CountsAsError (bodyLevel handed.body)) := by
  constructor
  · intro marks
    rw [← errored_iff event bound active fine]
    exact marks handed sent
  · intro agrees envelope other
    have same : handed = envelope := by
      rw [sent] at other
      simpa using other
    rw [errored_iff event bound active fine, ← same]
    exact agrees

/-- The session is marked by the level in the delivered body if and only if
nothing is delivered, the event has a level, or the scope brings none below
error. -/
theorem marksByBody_iff {world : World} {hub : HubId} {client : ClientId}
    {session : Session} (event : ErrorEvent)
    (bound : (world.hubs hub).client = some client)
    (active : (world.hubs hub).session = some session)
    (fine : session.status = .ok)
    (bare : (world.clients client).client.options.integrations = [])
    (unhooked : (world.clients client).client.options.beforeSend = none)
    (keeps : (world.clients client).client.options.sampleRate.keepsAll = true) :
    world.MarksByBody hub client event ↔
      (world.clients client).client.isEnabled = false ∨
        event.level.isSome = true ∨
          CountsAsError ((world.hubs hub).scopes.top.level.map Level.asStr) := by
  have sent := captureEvent_sent bound bare unhooked keeps event
  cases enabled : (world.clients client).client.isEnabled with
  | false =>
      apply iff_of_true _ (.inl rfl)
      intro envelope handed
      rw [sent, enabled] at handed
      have lengths := congrArg List.length handed
      simp at lengths
  | true =>
      rw [enabled, if_pos rfl] at sent
      rw [marksByBody_of_sent sent bound active fine,
        Client.deliveredBody_level, laidOver_level]
      cases event.level with
      | some level =>
          apply iff_of_true _ (.inr (.inl rfl))
          exact Iff.rfl
      | none =>
          have open_ : CountsAsError none := .inl rfl
          rw [iff_true_left open_]
          simp

end World

end

namespace World

/-- The main hub with an open session, a client and a level on its scope. -/
def tracked (level : Option Level) : World :=
  let session : Session :=
    { sessionId := "11111111111111111111111111111111"
      release := "1.0"
      environment := none
      userId := none
      status := .ok
      started := 0 }
  (initial.newClient { apiKey := "key" }).2.onHub main fun hub =>
    { (hub.bindClient (some 0)).configureScope (fun scope => scope.setLevel level)
      with session := some session }

def unlevelled : ErrorEvent :=
  { eventId := 1, exceptionClass := "E", message := "m" }

theorem marksByBody_fatal :
    @MarksByBody asciiTables (tracked (some .fatal)) main 0 unlevelled := by
  apply (@marksByBody_iff asciiTables (tracked (some .fatal)) main 0 _
    unlevelled rfl rfl rfl rfl rfl rfl).mpr
  exact .inr (.inr (.inr (.inr rfl)))

/-- An event that goes out as information marks the session as errored. -/
theorem info_marks_errored :
    ((@captureEvent asciiTables main unlevelled
        (tracked (some .info))).hubs main).session.map Session.status =
        some .errored ∧
      ¬ @MarksByBody asciiTables (tracked (some .info)) main 0 unlevelled := by
  have errored := (@errored_iff asciiTables (tracked (some .info)) main 0 _
    unlevelled rfl rfl rfl).mpr (.inl rfl)
  refine ⟨errored, ?_⟩
  intro marks
  have sent := @captureEvent_sent asciiTables (tracked (some .info)) main 0 rfl
    rfl rfl rfl unlevelled
  rw [if_pos (by decide)] at sent
  have counts := (marks _ sent).mp errored
  rw [@Client.deliveredBody_level asciiTables] at counts
  exact absurd counts (by decide)

end World

end Allstak
