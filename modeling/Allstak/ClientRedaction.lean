import Allstak.Client
import Allstak.ScrubRedaction

/-!
# Sensitive keys on the wire

A run of capture operations, the payloads it gives to `deliver`, and the
envelope bodies that reach the transport.  With `send_default_pii` off every
body is a scrubbed payload, so the promise about sensitive keys holds of the
bodies exactly when it is not broken below an identity key of a payload.
-/

namespace Allstak

/-- The client's capture operations.  A single span or request is a batch of
one. -/
inductive Operation where
  | captureEvent (event : ErrorEvent) (scope : Scope)
  | captureSpans (spans : List SpanRecord)
  | captureLog (log : LogRecord)
  | captureHttpRequests (requests : List HttpRequestRecord)
  | captureDbQueries (queries : List DbQueryRecord)
  | sendSessionStart (start : SessionStart)
  | sendSessionEnd (ending : SessionEnd)
  | sendHeartbeat (heartbeat : Heartbeat)
  | sendRelease (release : ReleaseRegistration)

namespace Client

section

variable [UnicodeTables]

def perform (client : Client) : Operation → Counters → Counters × List Envelope
  | .captureEvent event scope => client.captureEvent event scope
  | .captureSpans spans => client.captureSpans spans
  | .captureLog log => client.captureLog log
  | .captureHttpRequests requests => client.captureHttpRequests requests
  | .captureDbQueries queries => client.captureDbQueries queries
  | .sendSessionStart start => client.sendSessionStart start
  | .sendSessionEnd ending => client.sendSessionEnd ending
  | .sendHeartbeat heartbeat => client.sendHeartbeat heartbeat
  | .sendRelease release => client.sendRelease release

/-- The error event that leaves the hooks and is kept by the sampler. -/
def keptEvent (client : Client) (event : ErrorEvent) (scope : Scope)
    (counters : Counters) : Option ErrorEvent :=
  if (client.sample counters.captured).1 then
    client.processEvent counters.eventsCaptured event scope
  else none

private def batchPayload (name : String) (records : List Value) : Option Value :=
  if records.isEmpty then none else some (batch name records)

/-- What an operation serializes for delivery, when it delivers at all. -/
def payload (client : Client) (operation : Operation) (counters : Counters) :
    Option Value :=
  match operation with
  | .captureEvent event scope =>
      (client.keptEvent event scope counters).map ErrorEvent.toValue
  | .captureSpans spans => batchPayload "spans" (spans.map SpanRecord.toValue)
  | .captureLog log => some log.toValue
  | .captureHttpRequests requests =>
      batchPayload "requests" (requests.map HttpRequestRecord.toValue)
  | .captureDbQueries queries =>
      batchPayload "queries" (queries.map DbQueryRecord.toValue)
  | .sendSessionStart start => some start.toValue
  | .sendSessionEnd ending => some ending.toValue
  | .sendHeartbeat heartbeat => some heartbeat.toValue
  | .sendRelease release => some release.toValue

/-- The envelopes a sequence of operations hands to the transport. -/
def run (client : Client) : List Operation → Counters → List Envelope
  | [], _ => []
  | operation :: operations, counters =>
      (client.perform operation counters).2 ++
        client.run operations (client.perform operation counters).1

/-- The payloads the sequence gives to `deliver`. -/
def payloads (client : Client) : List Operation → Counters → List Value
  | [], _ => []
  | operation :: operations, counters =>
      (client.payload operation counters).toList ++
        client.payloads operations (client.perform operation counters).1

private theorem deliver_bodies (client : Client) (payload : Value)
    (path : String) (category : DataCategory) (counters : Counters)
    (enabled : client.isEnabled = true)
    (privateByDefault : client.options.sendDefaultPii = false) :
    (client.deliver payload path category counters).2.map Envelope.body =
      [scrubValue payload] := by
  simp [deliver, enabled, privateByDefault]

private theorem captureBatch_bodies (client : Client) (name : String)
    (records : List Value) (path : String) (category : DataCategory)
    (counters : Counters) (enabled : client.isEnabled = true)
    (privateByDefault : client.options.sendDefaultPii = false) :
    (client.captureBatch name records path category counters).2.map
        Envelope.body =
      (batchPayload name records).toList.map scrubValue := by
  unfold captureBatch batchPayload
  split
  · simp
  · simp [capturePayload, deliver_bodies, enabled, privateByDefault]

private theorem captureEvent_bodies (client : Client) (event : ErrorEvent)
    (scope : Scope) (counters : Counters) (enabled : client.isEnabled = true)
    (privateByDefault : client.options.sendDefaultPii = false) :
    (client.captureEvent event scope counters).2.map Envelope.body =
      ((client.keptEvent event scope counters).map
        ErrorEvent.toValue).toList.map scrubValue := by
  unfold captureEvent keptEvent
  cases processed : client.processEvent counters.eventsCaptured event scope with
  | none => simp [processed]
  | some event =>
      cases kept : (client.sample counters.captured).1 with
      | false => simp [processed, kept]
      | true =>
          simp [processed, kept, deliver_bodies, enabled, privateByDefault]

/-- One operation of an enabled private client hands over the scrubbed
payload and nothing else. -/
theorem perform_bodies (client : Client) (operation : Operation)
    (counters : Counters) (enabled : client.isEnabled = true)
    (privateByDefault : client.options.sendDefaultPii = false) :
    (client.perform operation counters).2.map Envelope.body =
      (client.payload operation counters).toList.map scrubValue := by
  cases operation with
  | captureEvent event scope =>
      exact captureEvent_bodies client event scope counters enabled
        privateByDefault
  | captureSpans spans | captureHttpRequests requests | captureDbQueries queries =>
      exact captureBatch_bodies client _ _ _ _ counters enabled privateByDefault
  | captureLog log | sendSessionStart start | sendSessionEnd ending
  | sendHeartbeat heartbeat | sendRelease release =>
      exact deliver_bodies client _ _ _ _ enabled privateByDefault

theorem run_bodies (client : Client) (operations : List Operation)
    (counters : Counters) (enabled : client.isEnabled = true)
    (privateByDefault : client.options.sendDefaultPii = false) :
    (client.run operations counters).map Envelope.body =
      (client.payloads operations counters).map scrubValue := by
  induction operations generalizing counters with
  | nil => rfl
  | cons operation operations induction =>
      simp only [run, payloads, List.map_append, induction,
        perform_bodies client operation counters enabled privateByDefault]

theorem run_of_disabled (client : Client) (operations : List Operation)
    (counters : Counters) (disabled : client.isEnabled = false) :
    client.run operations counters = [] := by
  induction operations generalizing counters with
  | nil => rfl
  | cons operation operations induction =>
      have nothing : (client.perform operation counters).2 = [] := by
        cases operation with
        | captureEvent event scope =>
            unfold perform captureEvent
            dsimp only
            split
            · rfl
            · split <;> simp [deliver, disabled]
        | captureSpans spans =>
            simp [perform, captureSpans, captureBatch, capturePayload, deliver,
              disabled]
            split <;> rfl
        | captureHttpRequests requests =>
            simp [perform, captureHttpRequests, captureBatch, capturePayload,
              deliver, disabled]
            split <;> rfl
        | captureDbQueries queries =>
            simp [perform, captureDbQueries, captureBatch, capturePayload,
              deliver, disabled]
            split <;> rfl
        | captureLog log =>
            simp [perform, captureLog, capturePayload, deliver, disabled]
        | sendSessionStart start =>
            simp [perform, sendSessionStart, capturePayload, deliver, disabled]
        | sendSessionEnd ending =>
            simp [perform, sendSessionEnd, capturePayload, deliver, disabled]
        | sendHeartbeat heartbeat =>
            simp [perform, sendHeartbeat, capturePayload, deliver, disabled]
        | sendRelease release =>
            simp [perform, sendRelease, capturePayload, deliver, disabled]
      simp [run, nothing, induction]

/-- With `send_default_pii` off, a run keeps the promise about sensitive keys
in every body it hands over exactly when each payload it delivers is guarded;
and so does a single call of the scrubber. -/
theorem handed_redacted_iff_payloads_guarded :
    (∀ value : Value, (scrubValue value).Redacted ↔ value.Guarded) ∧
      ∀ (client : Client) (operations : List Operation) (counters : Counters),
        client.options.sendDefaultPii = false →
          ((∀ envelope ∈ client.run operations counters,
              envelope.body.Redacted) ↔
            (client.isEnabled = true →
              ∀ payload ∈ client.payloads operations counters,
                payload.Guarded)) := by
  refine ⟨Value.redacted_scrubValue_iff, ?_⟩
  intro client operations counters privateByDefault
  by_cases enabled : client.isEnabled = true
  · have bodies := run_bodies client operations counters enabled privateByDefault
    calc
      (∀ envelope ∈ client.run operations counters, envelope.body.Redacted) ↔
          ∀ body ∈ (client.run operations counters).map Envelope.body,
            body.Redacted := by simp
      _ ↔ ∀ payload ∈ client.payloads operations counters,
            (scrubValue payload).Redacted := by simp [bodies]
      _ ↔ ∀ payload ∈ client.payloads operations counters,
            payload.Guarded := by simp only [Value.redacted_scrubValue_iff]
      _ ↔ _ := by simp [enabled]
  · have disabled : client.isEnabled = false := by simpa using enabled
    simp [run_of_disabled client operations counters disabled, disabled]

end

/-- User metadata with a nested password under the key `release`. -/
def nestedSecretLog : LogRecord :=
  { level := "info"
    message := "deploy"
    metadata := some (.object
      [("release", .object [("password", .string "hunter2")])]) }

def privateClient : Client := { options := { apiKey := "k" } }

/-- The scrubber does not enter the entry of `release`, so the password of the
log record reaches the transport. -/
theorem nestedSecretLog_leaks :
    privateClient.options.sendDefaultPii = false ∧
      ∃ envelope ∈ @run asciiTables privateClient
          [.captureLog nestedSecretLog] {},
        ¬ envelope.body.Redacted := by
  let _ := asciiTables
  have handed : privateClient.run [.captureLog nestedSecretLog] {} =
      [{ path := "/ingest/v1/logs"
         category := .log
         body := .object
          [("level", .string "info"), ("message", .string "deploy"),
            ("metadata", .object
              [("release", .object [("password", .string "hunter2")])])] }] := by
    rfl
  refine ⟨rfl, _, handed ▸ List.mem_cons_self, ?_⟩
  intro redacted
  have inRelease : Value.HasEntry "password" (.string "hunter2")
      (.object [("password", .string "hunter2")]) := .here List.mem_cons_self
  have inMetadata : Value.HasEntry "password" (.string "hunter2")
      (.object [("release", .object [("password", .string "hunter2")])]) :=
    .within List.mem_cons_self inRelease
  have inBody : Value.HasEntry "password" (.string "hunter2")
      (.object
        [("level", .string "info"), ("message", .string "deploy"),
          ("metadata", .object
            [("release", .object [("password", .string "hunter2")])])]) :=
    .within (List.mem_of_getLast? rfl) inMetadata
  have leaked := redacted _ _ inBody (by decide)
  simp [REDACTED] at leaked

theorem handed_redacted_iff_payloads_guarded_secret :
    (∀ envelope ∈ @run asciiTables privateClient
        [.captureLog nestedSecretLog] {}, envelope.body.Redacted) ↔
      (privateClient.isEnabled = true →
        ∀ payload ∈ @payloads asciiTables privateClient
          [.captureLog nestedSecretLog] {}, payload.Guarded) :=
  (@handed_redacted_iff_payloads_guarded asciiTables).2 privateClient
    [.captureLog nestedSecretLog] {} rfl

end Client

end Allstak
