import Allstak.ClientRedaction

/-!
# The client's ledger

Every capture is counted once when it begins and ends in one drop or in one
envelope for the transport; a breadcrumb that its hook rejects is counted as a
drop without a capture.  The counters therefore balance between the calls.
-/

namespace Allstak

/-- A capture operation, or the filtering of a breadcrumb.  A breadcrumb is not
a capture, so its hook's turn is not the number of captures before it. -/
inductive ClientCall where
  | operate (operation : Operation)
  | filter (turn : Nat) (breadcrumb : Breadcrumb)

structure Ledger where
  counters : Counters := {}
  handed : List Envelope := []
  /-- Breadcrumbs rejected by `before_breadcrumb`. -/
  rejected : Nat := 0

/-- Each of some captures ended in a drop or in an envelope. -/
structure Settles (before after : Counters) (handed : List Envelope)
    (captures : Nat) : Prop where
  captured : after.eventsCaptured = before.eventsCaptured + captures
  ended : after.eventsDropped + handed.length = before.eventsDropped + captures
  grows : before.eventsDropped ≤ after.eventsDropped

namespace Client

private theorem sample_counts (client : Client) (counters : Counters) :
    (client.sample counters).2.eventsCaptured = counters.eventsCaptured ∧
      (client.sample counters).2.eventsDropped = counters.eventsDropped := by
  rw [sample]
  split
  · exact ⟨rfl, rfl⟩
  · split <;> exact ⟨rfl, rfl⟩

variable [UnicodeTables]

def call (client : Client) (ledger : Ledger) : ClientCall → Ledger
  | .operate operation =>
      let performed := client.perform operation ledger.counters
      { ledger with
        counters := performed.1
        handed := ledger.handed ++ performed.2 }
  | .filter turn breadcrumb =>
      let processed := client.processBreadcrumb turn breadcrumb ledger.counters
      { ledger with
        counters := processed.2
        rejected := ledger.rejected + if processed.1.isNone then 1 else 0 }

/-- The ledger of a new client after some calls. -/
def ledger (client : Client) (calls : List ClientCall) : Ledger :=
  calls.foldl client.call {}

/-- A delivery is a drop or an envelope. -/
theorem deliver_counts (client : Client) (payload : Value) (path : String)
    (category : DataCategory) (counters : Counters) :
    let delivered := client.deliver payload path category counters
    delivered.1.eventsCaptured = counters.eventsCaptured ∧
      delivered.1.eventsDropped + delivered.2.length =
        counters.eventsDropped + 1 ∧
      counters.eventsDropped ≤ delivered.1.eventsDropped := by
  rw [deliver]
  split
  · exact ⟨rfl, rfl, Nat.le_refl _⟩
  · exact ⟨rfl, rfl, Nat.le_succ _⟩

private theorem capturePayload_settles (client : Client) (payload : Value)
    (path : String) (category : DataCategory) (counters : Counters) :
    let captured := client.capturePayload payload path category counters
    Settles counters captured.1 captured.2 1 := by
  obtain ⟨captured, ended, grows⟩ :=
    client.deliver_counts payload path category counters.captured
  exact ⟨captured, ended, grows⟩

/-- An empty batch is no capture. -/
theorem captureBatch_settles (client : Client) (name : String)
    (records : List Value) (path : String) (category : DataCategory)
    (counters : Counters) :
    let captured := client.captureBatch name records path category counters
    ∃ captures ≤ 1, Settles counters captured.1 captured.2 captures := by
  rw [captureBatch]
  split
  · exact ⟨0, Nat.zero_le 1, rfl, rfl, Nat.le_refl _⟩
  · exact ⟨1, Nat.le_refl 1, client.capturePayload_settles _ path category counters⟩

/-- All ways out of the pipeline: a hook drops the event, the sampler drops it,
or it is delivered. -/
theorem captureEvent_settles (client : Client) (event : ErrorEvent)
    (scope : Scope) (counters : Counters) :
    let captured := client.captureEvent event scope counters
    Settles counters captured.1 captured.2 1 := by
  rw [captureEvent]
  dsimp only
  cases processed : client.processEvent counters.eventsCaptured event scope with
  | none => exact ⟨rfl, rfl, Nat.le_succ _⟩
  | some event =>
      obtain ⟨captured, dropped⟩ := client.sample_counts counters.captured
      dsimp only
      cases kept : (client.sample counters.captured).1 with
      | true =>
          obtain ⟨deliveredCaptured, ended, grows⟩ :=
            client.deliver_counts event.toValue "/ingest/v1/errors" .error
              (client.sample counters.captured).2
          rw [dropped] at ended grows
          rw [if_pos rfl]
          exact ⟨deliveredCaptured.trans captured, ended, grows⟩
      | false =>
          rw [if_neg (by simp)]
          refine ⟨captured, congrArg (· + 1) dropped, ?_⟩
          exact dropped.ge.trans (Nat.le_succ _)

theorem perform_settles (client : Client) (operation : Operation)
    (counters : Counters) :
    let performed := client.perform operation counters
    ∃ captures ≤ 1, Settles counters performed.1 performed.2 captures := by
  cases operation with
  | captureEvent event scope =>
      exact ⟨1, Nat.le_refl 1, client.captureEvent_settles event scope counters⟩
  | captureSpans spans => exact client.captureBatch_settles _ _ _ _ counters
  | captureHttpRequests requests =>
      exact client.captureBatch_settles _ _ _ _ counters
  | captureDbQueries queries => exact client.captureBatch_settles _ _ _ _ counters
  | captureLog | sendSessionStart | sendSessionEnd | sendHeartbeat | sendRelease =>
      exact ⟨1, Nat.le_refl 1, client.capturePayload_settles _ _ _ counters⟩

/-- A client without a transport hands over nothing. -/
theorem perform_disabled (client : Client) (operation : Operation)
    (counters : Counters) (disabled : client.isEnabled = false) :
    (client.perform operation counters).2 = [] := by
  have delivers (payload : Value) (path : String) (category : DataCategory)
      (counters : Counters) :
      (client.deliver payload path category counters).2 = [] := by
    rw [deliver, disabled]
    rfl
  have batches (name : String) (records : List Value) (path : String)
      (category : DataCategory) :
      (client.captureBatch name records path category counters).2 = [] := by
    rw [captureBatch]
    split
    · rfl
    · exact delivers _ _ _ _
  cases operation with
  | captureEvent event scope =>
      change (client.captureEvent event scope counters).2 = []
      rw [captureEvent]
      dsimp only
      split
      · rfl
      · split
        · exact delivers _ _ _ _
        · rfl
  | captureSpans | captureHttpRequests | captureDbQueries =>
      exact batches _ _ _ _
  | captureLog | sendSessionStart | sendSessionEnd | sendHeartbeat | sendRelease =>
      exact delivers _ _ _ _

/-- What the ledger keeps between the calls. -/
structure Balanced (client : Client) (ledger : Ledger) : Prop where
  balance :
    ledger.counters.eventsCaptured + ledger.rejected =
      ledger.counters.eventsDropped + ledger.handed.length
  disabled : client.isEnabled = false → ledger.handed = []

theorem Balanced.call {client : Client} {ledger : Ledger}
    (balanced : client.Balanced ledger) (call : ClientCall) :
    client.Balanced (client.call ledger call) := by
  obtain ⟨balance, disabled⟩ := balanced
  cases call with
  | operate operation =>
      obtain ⟨captures, -, captured, ended, -⟩ :=
        client.perform_settles operation ledger.counters
      constructor
      · simp only [Client.call, List.length_append]
        omega
      · intro off
        simp only [Client.call, disabled off,
          client.perform_disabled operation ledger.counters off,
          List.append_nil]
  | filter turn breadcrumb =>
      refine ⟨?_, disabled⟩
      have counted :
          (client.processBreadcrumb turn breadcrumb ledger.counters).2 =
            if (client.processBreadcrumb turn breadcrumb
                ledger.counters).1.isNone then ledger.counters.dropped
            else ledger.counters := rfl
      simp only [Client.call, counted]
      split
      · simp only [Counters.dropped]
        omega
      · exact balance

/-- After any calls, the captures and the rejected breadcrumbs are the drops and
the envelopes handed to the transport; a disabled client hands over none, and a
captured event is one envelope at most. -/
theorem ledger_balanced (client : Client) (calls : List ClientCall) :
    let ledger := client.ledger calls
    ledger.counters.eventsCaptured + ledger.rejected =
        ledger.counters.eventsDropped + ledger.handed.length ∧
      (client.isEnabled = false → ledger.handed.length = 0) ∧
      ∀ event scope counters,
        (client.captureEvent event scope counters).2.length ≤ 1 := by
  have balanced : client.Balanced (client.ledger calls) := by
    rw [ledger]
    refine List.foldlRecOn calls client.call ⟨rfl, fun _ => rfl⟩ ?_
    exact fun ledger balanced call _ => balanced.call call
  refine ⟨balanced.balance, ?_, ?_⟩
  · intro disabled
    rw [balanced.disabled disabled]
    rfl
  · intro event scope counters
    obtain ⟨-, ended, grows⟩ := client.captureEvent_settles event scope counters
    omega

end Client

end Allstak
