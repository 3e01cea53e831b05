import Mathlib.Data.Nat.Count
import Allstak.ClientLedger

/-!
# The sampler over a run

A client that keeps a fraction of its events rolls for each event that gets past
the integrations and `before_send`.  The rolls go through the thousand buckets
in order, so that any thousand of them in a row keep the same number of events,
wherever in a run they begin.
-/

namespace Allstak

def Envelope.isErrorEvent (envelope : Envelope) : Bool :=
  envelope.path == "/ingest/v1/errors"

namespace SampleRate

/-- Between none and all. -/
def IsFraction (rate : SampleRate) : Prop :=
  rate.keepsAll = false ∧ rate.dropsAll = false

/-- The roll with this number is kept. -/
def Keeps (rate : SampleRate) (roll : Nat) : Prop :=
  rate.admitsBucket (roll % 1000) = true

instance (rate : SampleRate) : DecidablePred rate.Keeps :=
  fun roll =>
    inferInstanceAs (Decidable (rate.admitsBucket (roll % 1000) = true))

/-- How many of a thousand rolls in a row are kept. -/
def keptPerThousand (rate : SampleRate) : Nat := Nat.count rate.Keeps 1000

private theorem keeps_shifted (rate : SampleRate) (roll : Nat) :
    rate.Keeps (1000 + roll) ↔ rate.Keeps roll := by
  rw [Keeps, Keeps, Nat.add_mod_left]

private theorem count_shifted (rate : SampleRate) (rolls : Nat) :
    Nat.count (fun roll => rate.Keeps (1000 + roll)) rolls =
      Nat.count rate.Keeps rolls := by
  simp only [rate.keeps_shifted]

/-- A whole number of thousands adds its share, from any roll on. -/
theorem count_add_thousands (rate : SampleRate) (start thousands : Nat) :
    Nat.count rate.Keeps (start + 1000 * thousands) =
      Nat.count rate.Keeps start + thousands * rate.keptPerThousand := by
  induction thousands with
  | zero => simp
  | succ thousands induction =>
      have later : start + 1000 * (thousands + 1) =
          1000 + (start + 1000 * thousands) := by
        omega
      rw [later, Nat.count_add, rate.count_shifted, induction, Nat.succ_mul,
        keptPerThousand]
      omega

end SampleRate

namespace Client

/-- What one operation does to the rolls and the error events handed over. -/
def Rolls (client : Client) (before after : Counters)
    (handed : List Envelope) : Prop :=
  (after.sampleCounter = before.sampleCounter ∧
      handed.countP Envelope.isErrorEvent = 0) ∨
    (after.sampleCounter = before.sampleCounter + 1 ∧
      handed.countP Envelope.isErrorEvent =
        if client.options.sampleRate.Keeps before.sampleCounter then 1 else 0)

section

variable [UnicodeTables]

theorem deliver_rolls (client : Client) (payload : Value) {path : String}
    (other : path ≠ "/ingest/v1/errors") (category : DataCategory)
    (counters : Counters) :
    client.Rolls counters
      (client.deliver payload path category counters).1
      (client.deliver payload path category counters).2 := by
  left
  rw [deliver]
  split
  · exact ⟨rfl, by simp [Envelope.isErrorEvent, other]⟩
  · exact ⟨rfl, rfl⟩

theorem captureBatch_rolls (client : Client) (name : String)
    (records : List Value) {path : String} (other : path ≠ "/ingest/v1/errors")
    (category : DataCategory) (counters : Counters) :
    client.Rolls counters
      (client.captureBatch name records path category counters).1
      (client.captureBatch name records path category counters).2 := by
  rw [captureBatch]
  split
  · exact .inl ⟨rfl, rfl⟩
  · exact client.deliver_rolls _ other category counters.captured

/-- An event is stopped by a hook before it is rolled for, or it is rolled for
and handed over when its bucket is admitted. -/
theorem captureEvent_rolls {client : Client} (enabled : client.isEnabled = true)
    (fraction : client.options.sampleRate.IsFraction) (event : ErrorEvent)
    (scope : Scope) (counters : Counters) :
    client.Rolls counters (client.captureEvent event scope counters).1
      (client.captureEvent event scope counters).2 := by
  rw [captureEvent]
  dsimp only
  cases client.processEvent counters.eventsCaptured event scope with
  | none => exact .inl ⟨rfl, rfl⟩
  | some event =>
      right
      simp only [sample, fraction.1, fraction.2, Bool.false_eq_true, if_false,
        Counters.captured, deliver, enabled, if_true]
      split
      · rename_i admitted
        have kept : client.options.sampleRate.Keeps counters.sampleCounter :=
          admitted
        rw [if_pos kept]
        exact ⟨rfl, rfl⟩
      · rename_i refused
        have dropped :
            ¬ client.options.sampleRate.Keeps counters.sampleCounter :=
          refused
        rw [if_neg dropped]
        exact ⟨rfl, rfl⟩

theorem call_rolls {client : Client} (enabled : client.isEnabled = true)
    (fraction : client.options.sampleRate.IsFraction) (ledger : Ledger)
    (call : ClientCall) :
    ∃ handed, (client.call ledger call).handed = ledger.handed ++ handed ∧
      client.Rolls ledger.counters (client.call ledger call).counters
        handed := by
  cases call with
  | filter turn breadcrumb =>
      refine ⟨[], (List.append_nil _).symm, .inl ⟨?_, rfl⟩⟩
      have answered :
          (client.processBreadcrumb turn breadcrumb ledger.counters).2 =
            if (client.processBreadcrumb turn breadcrumb
                ledger.counters).1.isNone then ledger.counters.dropped
            else ledger.counters := rfl
      simp only [Client.call, answered]
      split <;> rfl
  | operate operation =>
      refine ⟨_, rfl, ?_⟩
      simp only [Client.call]
      cases operation with
      | captureEvent event scope =>
          exact captureEvent_rolls enabled fraction event scope ledger.counters
      | captureSpans | captureHttpRequests | captureDbQueries =>
          exact client.captureBatch_rolls _ _ (by decide) _ ledger.counters
      | captureLog | sendSessionStart | sendSessionEnd | sendHeartbeat
      | sendRelease =>
          exact client.deliver_rolls _ (by decide) _ ledger.counters.captured

/-- The error events handed over are the rolls that were kept. -/
def ErrorsKept (client : Client) (ledger : Ledger) : Prop :=
  ledger.handed.countP Envelope.isErrorEvent =
    Nat.count client.options.sampleRate.Keeps ledger.counters.sampleCounter

theorem ErrorsKept.call {client : Client} (enabled : client.isEnabled = true)
    (fraction : client.options.sampleRate.IsFraction) {ledger : Ledger}
    (counted : client.ErrorsKept ledger) (call : ClientCall) :
    client.ErrorsKept (client.call ledger call) := by
  obtain ⟨handed, appended, rolls⟩ := call_rolls enabled fraction ledger call
  rw [ErrorsKept, appended, List.countP_append, counted]
  rcases rolls with ⟨same, none⟩ | ⟨rolled, kept⟩
  · rw [same, none, Nat.add_zero]
  · rw [rolled, kept, Nat.count_succ]

private theorem errorsKept_ledger {client : Client}
    (enabled : client.isEnabled = true)
    (fraction : client.options.sampleRate.IsFraction)
    (calls : List ClientCall) : client.ErrorsKept (client.ledger calls) := by
  have initial : client.ErrorsKept {} := rfl
  exact List.foldlRecOn calls client.call initial
    fun ledger counted call _ => counted.call enabled fraction call

/-- Whatever else the client does, the events captured while it rolls a whole
number of thousand times keep exactly their share, wherever the rolls begin. -/
theorem thousands_keep_their_share (client : Client)
    (enabled : client.isEnabled = true)
    (fraction : client.options.sampleRate.IsFraction)
    (earlier later : List ClientCall) (thousands : Nat)
    (rolled : (client.ledger (earlier ++ later)).counters.sampleCounter =
      (client.ledger earlier).counters.sampleCounter + 1000 * thousands) :
    (client.ledger (earlier ++ later)).handed.countP Envelope.isErrorEvent =
      (client.ledger earlier).handed.countP Envelope.isErrorEvent +
        thousands * client.options.sampleRate.keptPerThousand := by
  rw [errorsKept_ledger enabled fraction, errorsKept_ledger enabled fraction,
    rolled, SampleRate.count_add_thousands]

/-- Half of the events, the first of each pair. -/
def halvingClient : Client where
  options :=
    { apiKey := "key"
      sendDefaultPii := true
      sampleRate :=
        { keepsAll := false
          dropsAll := false
          admitsBucket := fun bucket => bucket % 2 == 0 } }

def failure : ErrorEvent :=
  { eventId := 7, exceptionClass := "Error", message := "failed" }

/-- Nothing stops the event before the sampler. -/
theorem failure_rolls (ledger : Ledger) :
    (halvingClient.call ledger (.operate
        (.captureEvent failure (Scope.new 100)))).counters.sampleCounter =
      ledger.counters.sampleCounter + 1 := by
  have sampled : halvingClient.processEvent ledger.counters.eventsCaptured
      failure (Scope.new 100) = some ((Scope.new 100).applyToEvent
        (halvingClient.applyDefaults failure)) := rfl
  have rolled : halvingClient.sample ledger.counters.captured =
      (ledger.counters.sampleCounter % 1000 % 2 == 0,
        { ledger.counters.captured with
          sampleCounter := ledger.counters.sampleCounter + 1 }) := rfl
  simp only [Client.call, perform, captureEvent, sampled, rolled]
  split <;> rfl

theorem failures_roll (ledger : Ledger) (count : Nat) :
    ((List.replicate count
        (.operate (.captureEvent failure (Scope.new 100)))).foldl
          halvingClient.call ledger).counters.sampleCounter =
      ledger.counters.sampleCounter + count := by
  induction count generalizing ledger with
  | zero => rfl
  | succ count induction =>
      rw [List.replicate_succ, List.foldl_cons, induction, failure_rolls]
      omega

end

/-- Three failures and a thousand more; of the thousand, half are kept. -/
theorem thousands_keep_their_share_halved :
    let _ := asciiTables
    let fail : ClientCall := .operate (.captureEvent failure (Scope.new 100))
    (halvingClient.ledger
        (List.replicate 3 fail ++ List.replicate 1000 fail)).handed.countP
          Envelope.isErrorEvent =
      (halvingClient.ledger (List.replicate 3 fail)).handed.countP
        Envelope.isErrorEvent +
          1 * halvingClient.options.sampleRate.keptPerThousand := by
  intro _ fail
  apply thousands_keep_their_share halvingClient rfl ⟨rfl, rfl⟩
  rw [ledger, List.foldl_append, failures_roll]
  rfl

end Client

end Allstak
