import Allstak.BreadcrumbCap
import Allstak.ClientLedger
import Allstak.Transport.Quiescence

/-!
# Diagnostics, from the capture to the server

What `get_diagnostics` reads on a client and on a hub.  A client and its
transport form one system: a capture call that ends in an envelope begins a
send on the calling thread, and from then on the transport moves by itself.
Whenever it has come to rest, the reading of the client balances.
-/

namespace Allstak

open Transport (TransportDiagnostics)

structure Diagnostics where
  eventsCaptured : Nat := 0
  eventsSent : Nat := 0
  eventsFailed : Nat := 0
  eventsDropped : Nat := 0
  eventsPersisted : Nat := 0
  eventsReplayed : Nat := 0
  queueSize : Nat := 0
  retryAttempts : Nat := 0
  rateLimitedCount : Nat := 0
  compressedPayloads : Nat := 0
  uncompressedPayloads : Nat := 0
  compressionBytesSaved : Nat := 0
  sanitizerRedactionCount : Nat := 0
  activeTraceCount : Nat := 0
  activeSpanCount : Nat := 0
  breadcrumbCount : Nat := 0
  sessionRecoveryCount : Nat := 0
  disabled : Bool := false
  deriving DecidableEq

/-- `transport` is the reading of the client's transport, if it has one. -/
def Client.getDiagnostics (counters : Counters)
    (transport : Option TransportDiagnostics) (redactionCount : Nat) :
    Diagnostics :=
  let tx := transport.getD {}
  { eventsCaptured := max counters.eventsCaptured tx.eventsCaptured
    eventsSent := tx.eventsSent
    eventsFailed := tx.eventsFailed
    eventsDropped := counters.eventsDropped + tx.eventsDropped
    eventsPersisted := tx.eventsPersisted
    eventsReplayed := tx.eventsReplayed
    queueSize := tx.queueSize
    retryAttempts := tx.retryAttempts
    rateLimitedCount := tx.rateLimitedCount
    compressedPayloads := tx.compressedPayloads
    uncompressedPayloads := tx.uncompressedPayloads
    compressionBytesSaved := tx.compressionBytesSaved
    sanitizerRedactionCount := redactionCount
    disabled := transport.isNone || tx.disabled }

/-- The client's reading, with what the hub's top scope carries. -/
def World.getDiagnostics (hub : HubId)
    (transports : ClientId → Option TransportDiagnostics) (redactionCount : Nat)
    (world : World) : Diagnostics :=
  let diagnostics :=
    match (world.hubs hub).client with
    | some client =>
        Client.getDiagnostics (world.clients client).counters
          (transports client)
          redactionCount
    | none => { disabled := true, sanitizerRedactionCount := redactionCount }
  let scope := (world.hubs hub).scopes.top
  { diagnostics with
    activeTraceCount := if scope.traceId.isSome then 1 else 0
    activeSpanCount := if scope.spanId.isSome then 1 else 0
    breadcrumbCount := scope.breadcrumbs.length }

namespace Pipeline

structure State where
  ledger : Ledger := {}
  transport : Transport.State

inductive Label where
  /-- A call of the client by a thread of the transport's callers. -/
  | call (thread : Nat) (call : ClientCall)
  | transport (label : Transport.Label)

/-- Only the client sends. -/
def sends : Transport.Label → Bool
  | .thread _ (.send _) => true
  | _ => false

/-- The thread gives these envelopes to `send_envelope`. -/
def handOver (thread : Nat) (envelopes : List Envelope) : List
    Transport.Label :=
  envelopes.map fun envelope => .thread thread (.send envelope)

theorem sent_handOver {settings : Transport.Settings} {thread : Nat}
    {envelopes : List Envelope} {before after : Transport.State}
    (run : (Transport.machine settings).exec before
      (handOver thread envelopes) =
      some after) :
    after.sent = before.sent + envelopes.length := by
  induction envelopes generalizing before with
  | nil =>
      cases run
      rfl
  | cons envelope envelopes induction =>
      obtain ⟨middle, moved, rest⟩ := Option.bind_eq_some_iff.mp run
      have later := induction rest
      have stepped : Transport.step settings before
          (.thread thread (.send envelope)) = some middle := moved
      rcases Transport.step_cases stepped with
        ⟨index, activity, action, same, found, move⟩ | ⟨action, same, move⟩
      · cases same
        cases move
        simp only [Transport.State.setThread] at later
        rw [later, List.length_cons]
        omega
      · cases same

theorem sent_step {settings : Transport.Settings}
    {before after : Transport.State}
    {label : Transport.Label} (quiet : sends label = false)
    (moved : Transport.step settings before label = some after) :
    after.sent = before.sent := by
  rcases Transport.step_cases moved with
    ⟨index, activity, action, rfl, found, move⟩ | ⟨action, rfl, move⟩
  · cases move with
    | send => cases quiet
    | spooling persisted | spooled persisted =>
        obtain ⟨_, _, _, _, _, _, _, rfl⟩ := persisted.frame
        rfl
    | taken | unheard | timeout | acknowledge =>
        exact Transport.State.sent_endFlush _ _ _ _
    | _ => rfl
  · exact (move.custody 0 rfl).2

structure Linked (client : Client) (settings : Transport.Settings)
    (state : State) : Prop where
  reached : (Transport.machine settings).Reachable state.transport
  balanced : client.Balanced state.ledger
  rejected : state.ledger.rejected ≤ state.ledger.counters.eventsDropped
  sent : state.transport.sent = state.ledger.handed.length

/-- The counts of a state with whole calls and whole deliveries: each capture,
and each breadcrumb the hook rejected, was sent, stored or dropped, or is in
flight. -/
theorem Linked.balance {client : Client} {settings : Transport.Settings}
    {state : State} (linked : Linked client settings state) :
    state.transport.counters.eventsCaptured ≤
        state.ledger.counters.eventsCaptured ∧
      state.ledger.counters.eventsCaptured + state.ledger.rejected +
          state.transport.counters.eventsReplayed +
          state.transport.replayDrops =
        state.transport.counters.eventsSent +
          state.transport.counters.eventsPersisted +
          (state.ledger.counters.eventsDropped +
            state.transport.counters.eventsDropped) +
          state.transport.inFlight.length +
          state.transport.vanished.length := by
  obtain ⟨inside, balanced, rejected, sent⟩ := linked
  obtain ⟨-, captured, taken, stored⟩ :=
    Transport.reconciled_of_reachable inside
  have dropped := (Transport.recorded_of_reachable inside).counted
  have lengths := Transport.sent_eq_lengths inside
  have balance := balanced.balance
  omega

section

variable [UnicodeTables]

def step (client : Client) (settings : Transport.Settings) (state : State) :
    Label → Option State
  | .call thread call =>
      let ledger := client.call state.ledger call
      let handed := ledger.handed.drop state.ledger.handed.length
      ((Transport.machine settings).exec state.transport
          (handOver thread handed)).map fun transport => { ledger, transport }
  | .transport label =>
      if sends label then none
      else
        (Transport.step settings state.transport label).map fun transport =>
          { state with transport }

def machine (client : Client) (settings : Transport.Settings) :
    Library.Machine State Label where
  start state := state.ledger = {} ∧ Transport.Starts state.transport
  next := step client settings

theorem call_handed (client : Client) (ledger : Ledger) (call : ClientCall) :
    ∃ handed, (client.call ledger call).handed = ledger.handed ++ handed := by
  cases call with
  | operate operation => exact ⟨_, rfl⟩
  | filter => exact ⟨[], (List.append_nil _).symm⟩

/-- A rejected breadcrumb is a drop. -/
theorem call_rejected {client : Client} {ledger : Ledger}
    (call : ClientCall) (counted : ledger.rejected ≤
      ledger.counters.eventsDropped) :
    (client.call ledger call).rejected ≤
      (client.call ledger call).counters.eventsDropped := by
  cases call with
  | operate operation =>
      obtain ⟨captures, -, -, -, grows⟩ :=
        client.perform_settles operation ledger.counters
      exact counted.trans grows
  | filter turn breadcrumb =>
      have answered :
          (client.processBreadcrumb turn breadcrumb ledger.counters).2 =
            if (client.processBreadcrumb turn breadcrumb
                ledger.counters).1.isNone then ledger.counters.dropped
            else ledger.counters := rfl
      simp only [Client.call, answered]
      split
      · exact Nat.succ_le_succ counted
      · exact counted

theorem linked_of_reachable {client : Client} {settings : Transport.Settings}
    {state : State} (reached : (machine client settings).Reachable state) :
    Linked client settings state := by
  apply reached.induct
  · rintro ⟨ledger, transport⟩ ⟨rfl, started⟩
    refine ⟨.start started, ⟨rfl, fun _ => rfl⟩, Nat.le_refl 0, ?_⟩
    obtain ⟨calls, directory, spawned, -, -, rfl⟩ := started
    rfl
  · intro before label after linked _ moved
    cases label with
    | call thread call =>
        obtain ⟨transport, run, rfl⟩ := Option.map_eq_some_iff.mp moved
        obtain ⟨handed, appended⟩ := call_handed client before.ledger call
        refine ⟨linked.reached.execWhere (fun _ _ _ => trivial) run,
          linked.balanced.call call, call_rejected call linked.rejected, ?_⟩
        rw [appended, List.drop_left] at run
        rw [sent_handOver run, linked.sent, appended, List.length_append]
    | transport label =>
        dsimp only [machine, step] at moved
        split at moved
        · cases moved
        · rename_i quiet
          obtain ⟨transport, stepped, rfl⟩ := Option.map_eq_some_iff.mp moved
          refine ⟨.step linked.reached trivial stepped, linked.balanced,
            linked.rejected, ?_⟩
          rw [← linked.sent]
          exact sent_step (Bool.eq_false_of_not_eq_true quiet) stepped

/-- When no call is under way and the worker waits or has ended, what the
diagnostics of a client say adds up: each capture, and each breadcrumb its hook
rejected, was sent, stored or dropped, or was lost with a worker that died.  A
replay counts an envelope a second time, and so does a drop during a replay.
After a joined shutdown, with no send going on, nothing is in flight. -/
theorem telemetry_accounted (client : Client) (settings : Transport.Settings)
    (redactionCount : Nat) (state : State)
    (reached : (machine client settings).Reachable state) :
    let read := Client.getDiagnostics state.ledger.counters
      (some (state.transport.diagnostics settings)) redactionCount
    (state.transport.Quiescent →
        read.eventsCaptured = state.ledger.counters.eventsCaptured ∧
          read.eventsCaptured + state.ledger.rejected + read.eventsReplayed +
              state.transport.replayDrops =
            read.eventsSent + read.eventsPersisted + read.eventsDropped +
              state.transport.vanished.length) ∧
      (state.transport.handle = false →
        state.transport.handleLocked = false →
        state.transport.holding .handover = [] →
        state.transport.inFlight = []) := by
  have linked := linked_of_reachable reached
  have closing := Transport.closing_of_reachable linked.reached
  constructor
  · intro resting
    obtain ⟨fewer, balance⟩ := linked.balance
    rw [resting.inFlight] at balance
    have most : max state.ledger.counters.eventsCaptured
        state.transport.counters.eventsCaptured =
          state.ledger.counters.eventsCaptured := Nat.max_eq_left fewer
    refine ⟨most, ?_⟩
    simp only [Client.getDiagnostics, Option.getD_some,
      Transport.State.diagnostics, TransportCounters.snapshot, most]
    exact balance
  · intro taken unlocked idle
    have finished : state.transport.worker.isOver = true := by
      rcases closing.joined taken with locked | finished
      · rw [unlocked] at locked
        cases locked
      · exact finished
    have hands : state.transport.holding .worker = [] :=
      Transport.State.hands_eq_nil_of_isOver finished
    have channel : state.transport.holding .channel = [] := by
      change state.transport.channel = []
      rw [Transport.State.channel, closing.emptied finished]
      rfl
    rw [Transport.State.inFlight, idle, hands, channel]
    rfl

end

/-- A client that rejects every breadcrumb. -/
def quietClient : Client where
  options :=
    { apiKey := "key"
      sendDefaultPii := true
      beforeBreadcrumb := some fun _ _ => none }

/-- One log finds no room, and one breadcrumb is rejected. -/
theorem telemetry_accounted_overflow :
    ∃ state : State, state.ledger.counters.eventsCaptured = 1 ∧
      state.ledger.rejected = 1 ∧ state.transport.sent = 1 ∧
      let read := Client.getDiagnostics state.ledger.counters
        (some (state.transport.diagnostics (Transport.unspooled 0))) 0
      read.eventsCaptured + state.ledger.rejected + read.eventsReplayed +
          state.transport.replayDrops =
        read.eventsSent + read.eventsPersisted + read.eventsDropped +
          state.transport.vanished.length := by
  let _ := asciiTables
  have run :
      ((machine quietClient (Transport.unspooled 0)).exec
        { transport := Transport.oneThread }
        [.call 0 (.operate (.captureLog { level := "info", message :=
          "ready" })),
          .call 0 (.filter 1 (BreadcrumbCap.note "clicked")),
          .transport (.thread 0 .lock), .transport (.thread 0 (.offer false)),
          .transport (.thread 0 (.spool (.begin true none))),
          .transport (.worker (.build true))]).map
          (fun state =>
            (state.ledger.counters.eventsCaptured, state.ledger.rejected,
              state.transport.sent, state.transport.isQuiescent)) =
        some (1, 1, 1, true) := by decide
  obtain ⟨state, executed, seen⟩ := Option.map_eq_some_iff.mp run
  simp only [Prod.mk.injEq] at seen
  obtain ⟨captured, rejected, sent, resting⟩ := seen
  have started : (machine quietClient (Transport.unspooled 0)).start
      { transport := Transport.oneThread } := ⟨rfl, Transport.oneThread_starts⟩
  have reached := Library.Machine.reachable_of_exec started executed
  obtain ⟨reads, -⟩ :=
    telemetry_accounted quietClient (Transport.unspooled 0) 0 state reached
  exact ⟨state, captured, rejected, sent,
    (reads (Transport.State.quiescent_of_test resting)).2⟩

end Pipeline

end Allstak
