import Allstak.Transport.Flush

/-!
# The queue gauge

`queue_size` is counted up after the channel took a message and counted down
after the worker received it.  The worker may be first; the subtraction then
stops at zero and the later addition leaves the gauge one too high for good.
A worker that dies forgets what its channel held.  Apart from these steps the
gauge is right whenever no thread and no worker stands between its two steps.
-/

namespace Allstak

namespace Transport

namespace Activity

/-- Between `try_send` and the addition. -/
def countsLater : Activity → Bool
  | .counting _ => true
  | _ => false

end Activity

/-- Between `recv` and the subtraction. -/
def Phase.uncountsLater : Phase → Bool
  | .received _ => true
  | _ => false

def Label.uncounts : Label → Bool
  | .worker .uncount => true
  | _ => false

theorem queueSize_untouched :
    TransportCounters.Untouched TransportCounters.queueSize where
  sent _ := rfl
  failed _ := rfl
  dropped _ := rfl
  retried _ := rfl
  rateLimited _ := rfl
  prepared counters body := by
    rw [TransportCounters.prepared]
    split <;> rfl

namespace State

/-- Nobody stands between its step on the channel and its step on the gauge. -/
def AtRest (state : State) : Prop :=
  state.threads.countP Activity.countsLater = 0 ∧
    state.worker.uncountsLater = false

instance (state : State) : Decidable state.AtRest :=
  inferInstanceAs (Decidable (_ ∧ _))

/-- `Dies` as a test. -/
def dies (settings : Settings) (state : State) : Label → Bool
  | .worker (.build succeeds) => !succeeds
  | .worker (.replay checkedAt exchanges) =>
      match state.worker with
      | .replaying _ _ envelope =>
          (Allstak.deliver settings.codec envelope state.limiter state.counters
            checkedAt exchanges).isNone
      | _ => false
  | .worker (.deliver checkedAt exchanges) =>
      match state.worker with
      | .delivering parcel =>
          (Allstak.deliver settings.codec parcel.envelope state.limiter
            state.counters checkedAt exchanges).isNone
      | _ => false
  | _ => false

theorem dies_iff {settings : Settings} {state : State} {label : Label} :
    state.dies settings label = true ↔ state.Dies settings label := by
  cases label with
  | thread index action => simp [dies, Dies]
  | worker action =>
      cases action with
      | replay | deliver =>
          simp only [dies, Dies]
          cases phase : state.worker <;> simp
      | _ => simp [dies, Dies]

/-- By how much a step makes the gauge and the channel differ for good: a death
by the envelopes in the channel, a subtraction before the addition by one. -/
def drift (settings : Settings) (state : State) (label : Label) : Nat :=
  if state.dies settings label then state.channel.length
  else if label.uncounts && state.counters.queueSize == 0 then 1
  else 0

/-- The gauge and the additions still due, against the channel, the subtraction
still due, and the drift so far. -/
def Balanced (state : State) (spent : Nat) : Prop :=
  state.counters.queueSize + state.threads.countP Activity.countsLater =
    state.channel.length + state.worker.uncountsLater.toNat + spent

theorem Balanced.congr {state after : State} {spent : Nat}
    (balanced : state.Balanced spent)
    (gauge : after.counters.queueSize = state.counters.queueSize)
    (channel : after.channel = state.channel)
    (threads : after.threads.countP Activity.countsLater =
      state.threads.countP Activity.countsLater)
    (worker : after.worker.uncountsLater = state.worker.uncountsLater) :
    after.Balanced spent := by
  unfold Balanced
  rw [gauge, channel, threads, worker]
  exact balanced

private theorem drift_of_dies {settings : Settings} {state : State}
    {label : Label} (dies : state.Dies settings label) :
    state.drift settings label = state.channel.length := by
  rw [drift, if_pos (dies_iff.mpr dies)]

private theorem drift_of_lives {settings : Settings} {state : State}
    {label : Label} (lives : ¬ state.Dies settings label) :
    state.drift settings label =
      if label.uncounts && state.counters.queueSize == 0 then 1 else 0 := by
  rw [drift, if_neg fun dies => lives (dies_iff.mp dies)]

theorem PersistMove.gauge {settings : Settings} {parcel : Parcel}
    {action : PersistAction} {stage : PersistStage}
    {next : Option PersistStage} {state after : State}
    (move : PersistMove settings parcel state action stage next after) :
    after.counters.queueSize = state.counters.queueSize ∧
      after.channel = state.channel := by
  cases move with
  | evicted =>
      rw [evictFile]
      split <;> exact ⟨rfl, rfl⟩
  | _ => exact ⟨rfl, rfl⟩

theorem ThreadMove.balanced {settings : Settings} {index : Nat}
    {activity : Activity} {action : ThreadAction} {state after : State}
    {spent : Nat} (found : state.threads[index]? = some activity)
    (move : ThreadMove settings index state activity action after)
    (balanced : state.Balanced spent) : after.Balanced spent := by
  have counted (new : Activity) :=
    @Library.Pool.countP_set _ Activity.countsLater _ _ _ new found
  have same (new : Activity) (plain : activity.countsLater = false)
      (still : new.countsLater = false) :
      (state.threads.set index new).countP Activity.countsLater =
        state.threads.countP Activity.countsLater := by
    simpa [plain, still] using counted new
  cases move with
  | @accepted parcel parked sender alive =>
      have moved := counted (.counting parcel)
      simp only [Activity.countsLater, Bool.false_eq_true, if_false, if_true]
        at moved
      simp only [Balanced, setThread, channel, List.filterMap_append,
        List.filterMap_cons, List.filterMap_nil, Message.id?, List.length_append,
        List.length_singleton] at balanced ⊢
      omega
  | @count parcel =>
      have moved := counted .idle
      simp only [Activity.countsLater, Bool.false_eq_true, if_false, if_true]
        at moved
      simp only [Balanced, endSend, setThread, channel, TransportCounters.queued]
        at balanced ⊢
      omega
  | post alive =>
      refine balanced.congr rfl ?_ ?_ rfl
      · simp [setThread, channel, Message.id?]
      · exact same _ rfl rfl
  | spooling persisted | spooled persisted =>
      obtain ⟨gauge, channel⟩ := persisted.gauge
      obtain ⟨threads, worker⟩ := persisted.parties
      refine balanced.congr gauge channel ?_ (congrArg Phase.uncountsLater worker)
      simp only [endSend, setThread, threads]
      exact same _ rfl rfl
  | taken sender | unheard gone | timeout =>
      rw [endFlush_eq]
      exact balanced.congr rfl rfl (same _ rfl (by split <;> rfl)) rfl
  | acknowledge acking =>
      rw [endFlush_eq]
      refine balanced.congr rfl rfl (same _ rfl (by split <;> rfl)) ?_
      rw [acking]
      rfl
  | _ => exact balanced.congr rfl rfl (same _ rfl rfl) rfl

theorem WorkerMove.balanced {settings : Settings} {phase : Phase}
    {action : WorkerAction} {state after : State} {spent : Nat}
    (current : state.worker = phase)
    (move : WorkerMove settings state phase action after)
    (balanced : state.Balanced spent) :
    after.Balanced (spent + state.drift settings (.worker action)) := by
  have dead (dies : state.Dies settings (.worker action))
      (resting : state.worker.uncountsLater = false) :
      state.die.Balanced (spent + state.drift settings (.worker action)) := by
    rw [drift_of_dies dies]
    rw [Balanced, resting] at balanced
    simp only [Balanced, die, channel, Phase.uncountsLater, List.filterMap_nil,
      List.length_nil, Bool.toNat_false] at balanced ⊢
    omega
  have perished {envelope : Envelope} {exchanges : Nat → Exchange}
      (dies : state.Dies settings (.worker action))
      (resting : state.worker.uncountsLater = false) :
      (state.perish settings.codec envelope exchanges).Balanced
        (spent + state.drift settings (.worker action)) := by
    have gauge := deliverCutShort_untouched queueSize_untouched.retried
      queueSize_untouched.prepared settings.codec envelope state.counters
      exchanges
    exact (dead dies resting).congr gauge rfl rfl rfl
  have plain (lives : ¬ state.Dies settings (.worker action))
      (silent : (Label.worker action).uncounts = false) :
      spent + state.drift settings (.worker action) = spent := by
    rw [drift_of_lives lives, silent]
    rfl
  have quiet {after : State} (lives : ¬ state.Dies settings (.worker action))
      (silent : (Label.worker action).uncounts = false)
      (gauge : after.counters.queueSize = state.counters.queueSize)
      (same : after.channel = state.channel ∧ after.threads = state.threads)
      (worker : after.worker.uncountsLater = phase.uncountsLater) :
      after.Balanced (spent + state.drift settings (.worker action)) := by
    rw [plain lives silent]
    refine balanced.congr gauge same.1 ?_ ?_
    · rw [same.2]
    · rw [worker, current]
  have delivers {envelope : Envelope} {checkedAt : Instant}
      {exchanges : Nat → Exchange} {delivery : Delivery}
      (delivered : Allstak.deliver settings.codec envelope state.limiter
        state.counters checkedAt exchanges = some delivery) :
      delivery.counters.queueSize = state.counters.queueSize :=
    deliver_untouched queueSize_untouched delivered
  cases move with
  | unbuilt => exact dead rfl (by rw [current]; rfl)
  | replayPanicked panicked =>
      exact perished ⟨_, _, _, current, panicked⟩ (by rw [current]; rfl)
  | deliverPanicked panicked =>
      exact perished ⟨_, current, panicked⟩ (by rw [current]; rfl)
  | @uncount parcel =>
      rw [drift_of_lives id]
      simp only [Balanced, current, Phase.uncountsLater, Bool.toNat_true,
        Bool.toNat_false, TransportCounters.unqueued, channel, Label.uncounts,
        Bool.true_and, beq_iff_eq] at balanced ⊢
      by_cases empty : state.counters.queueSize = 0
      · rw [if_pos empty]
        omega
      · rw [if_neg empty]
        omega
  | @receive parcel rest queued =>
      rw [plain id rfl]
      simp only [Balanced, current, queued, Phase.uncountsLater, Bool.toNat_true,
        Bool.toNat_false, channel, List.filterMap_cons, Message.id?,
        List.length_cons] at balanced ⊢
      omega
  | @receiveFlush ack rest queued =>
      rw [plain id rfl]
      refine balanced.congr rfl ?_ rfl ?_
      · simp only [channel, queued, List.filterMap_cons, Message.id?]
      · rw [current]
        rfl
  | replayed delivered _ | replayFailed delivered _ | replayStopped delivered _ =>
      refine quiet ?_ rfl (delivers delivered) ⟨rfl, rfl⟩ rfl
      rintro ⟨path, paths, envelope, phase, panicked⟩
      rw [current] at phase
      cases phase
      rw [delivered] at panicked
      cases panicked
  | answered delivered _ | failed delivered _ | undelivered delivered _ =>
      refine quiet ?_ rfl (delivers delivered) ⟨rfl, rfl⟩ rfl
      rintro ⟨parcel, phase, panicked⟩
      rw [current] at phase
      cases phase
      rw [delivered] at panicked
      cases panicked
  | built possible =>
      refine quiet ?_ rfl rfl ⟨rfl, rfl⟩ ?_
      · rintro ⟨⟩
      · rcases possible with rfl | rfl <;> rfl
  | remove =>
      unfold unlinkReplayed
      split <;> [split; skip] <;> exact quiet id rfl rfl ⟨rfl, rfl⟩ rfl
  | persisting persisted | persisted persisted =>
      obtain ⟨gauge, channel⟩ := persisted.gauge
      exact quiet id rfl gauge ⟨channel, persisted.parties.1⟩ rfl
  | _ => exact quiet id rfl rfl ⟨rfl, rfl⟩ rfl

end State

theorem balanced_of_starts {state : State} (starts : Starts state) :
    state.Balanced 0 := by
  obtain ⟨calls, directory, spawned, -, -, rfl⟩ := starts
  have idle : (List.replicate calls Activity.idle).countP
      Activity.countsLater = 0 := by
    rw [List.countP_eq_zero]
    intro activity member
    rw [List.eq_of_mem_replicate member]
    decide
  cases spawned <;>
    simp [State.Balanced, idle, State.channel, Phase.uncountsLater]

/-- The gauge at the end of a run is off by the drift of the run's steps. -/
theorem balanced_of_exec {settings : Settings} {initial final : State}
    {labels : List Label} (starts : Starts initial)
    (run : (machine settings).exec initial labels = some final) :
    final.Balanced
      ((machine settings).cost (State.drift settings) initial labels) := by
  have ends := @Library.Machine.balance_of_exec _ _ (machine settings)
    (State.drift settings) State.Balanced ?_ _ _ _ _ (balanced_of_starts starts)
    run
  · rw [Nat.zero_add] at ends
    exact ends
  · intro before label after spent balanced moved
    rcases step_cases moved with
      ⟨index, activity, action, rfl, found, move⟩ | ⟨action, rfl, move⟩
    · have kept := move.balanced found balanced
      have still : before.drift settings (.thread index action) = 0 := rfl
      rw [still]
      exact kept
    · exact move.balanced rfl balanced

/-- The step neither kills a worker whose channel holds envelopes nor subtracts
from a gauge at zero. -/
def keepsGauge (settings : Settings) (state : State) (label : Label) : Bool :=
  !(state.dies settings label && !state.channel.isEmpty) &&
    !(label.uncounts && state.counters.queueSize == 0)

theorem keepsGauge_eq (settings : Settings) :
    keepsGauge settings = fun state label => state.drift settings label == 0 := by
  funext state label
  rw [keepsGauge, State.drift]
  cases fatal : state.dies settings label with
  | true =>
      have silent : label.uncounts = false := by
        cases label with
        | thread index action => rfl
        | worker action => cases action <;> first | rfl | cases fatal
      cases state.channel <;> simp [silent]
  | false =>
      cases label.uncounts && state.counters.queueSize == 0 <;> rfl

/-- In a state that a run reaches, and in which nobody stands between its step
on the channel and its step on the gauge, the gauge is the number of envelopes
in the channel exactly when no worker died with envelopes in the channel and
no subtraction found the gauge at zero. -/
theorem queueSize_eq_channel_iff (settings : Settings) (initial final : State)
    (labels : List Label) (starts : Starts initial)
    (run : (machine settings).exec initial labels = some final)
    (rests : final.AtRest) :
    final.counters.queueSize = final.channel.length ↔
      ((machine settings).execWhere (keepsGauge settings) initial
        labels).isSome := by
  have balanced := balanced_of_exec starts run
  rw [keepsGauge_eq, ← Library.Machine.cost_eq_zero_iff run]
  rw [State.Balanced, rests.1, rests.2] at balanced
  simp only [Bool.toNat_false, Nat.add_zero] at balanced
  omega

/-- One envelope on a channel of one place. -/
def sendOne : List Label :=
  [.worker (.build true), .thread 0 (.send sampleEnvelope), .thread 0 .lock,
    .thread 0 (.offer false)]

/-- The worker receives the envelope and counts it down before it was counted
up: the gauge stays at one over an empty channel. -/
theorem earlyReceive_leaves_gauge :
    ∃ state, (machine (unspooled 1)).Reachable state ∧ state.AtRest ∧
      state.counters.queueSize = 1 ∧ state.channel = [] := by
  have run :
      ((machine (unspooled 1)).exec oneThread
        (sendOne ++
          [.worker .receive, .worker .uncount, .thread 0 .count])).map
          (fun state => decide (state.AtRest ∧
            state.counters.queueSize = 1 ∧ state.channel = [])) =
        some true := by decide
  obtain ⟨state, executed, seen⟩ := Option.map_eq_some_iff.mp run
  exact ⟨state, Library.Machine.reachable_of_exec oneThread_starts executed,
    of_decide_eq_true seen⟩

/-- The gauge of a run in which the addition comes first. -/
theorem queueSize_eq_channel_iff_counted :
    ∃ final : State, final.AtRest ∧
      (final.counters.queueSize = final.channel.length ↔
        ((machine (unspooled 1)).execWhere (keepsGauge (unspooled 1)) oneThread
          (sendOne ++
            [.thread 0 .count, .worker .receive, .worker .uncount])).isSome) := by
  have run :
      ((machine (unspooled 1)).exec oneThread
        (sendOne ++
          [.thread 0 .count, .worker .receive, .worker .uncount])).map
          (fun state => decide state.AtRest) =
        some true := by decide
  obtain ⟨final, executed, seen⟩ := Option.map_eq_some_iff.mp run
  have rests := of_decide_eq_true seen
  exact ⟨final, rests,
    queueSize_eq_channel_iff (unspooled 1) oneThread final _ oneThread_starts
      executed rests⟩

end Transport

end Allstak
