import Allstak.Transport.Flush

/-!
# What the drop counter counts

`events_dropped` is bumped in the delivery, in the replay and in
`persist_or_drop`.  It is the number of envelopes lost for good in every run in
which the limits remove no file, no replayed envelope is refused for good, and
no envelope is left behind by a dying worker: the first and the last lose
envelopes uncounted, the second is counted twice.
-/

namespace Allstak

/-- The exchanges end a delivery for good, without success. -/
def Refused (codec : Codec) (envelope : Envelope) (exchanges : Nat → Exchange) :
    Prop :=
  codec.toVec envelope.body = none ∨
    ∃ exchange response, verdict exchanges MAX_RETRIES = some (exchange, response) ∧
      response.status ≠ 429 ∧ response.isSuccess = false

theorem refused_of_permanentFailure {codec : Codec} {envelope : Envelope}
    {limiter : RateLimiter} {counters : TransportCounters} {checkedAt : Instant}
    {exchanges : Nat → Exchange} {delivery : Delivery}
    (delivered :
      deliver codec envelope limiter counters checkedAt exchanges = some delivery)
    (failed : delivery.outcome = .permanentFailure) :
    limiter.isLimited envelope.category checkedAt = false ∧
      Refused codec envelope exchanges := by
  cases limited : limiter.isLimited envelope.category checkedAt with
  | true =>
      rw [deliver, if_pos limited] at delivered
      cases delivered
      cases failed
  | false =>
      refine ⟨rfl, ?_⟩
      cases encoded : codec.toVec envelope.body with
      | none => exact .inl encoded
      | some raw =>
          have outcome := @deliver_outcome codec envelope limiter counters
            checkedAt exchanges raw limited encoded
          rw [delivered, Option.map_some, failed] at outcome
          right
          cases found : verdict exchanges MAX_RETRIES with
          | none => simp [found] at outcome
          | some answer =>
              obtain ⟨exchange, response⟩ := answer
              refine ⟨exchange, response, rfl, ?_, ?_⟩
              · intro limitedAnswer
                simp [found, limitedAnswer] at outcome
              · cases success : response.isSuccess with
                | false => rfl
                | true =>
                    rw [found] at outcome
                    simp only [success, if_true] at outcome
                    split at outcome
                    · simp at outcome
                    · simp at outcome

namespace Transport

/-- The file operation does what was asked for. -/
def PersistAction.Completes : PersistAction → Prop
  | .write failedAfter => failedAfter = none
  | .evict removed => removed = true
  | _ => True

def Label.persistAction? : Label → Option PersistAction
  | .thread _ (.spool action) => some action
  | .worker (.persist action) => some action
  | _ => none

/-- A step on which the counter can be relied. -/
structure Accountable (settings : Settings) (state : State) (label : Label) :
    Prop where
  caught : state.Dies settings label → state.backlog = []
  complete : ∀ action, label.persistAction? = some action → action.Completes
  removes : ∀ removed, label = .worker (.remove removed) → removed = true
  within : label.persistAction? = some .list → ∀ spool,
    settings.spool = some spool → spool.Within (filesWithSizes state.files)
  unrefused : ∀ checkedAt exchanges path paths envelope,
    label = .worker (.replay checkedAt exchanges) →
    state.worker = .replaying path paths envelope →
    state.limiter.isLimited envelope.category checkedAt = false →
    ¬ Refused settings.codec envelope exchanges

/-- The removals `enforce_limits` has planned. -/
def PersistStage.evictions : PersistStage → List String
  | .evicting paths => paths
  | _ => []

def Activity.evictions : Activity → List String
  | .spooling _ stage => stage.evictions
  | _ => []

def Phase.evictions : Phase → List String
  | .persisting _ stage => stage.evictions
  | _ => []

/-- The files the replay has still to remove. -/
def Phase.pending : Phase → List String
  | .draining paths => paths
  | .replaying path paths _ => path :: paths
  | .removing path paths _ => path :: paths
  | _ => []

/-- A drop counted for a file that is not removed yet. -/
def Phase.discarding : Phase → Nat
  | .removing _ _ .discarded => 1
  | _ => 0

namespace State

/-- Nothing has left the records by another way than a counted one. -/
structure Sound (state : State) : Prop where
  distinct : (state.files.map File.name).Nodup
  named : ∀ file ∈ state.files, file.name ∈ state.names
  evicted : state.evicted = []
  vanished : state.vanished = []
  spoiled : state.spoiled = []

structure Accounting (state : State) : Prop where
  sound : state.Sound
  threads : ∀ activity ∈ state.threads, activity.evictions = []
  worker : state.worker.evictions = []
  once : state.worker.pending.Nodup
  present : state.worker.pending ⊆ state.files.map File.name
  counted : state.replayDrops = state.discarded.length + state.worker.discarding

theorem PersistMove.sound {settings : Settings} {parcel : Parcel}
    {action : PersistAction} {stage : PersistStage}
    {next : Option PersistStage} {state after : State}
    (move : PersistMove settings parcel state action stage next after)
    (complete : action.Completes) (unplanned : stage.evictions = [])
    (within : action = .list → ∀ spool, settings.spool = some spool →
      spool.Within (filesWithSizes state.files))
    (sound : state.Sound) :
    after.Sound ∧ state.files.map File.name ⊆ after.files.map File.name ∧
      ∀ stage, next = some stage → stage.evictions = [] := by
  obtain ⟨distinct, named, evicted, vanished, spoiled⟩ := sound
  cases move with
  | refused | stored =>
      exact ⟨⟨distinct, named, evicted, vanished, spoiled⟩, List.Subset.refl _,
        by simp⟩
  | @created nowMillis uuid content configured encoded fresh =>
      refine ⟨⟨?_, ?_, evicted, vanished, spoiled⟩, ?_, ?_⟩
      · have absent : spoolFileName nowMillis uuid ∉ state.files.map File.name := by
          intro member
          obtain ⟨file, inside, same⟩ := List.mem_map.mp member
          exact fresh (same ▸ named file inside)
        simp only [createFile, List.map_append, List.map_cons, List.map_nil]
        exact List.nodup_append.mpr ⟨distinct, List.nodup_singleton _, by
          intro name old other new
          rw [List.mem_singleton.mp new]
          rintro rfl
          exact absent old⟩
      · intro file member
        simp only [createFile, List.mem_append, List.mem_singleton] at member ⊢
        rcases member with old | rfl
        · exact .inl (named file old)
        · exact .inr rfl
      · simp [createFile]
      · intro stage later
        cases later
        rfl
  | @written path content =>
      have names := names_updateFile state.files path
        (fun file => { file with content }) fun _ => rfl
      refine ⟨⟨?_, ?_, evicted, vanished, spoiled⟩, ?_, ?_⟩
      · exact names ▸ distinct
      · intro file member
        have renamed : file.name ∈ state.files.map File.name :=
          names ▸ List.mem_map_of_mem member
        obtain ⟨old, inside, same⟩ := List.mem_map.mp renamed
        exact same ▸ named old inside
      · simp only [writeFile, names]
        exact List.Subset.refl _
      · intro stage later
        cases later
        rfl
  | spoiled => cases complete
  | @listed spool configured =>
      refine ⟨⟨distinct, named, evicted, vanished, spoiled⟩, List.Subset.refl _, ?_⟩
      intro stage later
      cases later
      exact EventSpool.enforceLimits_of_within (within rfl spool configured)
  | evicted => cases unplanned

theorem ThreadMove.accounting {settings : Settings} {index : Nat}
    {activity : Activity} {action : ThreadAction} {state after : State}
    (found : state.threads[index]? = some activity)
    (move : ThreadMove settings index state activity action after)
    (accountable : Accountable settings state (.thread index action))
    (accounting : state.Accounting) : after.Accounting := by
  obtain ⟨sound, threads, worker, once, present, counted⟩ := accounting
  have planned := threads activity (List.mem_of_getElem? found)
  have keep (new : Activity) (plain : new.evictions = []) :
      ∀ other ∈ state.threads.set index new, other.evictions = [] := by
    intro other member
    rcases List.mem_or_eq_of_mem_set member with old | rfl
    · exact threads other old
    · exact plain
  have untouched : state.Sound := sound
  obtain ⟨distinct, named, evicted, vanished, spoiled⟩ := sound
  cases move with
  | @spooling parcel stage next action middle persisted =>
      obtain ⟨kept, names, plans⟩ := persisted.sound
        (accountable.complete _ rfl) planned
        (fun list => accountable.within (by rw [list]; rfl)) untouched
      have noPlan := plans next rfl
      obtain ⟨files, fileNames, counters, stored, dropped, spoils, evictions, rfl⟩ :=
        persisted.frame
      exact ⟨⟨kept.distinct, kept.named, kept.evicted, kept.vanished,
        kept.spoiled⟩, keep _ noPlan, worker, once,
        List.Subset.trans present names, counted⟩
  | @spooled parcel stage action middle persisted =>
      obtain ⟨kept, names, -⟩ := persisted.sound
        (accountable.complete _ rfl) planned
        (fun list => accountable.within (by rw [list]; rfl)) untouched
      obtain ⟨files, fileNames, counters, stored, dropped, spoils, evictions, rfl⟩ :=
        persisted.frame
      exact ⟨⟨kept.distinct, kept.named, kept.evicted, kept.vanished,
        kept.spoiled⟩, keep _ rfl, worker, once,
        List.Subset.trans present names, counted⟩
  | taken sender | unheard gone | timeout =>
      rw [endFlush_eq]
      exact ⟨⟨distinct, named, evicted, vanished, spoiled⟩,
        keep _ (by split <;> rfl), worker, once, present, counted⟩
  | acknowledge acking =>
      rw [acking] at counted
      rw [endFlush_eq]
      exact ⟨⟨distinct, named, evicted, vanished, spoiled⟩,
        keep _ (by split <;> rfl), rfl, List.nodup_nil, List.nil_subset _,
        counted⟩
  | _ =>
      exact ⟨⟨distinct, named, evicted, vanished, spoiled⟩, keep _ rfl, worker,
        once, present, counted⟩

/-- A name that stands once in the directory stands for one envelope. -/
theorem itemsAt_length {state : State} {path : String}
    (distinct : (state.files.map File.name).Nodup)
    (member : path ∈ state.files.map File.name) :
    (state.itemsAt path).length = 1 := by
  have one := List.count_eq_one_of_mem distinct member
  rw [List.count, List.countP_map, List.countP_eq_length_filter] at one
  rw [itemsAt, List.length_map, ← one]
  congr 1

theorem Sound.unlink {state : State} (sound : state.Sound) (path : String)
    (fate : Fate) (removed : Bool) :
    (state.unlinkReplayed path fate removed).Sound := by
  obtain ⟨distinct, named, evicted, vanished, spoiled⟩ := sound
  have fewer : ((removeFile state.files path).map File.name).Nodup :=
    (List.filter_sublist.map File.name).nodup distinct
  have still : ∀ file ∈ removeFile state.files path, file.name ∈ state.names :=
    fun file member => named file (List.mem_of_mem_filter member)
  unfold unlinkReplayed
  split
  · split <;> exact ⟨fewer, still, evicted, vanished, spoiled⟩
  · exact ⟨distinct, named, evicted, vanished, spoiled⟩

/-- The files a replay has left are the others. -/
theorem mem_names_removeFile {directory : List File} {path other : String}
    (different : other ≠ path) (member : other ∈ directory.map File.name) :
    other ∈ (removeFile directory path).map File.name := by
  obtain ⟨file, inside, rfl⟩ := List.mem_map.mp member
  exact List.mem_map_of_mem (List.mem_filter.mpr ⟨inside, by simpa using different⟩)

theorem WorkerMove.accounting {settings : Settings} {phase : Phase}
    {action : WorkerAction} {state after : State}
    (current : state.worker = phase)
    (move : WorkerMove settings state phase action after)
    (accountable : Accountable settings state (.worker action))
    (accounting : state.Accounting) : after.Accounting := by
  obtain ⟨sound, threads, worker, once, present, counted⟩ := accounting
  have untouched : state.Sound := sound
  obtain ⟨distinct, named, evicted, vanished, spoiled⟩ := sound
  rw [current] at worker once present counted
  have dead (dies : state.Dies settings (.worker action))
      (resting : phase.discarding = 0) : state.die.Accounting := by
    have empty := accountable.caught dies
    rw [State.backlog] at empty
    refine ⟨⟨distinct, named, evicted, ?_, spoiled⟩, threads, rfl,
      List.nodup_nil, List.nil_subset _, ?_⟩
    · simp only [die, vanished, empty, List.nil_append]
    · rw [resting] at counted
      exact counted
  have perished {envelope : Envelope} {exchanges : Nat → Exchange}
      (dies : state.Dies settings (.worker action))
      (resting : phase.discarding = 0) :
      (state.perish settings.codec envelope exchanges).Accounting := by
    obtain ⟨⟨distinct, named, evicted, vanished, spoiled⟩, threads, worker, once,
      present, counted⟩ := dead dies resting
    exact ⟨⟨distinct, named, evicted, vanished, spoiled⟩, threads, worker, once,
      present, counted⟩
  cases move with
  | built possible =>
      rcases possible with rfl | rfl <;>
        exact ⟨⟨distinct, named, evicted, vanished, spoiled⟩, threads, rfl,
          List.nodup_nil, List.nil_subset _, counted⟩
  | unbuilt => exact dead rfl rfl
  | replayPanicked panicked => exact perished ⟨_, _, _, current, panicked⟩ rfl
  | deliverPanicked panicked => exact perished ⟨_, current, panicked⟩ rfl
  | list =>
      exact ⟨⟨distinct, named, evicted, vanished, spoiled⟩, threads, rfl,
        spoolFiles_nodup distinct, fun path member =>
          (mem_spoolFiles_iff.mp member).2, counted⟩
  | unreadable =>
      refine ⟨⟨distinct, named, evicted, vanished, spoiled⟩, threads, rfl, once,
        present, ?_⟩
      simp only [Phase.discarding] at counted ⊢
      omega
  | replayed =>
      exact ⟨⟨distinct, named, evicted, vanished, spoiled⟩, threads, rfl, once,
        present, counted⟩
  | @replayFailed path paths envelope checkedAt exchanges delivery delivered outcome =>
      obtain ⟨free, refused⟩ := refused_of_permanentFailure delivered outcome
      exact absurd refused
        (accountable.unrefused checkedAt exchanges path paths envelope rfl current
          free)
  | replayStopped =>
      exact ⟨⟨distinct, named, evicted, vanished, spoiled⟩, threads, rfl,
        List.nodup_nil, List.nil_subset _, counted⟩
  | @remove path paths fate removed =>
      have gone := accountable.removes removed rfl
      subst gone
      have kept := untouched.unlink path fate true
      have inside : path ∈ state.files.map File.name :=
        present List.mem_cons_self
      have single := itemsAt_length distinct inside
      obtain ⟨fresh, rest⟩ := List.nodup_cons.mp once
      have others : paths ⊆ (removeFile state.files path).map File.name := by
        intro other member
        refine mem_names_removeFile ?_ (present (List.mem_cons_of_mem _ member))
        rintro rfl
        exact fresh member
      cases fate with
      | accepted =>
          exact ⟨⟨kept.distinct, kept.named, kept.evicted, kept.vanished,
            kept.spoiled⟩, threads, rfl, rest, others, counted⟩
      | discarded =>
          refine ⟨⟨kept.distinct, kept.named, kept.evicted, kept.vanished,
            kept.spoiled⟩, threads, rfl, rest, others, ?_⟩
          simp only [unlinkReplayed, if_true, Phase.discarding,
            List.length_append, single] at counted ⊢
          omega
  | @persisting parcel stage next action middle persisted =>
      obtain ⟨kept, names, plans⟩ := persisted.sound
        (accountable.complete _ rfl) worker
        (fun list => accountable.within (by rw [list]; rfl)) untouched
      have noPlan := plans next rfl
      obtain ⟨files, fileNames, counters, stored, dropped, spoils, evictions, rfl⟩ :=
        persisted.frame
      exact ⟨⟨kept.distinct, kept.named, kept.evicted, kept.vanished,
        kept.spoiled⟩, threads, noPlan, List.nodup_nil, List.nil_subset _, counted⟩
  | @persisted parcel stage action middle persisted =>
      obtain ⟨kept, names, -⟩ := persisted.sound
        (accountable.complete _ rfl) worker
        (fun list => accountable.within (by rw [list]; rfl)) untouched
      obtain ⟨files, fileNames, counters, stored, dropped, spoils, evictions, rfl⟩ :=
        persisted.frame
      exact ⟨⟨kept.distinct, kept.named, kept.evicted, kept.vanished,
        kept.spoiled⟩, threads, rfl, List.nodup_nil, List.nil_subset _, counted⟩
  | _ =>
      exact ⟨⟨distinct, named, evicted, vanished, spoiled⟩, threads, rfl, once,
        present, counted⟩

/-- No call is in progress and the worker waits, or is over. -/
def Quiet (state : State) : Prop :=
  (∀ activity ∈ state.threads, activity = .idle) ∧
    (state.worker = .starting ∨ state.worker = .idle ∨ state.worker.isOver = true)

/-- Every envelope sent, and every file the spool was found with. -/
def items (state : State) : List Item :=
  (List.range state.sent).map Item.sent ++ (List.range state.found).map Item.found

/-- Neither answered 2xx nor in the channel nor in the spool. -/
def lost (state : State) (item : Item) : Bool :=
  decide (item ∉ state.answered.map Item.sent ++ state.replayed ++
    state.channel.map Item.sent ++ state.files.map File.item)

end State

section

variable {settings : Settings} {state : State}

theorem accounting_of_reach
    (reached : (machine settings).Reach (Accountable settings) state) :
    state.Accounting := by
  apply reached.induct
  · rintro state ⟨calls, directory, spawned, distinct, -, rfl⟩
    refine ⟨⟨distinct, fun file member => List.mem_map_of_mem member, rfl, rfl, rfl⟩,
      ?_, ?_, ?_, ?_, ?_⟩
    · intro activity member
      rw [List.eq_of_mem_replicate member]
      rfl
    · cases spawned <;> rfl
    · cases spawned <;> exact List.nodup_nil
    · cases spawned <;> exact List.nil_subset _
    · cases spawned <;> rfl
  · intro before label after accounting accountable moved
    rcases step_cases moved with
      ⟨index, activity, action, rfl, found, move⟩ | ⟨action, rfl, move⟩
    · exact move.accounting found accountable accounting
    · exact move.accounting rfl accountable accounting

private theorem items_nodup (state : State) : state.items.Nodup := by
  refine List.nodup_append.mpr ⟨?_, ?_, ?_⟩
  · exact List.nodup_range.map fun _ _ => Item.sent.inj
  · exact List.nodup_range.map fun _ _ => Item.found.inj
  · intro one first other second
    obtain ⟨id, -, rfl⟩ := List.mem_map.mp first
    obtain ⟨index, -, rfl⟩ := List.mem_map.mp second
    exact fun same => Item.noConfusion same

/-- In a quiet state the ledger has only the records. -/
theorem count_items (reached : (machine settings).Reach (Accountable settings) state)
    (quiet : state.Quiet) (item : Item) :
    state.items.count item =
      (state.answered.map Item.sent ++ state.replayed ++
          state.channel.map Item.sent ++ state.files.map File.item).count item +
        (state.dropped.map Item.sent ++ state.discarded).count item := by
  obtain ⟨⟨distinct, named, evicted, vanished, spoiled⟩, -, -, -, -, -⟩ :=
    accounting_of_reach reached
  have ledger := ledger_eq reached.reachable item
  have idle : state.threads.flatMap Activity.carrying = [] := by
    apply List.flatMap_eq_nil_iff.mpr
    intro activity member
    rw [quiet.1 activity member]
    rfl
  have resting : state.worker.carrying = [] := by
    rcases quiet.2 with same | same | finished
    · rw [same]
      rfl
    · rw [same]
      rfl
    · cases phase : state.worker <;> simp_all [Phase.isOver, Phase.carrying]
  simp only [State.ledger, State.due, idle, resting, evicted, vanished, spoiled,
    List.count_nil, List.map_nil] at ledger
  simp only [State.items, List.count_append]
  omega

/-- In every accountable run, whenever no operation is in progress, the drop
counter is the number of envelopes lost for good, and each of them is recorded
once among the counted drops. -/
theorem eventsDropped_eq_lost (settings : Settings) (state : State)
    (reached : (machine settings).Reach (Accountable settings) state)
    (quiet : state.Quiet) :
    state.counters.eventsDropped = (state.items.filter state.lost).length ∧
      (state.items.filter state.lost).Perm
        (state.dropped.map Item.sent ++ state.discarded) := by
  have accounting := accounting_of_reach reached
  have same : (state.items.filter state.lost).Perm
      (state.dropped.map Item.sent ++ state.discarded) := by
    apply List.perm_iff_count.mpr
    intro item
    have counted := count_items reached quiet item
    have single := List.nodup_iff_count_le_one.mp (items_nodup state) item
    by_cases gone : state.lost item = true
    · rw [List.count_filter gone, counted]
      have absent := of_decide_eq_true gone
      rw [List.count_eq_zero.mpr absent, Nat.zero_add]
    · have kept : item ∈ state.answered.map Item.sent ++ state.replayed ++
          state.channel.map Item.sent ++ state.files.map File.item := by
        by_contra absent
        exact gone (decide_eq_true absent)
      have positive := List.count_pos_iff.mpr kept
      have unlisted : item ∉ state.items.filter state.lost := fun member =>
        gone (List.mem_filter.mp member).2
      rw [List.count_eq_zero.mpr unlisted]
      omega
  refine ⟨?_, same⟩
  have drops := (recorded_of_reachable reached.reachable).counted
  have replays := accounting.counted
  have settled : state.worker.discarding = 0 := by
    rcases quiet.2 with same | same | finished
    · rw [same]
      rfl
    · rw [same]
      rfl
    · cases phase : state.worker <;> simp_all [Phase.isOver, Phase.discarding]
  rw [same.length_eq, List.length_append, List.length_map]
  omega

end

/-- A spool found with one envelope. -/
def oneFound : State :=
  let name := spoolFileName 1700000000000 7
  { threads := [.idle]
    files := [{ name, content := sampleFile, item := .found 0 }]
    found := 1
    names := [name] }

theorem oneFound_starts : Starts oneFound :=
  ⟨1, oneFound.files, true, by decide, rfl, rfl⟩

/-- The replayed envelope is answered 400: one envelope is lost, and two drops
are counted. -/
theorem refusedReplay_counts_twice :
    ∃ state, (machine (rendezvous 10 1000)).Reachable state ∧ state.Quiet ∧
      state.counters.eventsDropped = 2 ∧
      (state.items.filter state.lost).length = 1 := by
  have run :
      ((machine (rendezvous 10 1000)).exec oneFound
        [.worker (.build true), .worker .list, .worker .load,
          .worker (.replay sampleInstant (answering 400)),
          .worker (.remove true), .worker .load]).map
          (fun state =>
            (state.threads.all (fun activity => activity matches .idle),
              state.worker.isIdle, state.counters.eventsDropped,
              (state.items.filter state.lost).length)) =
        some (true, true, 2, 1) := by decide +kernel
  obtain ⟨state, executed, seen⟩ := Option.map_eq_some_iff.mp run
  simp only [Prod.mk.injEq] at seen
  obtain ⟨threads, idle, counted, lost⟩ := seen
  refine ⟨state, Library.Machine.reachable_of_exec oneFound_starts executed,
    ⟨?_, ?_⟩, counted, lost⟩
  · intro activity member
    have plain := List.all_eq_true.mp threads activity member
    cases activity <;> simp_all
  · right; left
    cases phase : state.worker <;> simp_all [Phase.isIdle]

/-- The file operation completes, no removal is planned here, and nothing is
delivered. -/
def unremarkable (state : State) (label : Label) : Bool :=
  undisturbed state label &&
    match label.persistAction? with
    | some (.begin _ _) => true
    | some _ => false
    | none => label matches .thread _ _ | .worker (.build _) | .worker .receive

theorem accountable_of_unremarkable {settings : Settings} (state : State)
    (label : Label) (passed : unremarkable state label = true) :
    Accountable settings state label := by
  obtain ⟨calm, plain⟩ := Bool.and_eq_true_iff.mp passed
  refine ⟨fun dies => caught_of_undisturbed state label calm (.inl dies), ?_, ?_,
    ?_, ?_⟩
  · intro action persists
    rw [persists] at plain
    cases action <;> simp_all [PersistAction.Completes]
  · rintro removed rfl
    simp [Label.persistAction?] at plain
  · intro list
    rw [list] at plain
    cases plain
  · rintro checkedAt exchanges path paths envelope rfl
    simp [Label.persistAction?] at plain

/-- An envelope that found no room and no spool is lost, and counted. -/
theorem eventsDropped_eq_lost_overflow :
    ∃ state : State, state.sent = 1 ∧
      state.counters.eventsDropped = (state.items.filter state.lost).length ∧
      (state.items.filter state.lost).Perm
        (state.dropped.map Item.sent ++ state.discarded) := by
  have run :
      ((machine (unspooled 0)).execWhere unremarkable oneThread
        [.thread 0 (.send sampleEnvelope), .thread 0 .lock,
          .thread 0 (.offer false), .thread 0 (.spool (.begin true none))]).map
          (fun state =>
            (state.threads.all (fun activity => activity matches .idle),
              state.sent, state.worker matches .starting)) =
        some (true, 1, true) := by decide
  obtain ⟨state, executed, seen⟩ := Option.map_eq_some_iff.mp run
  simp only [Prod.mk.injEq] at seen
  obtain ⟨threads, sent, starting⟩ := seen
  refine ⟨state, sent, eventsDropped_eq_lost (unspooled 0) state
    ((Library.Machine.Reach.start oneThread_starts).execWhere
      accountable_of_unremarkable executed) ⟨?_, ?_⟩⟩
  · intro activity member
    have plain := List.all_eq_true.mp threads activity member
    cases activity <;> simp_all
  · left
    cases phase : state.worker <;> simp_all

end Transport

end Allstak
