import Allstak.Transport.Conservation
import Allstak.Transport.DropAccounting

/-!
# The spool over many lifetimes

A process can end at any moment, in the middle of a write or of a replay.  The
next one starts a new transport, with options of its own, over the files that
are left.  Files are told apart over all lifetimes by where they come from: the
directory of the first start, or a send of a lifetime.
-/

namespace Allstak

def Item.isFound : Item → Bool
  | .found _ => true
  | .sent _ => false

namespace Transport

/-- Where a file of the spool comes from. -/
inductive Origin where
  | initial (index : Nat)
  | sent (generation id : Nat)
  deriving DecidableEq

/-- The transport of the running process, and what the ones before it left:
the origins of the files found, in order, of the envelopes their spools
accepted, and of the files they removed. -/
structure Lifetimes where
  generation : Nat := 0
  current : State
  origins : List Origin
  stored : List Origin := []
  removed : List Origin := []

namespace State

/-- What the limits and the replay took out of the directory. -/
def gone (state : State) : List Item :=
  state.evicted ++ state.replayed ++ state.discarded

end State

namespace Lifetimes

def originOf (lifetimes : Lifetimes) : Item → Origin
  | .sent id => .sent lifetimes.generation id
  | .found index => lifetimes.origins.getD index (.initial index)

/-- The files as a new process finds them. -/
def leftover (files : List File) : List File :=
  files.mapIdx fun index file => { file with item := .found index }

/-- The process ends here, and another one starts its transport. -/
def restart (calls : Nat) (spawned : Bool) (lifetimes : Lifetimes) :
    Lifetimes :=
  let files := leftover lifetimes.current.files
  { generation := lifetimes.generation + 1
    current :=
      { threads := List.replicate calls .idle
        worker := if spawned then .starting else .gone
        handle := spawned
        files
        found := files.length
        names := files.map File.name }
    origins := lifetimes.current.files.map fun file =>
      lifetimes.originOf file.item
    stored := lifetimes.stored ++
      lifetimes.current.stored.map (.sent lifetimes.generation)
    removed := lifetimes.removed ++
      lifetimes.current.gone.map lifetimes.originOf }

inductive Label where
  | move (label : Transport.Label)
  | restart (calls : Nat) (spawned : Bool)

/-- Each generation has its own settings. -/
def step (settings : Nat → Settings) (lifetimes : Lifetimes) :
    Label → Option Lifetimes
  | .move label =>
      (Transport.step (settings lifetimes.generation) lifetimes.current
        label).map
        fun current => { lifetimes with current }
  | .restart calls spawned => some (lifetimes.restart calls spawned)

def machine (settings : Nat → Settings) : Library.Machine Lifetimes Label where
  start lifetimes :=
    ∃ state, Starts state ∧
      lifetimes =
        { current := state
          origins := (List.range state.found).map .initial }
  next := step settings

/-- Every envelope a spool has accepted so far. -/
def everStored (lifetimes : Lifetimes) : List Origin :=
  lifetimes.stored ++ lifetimes.current.stored.map (.sent lifetimes.generation)

/-- The files in the directory, and those removed from it so far. -/
def onDisk (lifetimes : Lifetimes) : List Origin :=
  lifetimes.current.files.map fun file => lifetimes.originOf file.item

def everRemoved (lifetimes : Lifetimes) : List Origin :=
  lifetimes.removed ++ lifetimes.current.gone.map lifetimes.originOf

end Lifetimes

namespace State

structure Named (state : State) : Prop where
  distinct : (state.files.map File.name).Nodup
  known : ∀ file ∈ state.files, file.name ∈ state.names

theorem Named.removeFile {state : State} (named : state.Named) (path : String) :
    ((Allstak.removeFile state.files path).map File.name).Nodup ∧
      ∀ file ∈ Allstak.removeFile state.files path, file.name ∈ state.names :=
        by
  have fewer : (Allstak.removeFile state.files path).Sublist state.files :=
    List.filter_sublist
  exact ⟨(fewer.map File.name).nodup named.distinct,
    fun file member => named.known file (fewer.subset member)⟩

theorem PersistMove.named {settings : Settings} {parcel : Parcel}
    {action : PersistAction} {stage : PersistStage}
    {next : Option PersistStage} {state after : State}
    (move : PersistMove settings parcel state action stage next after)
    (named : state.Named) : after.Named := by
  have updated (path : String) (content : Bytes) :
      (state.writeFile path content).Named := by
    have names := names_updateFile state.files path
      (fun file => { file with content }) fun _ => rfl
    constructor
    · rw [writeFile, names]
      exact named.distinct
    · intro file member
      have listed : file.name ∈ (state.writeFile path content).files.map
          File.name := List.mem_map_of_mem member
      rw [writeFile, names] at listed
      obtain ⟨old, inside, same⟩ := List.mem_map.mp listed
      rw [← same]
      exact named.known old inside
  cases move with
  | @created nowMillis uuid content _ _ fresh =>
      constructor
      · simp only [createFile, List.map_append, List.map_cons, List.map_nil]
        refine List.nodup_append.mpr ⟨named.distinct, List.nodup_singleton _,
          ?_⟩
        rintro name member other single rfl
        obtain ⟨file, inside, same⟩ := List.mem_map.mp member
        rw [List.mem_singleton.mp single] at same
        exact fresh (same ▸ named.known file inside)
      · intro file member
        rcases List.mem_append.mp member with old | new
        · exact List.mem_append_left _ (named.known file old)
        · rw [List.mem_singleton.mp new]
          exact List.mem_append_right _ (List.mem_singleton_self _)
  | written => exact updated _ _
  | spoiled => exact ⟨(updated _ _).distinct, (updated _ _).known⟩
  | @evicted path paths removed =>
      rw [evictFile]
      split
      · exact ⟨(named.removeFile path).1, (named.removeFile path).2⟩
      · exact named
  | _ => exact ⟨named.distinct, named.known⟩

theorem ThreadMove.named {settings : Settings} {index : Nat}
    {activity : Activity} {action : ThreadAction} {state after : State}
    (move : ThreadMove settings index state activity action after)
    (named : state.Named) : after.Named := by
  cases move with
  | spooling persisted | spooled persisted =>
      exact ⟨(persisted.named named).distinct, (persisted.named named).known⟩
  | taken | unheard | timeout | acknowledge =>
      rw [endFlush_eq]
      exact ⟨named.distinct, named.known⟩
  | _ => exact ⟨named.distinct, named.known⟩

theorem WorkerMove.named {settings : Settings} {phase : Phase}
    {action : WorkerAction} {state after : State}
    (move : WorkerMove settings state phase action after)
    (named : state.Named) : after.Named := by
  cases move with
  | @remove path paths fate removed =>
      unfold unlinkReplayed
      split
      · split <;> exact ⟨(named.removeFile path).1, (named.removeFile path).2⟩
      · exact ⟨named.distinct, named.known⟩
  | persisting persisted | persisted persisted =>
      exact ⟨(persisted.named named).distinct, (persisted.named named).known⟩
  | _ => exact ⟨named.distinct, named.known⟩

end State

theorem named_of_reachable {settings : Settings} {state : State}
    (reached : (machine settings).Reachable state) : state.Named := by
  apply reached.induct
  · rintro state ⟨calls, directory, spawned, distinct, -, rfl⟩
    exact ⟨distinct, fun file => List.mem_map_of_mem⟩
  · intro before label after named _ moved
    rcases step_cases moved with
      ⟨index, activity, action, rfl, found, move⟩ | ⟨action, rfl, move⟩
    · exact move.named named
    · exact move.named named

private theorem count_sent_eq_zero {ids : List Nat} {index : Nat} :
    (ids.map Item.sent).count (.found index) = 0 := by
  apply List.count_eq_zero.mpr
  intro member
  obtain ⟨id, -, same⟩ := List.mem_map.mp member
  cases same

/-- Nobody holds a found file outside the record of the spool. -/
theorem count_carrying_eq_zero (threads : List Activity) (index : Nat) :
    (threads.flatMap Activity.carrying).count (.found index) = 0 := by
  apply List.count_eq_zero.mpr
  intro member
  obtain ⟨activity, -, carried⟩ := List.mem_flatMap.mp member
  cases activity with
  | spooling parcel stage =>
      cases stage <;> simp [Activity.carrying, PersistStage.carrying] at carried
  | _ => simp [Activity.carrying] at carried

private theorem Phase.count_carrying_eq_zero (phase : Phase) (index : Nat) :
    phase.carrying.count (.found index) = 0 := by
  apply List.count_eq_zero.mpr
  intro carried
  cases phase with
  | persisting parcel stage =>
      cases stage <;> simp [Phase.carrying, PersistStage.carrying] at carried
  | _ => simp [Phase.carrying] at carried

/-- A file found at the start is recorded once, in every state. -/
theorem spoolRecord_of_found {settings : Settings} {state : State}
    (reached : (machine settings).Reachable state) (index : Nat) :
    state.spoolRecord.count (.found index) =
      ((List.range state.found).map Item.found).count (.found index) := by
  have ledger := ledger_eq reached (.found index)
  simp only [State.ledger, State.due, count_sent_eq_zero,
    count_carrying_eq_zero, Phase.count_carrying_eq_zero] at ledger
  simp only [State.spoolRecord, List.count_append]
  omega

/-- The found files of the record are those the transport started with. -/
theorem found_perm {settings : Settings} {state : State}
    (reached : (machine settings).Reachable state) :
    (state.spoolRecord.filter Item.isFound).Perm
      ((List.range state.found).map Item.found) := by
  apply List.perm_iff_count.mpr
  intro item
  cases item with
  | found index =>
      rw [List.count_filter rfl]
      exact spoolRecord_of_found reached index
  | sent id =>
      rw [List.count_eq_zero.mpr, List.count_eq_zero.mpr]
      · intro member
        obtain ⟨index, -, same⟩ := List.mem_map.mp member
        cases same
      · intro member
        cases (List.mem_filter.mp member).2

/-- The files found at the start are counted once and for all. -/
theorem found_of_step {settings : Settings} {before after : State}
    {label : Label} (moved : step settings before label = some after) :
    after.found = before.found := by
  rcases step_cases moved with
    ⟨index, activity, action, rfl, found, move⟩ | ⟨action, rfl, move⟩
  · cases move with
    | spooling persisted | spooled persisted =>
        obtain ⟨_, _, _, _, _, _, _, rfl⟩ := persisted.frame
        rfl
    | taken | unheard | timeout | acknowledge =>
        rw [State.endFlush_eq]
    | _ => rfl
  · generalize before.worker = phase at move
    cases move with
    | remove =>
        unfold State.unlinkReplayed
        split <;> [split; skip] <;> rfl
    | persisting persisted | persisted persisted =>
        obtain ⟨_, _, _, _, _, _, _, rfl⟩ := persisted.frame
        rfl
    | _ => rfl

namespace Lifetimes

/-- The envelopes accepted by the spools of earlier processes are each in a
file found at the start, or removed before it; this process is the newest. -/
structure Lasting (settings : Nat → Settings) (lifetimes : Lifetimes) :
    Prop where
  reached : (Transport.machine (settings lifetimes.generation)).Reachable
    lifetimes.current
  found : lifetimes.current.found = lifetimes.origins.length
  once : ∀ origin ∈ lifetimes.stored,
    lifetimes.origins.count origin + lifetimes.removed.count origin = 1
  older : ∀ generation id,
    .sent generation id ∈ lifetimes.stored ++ lifetimes.origins ++
      lifetimes.removed →
    generation < lifetimes.generation

private theorem map_originOf_found (lifetimes : Lifetimes) :
    ((List.range lifetimes.origins.length).map Item.found).map
        lifetimes.originOf = lifetimes.origins := by
  apply List.ext_getElem
  · simp
  · intro index inside outside
    simp [originOf, outside]

/-- Of an origin that is not this process, the record holds what was found. -/
theorem Lasting.count_found {settings : Nat → Settings} {lifetimes : Lifetimes}
    (lasting : lifetimes.Lasting settings) {origin : Origin}
    (apart : ∀ id, origin ≠ .sent lifetimes.generation id) :
    (lifetimes.current.spoolRecord.map lifetimes.originOf).count origin =
      lifetimes.origins.count origin := by
  have permuted := (found_perm lasting.reached).map lifetimes.originOf
  rw [lasting.found, map_originOf_found] at permuted
  rw [← permuted.count_eq origin, List.count_eq_countP, List.count_eq_countP,
    List.countP_map, List.countP_map, List.countP_filter]
  apply List.countP_congr
  intro item _
  cases item with
  | found index => simp [Item.isFound]
  | sent id => simp [Item.isFound, originOf, Ne.symm (apart id)]

/-- Of this process, the record holds the envelopes it sent. -/
theorem Lasting.count_sent {settings : Nat → Settings} {lifetimes : Lifetimes}
    (lasting : lifetimes.Lasting settings) (id : Nat) :
    (lifetimes.current.spoolRecord.map lifetimes.originOf).count
        (.sent lifetimes.generation id) =
      lifetimes.current.spoolRecord.count (.sent id) := by
  rw [List.count_eq_countP, List.count_eq_countP, List.countP_map]
  apply List.countP_congr
  intro item _
  cases item with
  | sent other => simp [originOf]
  | found index =>
      have old : lifetimes.originOf (.found index) ≠
          .sent lifetimes.generation id := by
        intro same
        rw [originOf, List.getD_eq_getElem?_getD] at same
        cases known : lifetimes.origins[index]? with
        | none =>
            rw [known] at same
            cases same
        | some origin =>
            rw [known] at same
            have member := List.mem_of_getElem? known
            rw [Option.getD_some] at same
            rw [same] at member
            have earlier := lasting.older lifetimes.generation id
              (List.mem_append_left _ (List.mem_append_right _ member))
            exact Nat.lt_irrefl _ earlier
      simp [old]

theorem count_onDisk_add (lifetimes : Lifetimes) (origin : Origin) :
    lifetimes.onDisk.count origin + lifetimes.everRemoved.count origin =
      lifetimes.removed.count origin +
        (lifetimes.current.spoolRecord.map lifetimes.originOf).count origin :=
          by
  simp only [onDisk, everRemoved, State.spoolRecord, State.gone,
    List.map_append,
    List.count_append, List.map_map]
  have same : (fun file => lifetimes.originOf (File.item file)) =
      lifetimes.originOf ∘ File.item := rfl
  rw [same]
  omega

/-- An envelope that a spool accepted is on disk, or was removed, exactly
once. -/
theorem Lasting.record {settings : Nat → Settings} {lifetimes : Lifetimes}
    (lasting : lifetimes.Lasting settings) {origin : Origin}
    (stored : origin ∈ lifetimes.everStored) :
    lifetimes.onDisk.count origin + lifetimes.everRemoved.count origin = 1 := by
  rw [count_onDisk_add]
  rcases List.mem_append.mp stored with before | now
  · have apart (id : Nat) : origin ≠ .sent lifetimes.generation id := by
      rintro rfl
      have earlier := lasting.older lifetimes.generation id
        (List.mem_append_left _ (List.mem_append_left _ before))
      exact Nat.lt_irrefl _ earlier
    rw [lasting.count_found apart, Nat.add_comm]
    exact lasting.once origin before
  · obtain ⟨id, kept, rfl⟩ := List.mem_map.mp now
    have fresh : lifetimes.removed.count (.sent lifetimes.generation id) =
      0 := by
      apply List.count_eq_zero.mpr
      intro member
      have earlier := lasting.older lifetimes.generation id
        (List.mem_append_right _ member)
      exact Nat.lt_irrefl _ earlier
    rw [fresh, lasting.count_sent, spoolRecord_of_stored lasting.reached kept]

theorem leftover_names (files : List File) :
    (leftover files).map File.name = files.map File.name := by
  apply List.ext_getElem <;> simp [leftover]

theorem leftover_items (files : List File) :
    (leftover files).map File.item =
      (List.range (leftover files).length).map Item.found := by
  apply List.ext_getElem <;> simp [leftover]

/-- What a process knows by origin is at most as new as the process. -/
theorem Lasting.generation_le {settings : Nat → Settings}
    {lifetimes : Lifetimes} (lasting : lifetimes.Lasting settings)
    {generation id : Nat} {items : List Item}
    (member : .sent generation id ∈ items.map lifetimes.originOf) :
    generation ≤ lifetimes.generation := by
  obtain ⟨item, -, same⟩ := List.mem_map.mp member
  cases item with
  | sent other =>
      cases same
      exact Nat.le_refl _
  | found index =>
      rw [originOf, List.getD_eq_getElem?_getD] at same
      cases known : lifetimes.origins[index]? with
      | none =>
          rw [known] at same
          cases same
      | some origin =>
          rw [known, Option.getD_some] at same
          subst same
          have member := List.mem_of_getElem? known
          exact Nat.le_of_lt (lasting.older generation id
            (List.mem_append_left _ (List.mem_append_right _ member)))

theorem Lasting.restart {settings : Nat → Settings} {lifetimes : Lifetimes}
    (lasting : lifetimes.Lasting settings) (calls : Nat) (spawned : Bool) :
    (lifetimes.restart calls spawned).Lasting settings := by
  constructor
  · apply Library.Machine.Reach.start
    refine ⟨calls, leftover lifetimes.current.files, spawned, ?_,
      leftover_items _, rfl⟩
    rw [leftover_names]
    exact (named_of_reachable lasting.reached).distinct
  · simp [Lifetimes.restart, leftover]
  · intro origin stored
    exact lasting.record stored
  · intro generation id member
    apply Nat.lt_succ_of_le
    rcases List.mem_append.mp member with known | removed
    · rcases List.mem_append.mp known with stored | origin
      · rcases List.mem_append.mp stored with before | now
        · exact Nat.le_of_lt (lasting.older generation id
            (List.mem_append_left _ (List.mem_append_left _ before)))
        · obtain ⟨other, -, same⟩ := List.mem_map.mp now
          cases same
          exact Nat.le_refl _
      · rw [Lifetimes.restart, ← Function.comp_def, ← List.map_map] at origin
        exact lasting.generation_le origin
    · rcases List.mem_append.mp removed with before | now
      · exact Nat.le_of_lt (lasting.older generation id
          (List.mem_append_right _ before))
      · exact lasting.generation_le now

theorem lasting_of_reachable {settings : Nat → Settings} {lifetimes : Lifetimes}
    (reached : (machine settings).Reachable lifetimes) :
    lifetimes.Lasting settings := by
  apply reached.induct
  · rintro lifetimes ⟨state, started, rfl⟩
    refine ⟨.start started, by simp, List.forall_mem_nil _, ?_⟩
    intro generation id member
    simp at member
  · intro before label after lasting _ moved
    cases label with
    | restart calls spawned =>
        cases moved
        exact lasting.restart calls spawned
    | move label =>
        obtain ⟨current, stepped, rfl⟩ := Option.map_eq_some_iff.mp moved
        refine ⟨.step lasting.reached trivial stepped, ?_, lasting.once,
          lasting.older⟩
        rw [found_of_step stepped]
        exact lasting.found

/-- Whatever the processes do and wherever they end, an envelope that a spool
accepted is in its file, or was removed once by the limits or a replay and is
gone for good. -/
theorem stored_outlives_processes (settings : Nat → Settings)
    (lifetimes : Lifetimes) (reached : (machine settings).Reachable lifetimes) :
    ∀ origin ∈ lifetimes.everStored,
      (lifetimes.onDisk.count origin = 1 ∧ origin ∉ lifetimes.everRemoved) ∨
        (origin ∉ lifetimes.onDisk ∧
          lifetimes.everRemoved.count origin = 1) := by
  intro origin stored
  have once := (lasting_of_reachable reached).record stored
  rcases Nat.eq_zero_or_pos (lifetimes.onDisk.count origin) with none | some
  · exact .inr ⟨List.count_eq_zero.mp none, by omega⟩
  · exact .inl ⟨by omega, List.count_eq_zero.mp (by omega)⟩

def firstProcess : Lifetimes := { current := oneThread, origins := [] }

/-- An envelope stored by a process that is killed, then sent by the next one.
  -/
theorem stored_outlives_processes_replayed :
    ∃ lifetimes : Lifetimes, .sent 0 0 ∈ lifetimes.everStored ∧
      ((lifetimes.onDisk.count (.sent 0 0) = 1 ∧
          .sent 0 0 ∉ lifetimes.everRemoved) ∨
        (.sent 0 0 ∉ lifetimes.onDisk ∧
          lifetimes.everRemoved.count (.sent 0 0) = 1)) := by
  have run :
      ((machine fun _ => rendezvous 10 1000).exec firstProcess
        (overflow.map Label.move ++
          [.move (.thread 0 (.spool .finish)), .restart 1 true,
            .move (.worker (.build true)), .move (.worker .list),
            .move (.worker .load),
            .move (.worker (.replay sampleInstant (answering 200))),
            .move (.worker (.remove true))])).map
          (fun lifetimes => (lifetimes.everStored, lifetimes.everRemoved)) =
        some ([.sent 0 0], [.sent 0 0]) := by decide +kernel
  obtain ⟨lifetimes, executed, seen⟩ := Option.map_eq_some_iff.mp run
  simp only [Prod.mk.injEq] at seen
  have started : (machine fun _ => rendezvous 10 1000).start firstProcess :=
    ⟨oneThread, oneThread_starts, rfl⟩
  have stored : .sent 0 0 ∈ lifetimes.everStored := by
    rw [seen.1]
    exact List.mem_singleton_self _
  exact ⟨lifetimes, stored,
    stored_outlives_processes (fun _ => rendezvous 10 1000) lifetimes
      (Library.Machine.reachable_of_exec started executed) _ stored⟩

end Lifetimes

end Transport

end Allstak
