import Mathlib.Data.String.Basic
import Allstak.Library.Retention
import Allstak.Transport.Conservation

/-!
# The order of the spool

One process stores envelopes one after the other.  The age of a file is only in
its name, a decimal clock reading followed by a random number, and names compare
as text: the spool replays and evicts in the order of arrival as long as every
new name comes after the names in the spool, and no removal succeeds after an
older file could not be removed.
-/

namespace Allstak

theorem isSpoolName_spoolFileName (nowMillis : Nat) (uuid : Uuid) :
    isSpoolName (spoolFileName nowMillis uuid) = true := by
  rw [isSpoolName, spoolFileName, String.toList_append]
  exact decide_eq_true (List.suffix_append _ _)

theorem spoolFiles_sorted (directory : List File) :
    (spoolFiles directory).Pairwise (· ≤ ·) := by
  unfold spoolFiles filesWithSizes
  rw [List.pairwise_map]
  have total : Std.Total fun left right : String × Nat => left.1 ≤ right.1 :=
    ⟨fun left right => le_total left.1 right.1⟩
  have transitive : IsTrans (String × Nat) fun left right => left.1 ≤ right.1 :=
    ⟨fun _ _ _ => le_trans⟩
  exact List.pairwise_insertionSort _ _

theorem removeExcess_append (maxEvents : Nat) (files : List (String × Nat)) :
    (removeExcess maxEvents files).1 ++
        (removeExcess maxEvents files).2.map Prod.fst =
      files.map Prod.fst := by
  induction files with
  | nil => rfl
  | cons file files induction =>
      rw [removeExcess]
      split
      · simp [induction]
      · rfl

theorem removeOversize_initial (maxBytes total : Nat)
    (files : List (String × Nat)) :
    removeOversize maxBytes total files <+: files.map Prod.fst := by
  induction files generalizing total with
  | nil => exact List.nil_prefix
  | cons file files induction =>
      rw [removeOversize]
      split
      · exact (List.prefix_cons_inj _).mpr (induction _)
      · exact List.nil_prefix

/-- The limits take the files from the front of the listing. -/
theorem EventSpool.enforceLimits_initial (spool : EventSpool)
    (files : List (String × Nat)) :
    spool.enforceLimits files <+: files.map Prod.fst := by
  unfold EventSpool.enforceLimits
  rw [← removeExcess_append spool.maxEvents files]
  exact (List.prefix_append_right_inj _).mpr (removeOversize_initial _ _ _)

namespace Transport

theorem State.names_writeFile (state : State) (path : String) (content : Bytes) :
    (state.writeFile path content).files.map File.name =
      state.files.map File.name :=
  names_updateFile state.files path (fun file => { file with content })
    fun _ => rfl

/-- The calls of `persist` in one process, one after the other. -/
structure Spooling where
  store : State
  /-- The removals `enforce_limits` has still to try. -/
  planned : List String := []
  /-- The last clock reading. -/
  nowMillis : Nat := 0
  /-- The files in the order in which they were written, those found first. -/
  persisted : List String
  evicted : List String := []

inductive SpoolLabel where
  /-- A call up to the listing in `enforce_limits`. -/
  | persist (envelope : Envelope) (nowMillis : Nat) (uuid : Uuid)
  | evict (removed : Bool)

namespace Spooling

/-- Create the file, write it, and plan the removals. -/
def persistFile (settings : Settings) (state : State) (envelope : Envelope)
    (nowMillis : Nat) (uuid : Uuid) : Option (List String × State) := do
  let parcel := { id := state.sent, envelope }
  let begun ← State.persistStep settings parcel .start
    (.begin true (some (nowMillis, uuid))) { state with sent := state.sent + 1 }
  let written ← State.persistStep settings parcel (← begun.1) (.write none) begun.2
  let listed ← State.persistStep settings parcel (← written.1) .list written.2
  match listed.1 with
  | some (.evicting paths) => some (paths, listed.2)
  | _ => none

/-- A step of the process; it ends a call before it begins the next one. -/
def step (settings : Settings) (spooling : Spooling) :
    SpoolLabel → Option Spooling
  | .persist envelope nowMillis uuid =>
      if spooling.planned ≠ [] ∨ nowMillis < spooling.nowMillis then none
      else
        (persistFile settings spooling.store envelope nowMillis uuid).map
          fun (paths, store) =>
            { spooling with
              store
              planned := paths
              nowMillis
              persisted := spooling.persisted ++ [spoolFileName nowMillis uuid] }
  | .evict removed =>
      match spooling.planned with
      | [] => none
      | path :: paths =>
          some
            { spooling with
              store := spooling.store.evictFile path removed
              planned := paths
              evicted := spooling.evicted ++ if removed then [path] else [] }

/-- The spool of a process that has not stored anything yet. -/
def Starts (spooling : Spooling) : Prop :=
  ∃ store : State, Transport.Starts store ∧
    spooling = { store, persisted := spoolFiles store.files }

def machine (settings : Settings) : Library.Machine Spooling SpoolLabel where
  start := Starts
  next := step settings

/-- The listing that is replayed is in the order of the calls, and what was
removed is older than what is left. -/
def OldestFirst (spooling : Spooling) : Prop :=
  Library.Retention.OldestFirst spooling.persisted spooling.evicted
    (spoolFiles spooling.store.files)

/-- The new name comes after all names in the spool; a file is removed only
when it is the first of the spool. -/
def keepsOrder (spooling : Spooling) : SpoolLabel → Bool
  | .persist _ nowMillis uuid =>
      (spoolFiles spooling.store.files).all fun path =>
        path < spoolFileName nowMillis uuid
  | .evict removed =>
      !removed || (spoolFiles spooling.store.files).head? == spooling.planned.head?

structure Consistent (spooling : Spooling) : Prop where
  distinct : (spooling.store.files.map File.name).Nodup
  named : ∀ file ∈ spooling.store.files, file.name ∈ spooling.store.names
  once : spooling.persisted.Nodup
  known : spooling.persisted ⊆ spooling.store.names
  listed : spoolFiles spooling.store.files ⊆ spooling.persisted
  removed : spooling.evicted ⊆ spooling.persisted
  planned : spooling.planned ⊆ spoolFiles spooling.store.files
  plannedOnce : spooling.planned.Nodup

/-- A call that succeeds adds one file, under a new name, and plans to remove
files from the front of the listing. -/
theorem persistFile_spec {settings : Settings} {state after : State}
    {envelope : Envelope} {nowMillis : Nat} {uuid : Uuid} {paths : List String}
    (done : persistFile settings state envelope nowMillis uuid =
      some (paths, after)) :
    spoolFileName nowMillis uuid ∉ state.names ∧
      after.names = state.names ++ [spoolFileName nowMillis uuid] ∧
      after.files.map File.name =
        state.files.map File.name ++ [spoolFileName nowMillis uuid] ∧
      paths <+: spoolFiles after.files := by
  obtain ⟨⟨stage, begun⟩, begins, rest⟩ := Option.bind_eq_some_iff.mp done
  obtain ⟨stage, rfl, rest⟩ := Option.bind_eq_some_iff.mp rest
  obtain ⟨⟨next, written⟩, writes, rest⟩ := Option.bind_eq_some_iff.mp rest
  obtain ⟨next, rfl, rest⟩ := Option.bind_eq_some_iff.mp rest
  obtain ⟨⟨last, listed⟩, lists, rest⟩ := Option.bind_eq_some_iff.mp rest
  cases State.persistMove_of_step begins with
  | created configured encoded fresh =>
      cases State.persistMove_of_step writes with
      | written =>
          cases State.persistMove_of_step lists with
          | @listed spool configured =>
              cases rest
              refine ⟨fresh, rfl, ?_, spool.enforceLimits_initial _⟩
              exact (State.names_writeFile _ _ _).trans List.map_append

theorem mem_spoolFiles_appended {files : List File} {before : List File}
    {name path : String} (named : isSpoolName name = true)
    (appended : files.map File.name = before.map File.name ++ [name]) :
    path ∈ spoolFiles files ↔ path ∈ spoolFiles before ∨ path = name := by
  rw [mem_spoolFiles_iff, mem_spoolFiles_iff, appended, List.mem_append,
    List.mem_singleton]
  constructor
  · rintro ⟨spoolName, old | same⟩
    · exact .inl ⟨spoolName, old⟩
    · exact .inr same
  · rintro (⟨spoolName, old⟩ | rfl)
    · exact ⟨spoolName, .inl old⟩
    · exact ⟨named, .inr rfl⟩

theorem mem_spoolFiles_removed {files : List File} {name path : String} :
    path ∈ spoolFiles (removeFile files name) ↔
      path ∈ spoolFiles files ∧ path ≠ name := by
  rw [mem_spoolFiles_iff, mem_spoolFiles_iff]
  simp only [List.mem_map, removeFile, List.mem_filter, decide_eq_true_eq]
  constructor
  · rintro ⟨spoolName, file, ⟨member, different⟩, rfl⟩
    exact ⟨⟨spoolName, file, member, rfl⟩, different⟩
  · rintro ⟨⟨spoolName, file, member, rfl⟩, different⟩
    exact ⟨spoolName, file, ⟨member, different⟩, rfl⟩

/-- The outcomes of a step. -/
theorem step_cases {settings : Settings} {before after : Spooling}
    {label : SpoolLabel} (moved : step settings before label = some after) :
    (∃ envelope nowMillis uuid paths store,
        label = .persist envelope nowMillis uuid ∧
        persistFile settings before.store envelope nowMillis uuid =
          some (paths, store) ∧
        after =
          { before with
            store
            planned := paths
            nowMillis
            persisted := before.persisted ++ [spoolFileName nowMillis uuid] }) ∨
      ∃ removed path paths, label = .evict removed ∧
        before.planned = path :: paths ∧
        after =
          { before with
            store := before.store.evictFile path removed
            planned := paths
            evicted := before.evicted ++ if removed then [path] else [] } := by
  cases label with
  | persist envelope nowMillis uuid =>
      rw [step] at moved
      split at moved
      · cases moved
      · obtain ⟨⟨paths, store⟩, done, rfl⟩ := Option.map_eq_some_iff.mp moved
        exact .inl ⟨envelope, nowMillis, uuid, paths, store, rfl, done, rfl⟩
  | evict removed =>
      rw [step] at moved
      cases planned : before.planned with
      | nil =>
          rw [planned] at moved
          cases moved
      | cons path paths =>
          rw [planned] at moved
          cases moved
          exact .inr ⟨removed, path, paths, rfl, rfl, rfl⟩

theorem Consistent.step {settings : Settings} {before after : Spooling}
    {label : SpoolLabel} (consistent : before.Consistent)
    (moved : step settings before label = some after) : after.Consistent := by
  obtain ⟨distinct, named, once, known, listed, removed, planned, plannedOnce⟩ :=
    consistent
  rcases step_cases moved with
    ⟨envelope, nowMillis, uuid, paths, store, rfl, done, rfl⟩ |
      ⟨succeeds, path, paths, rfl, plan, rfl⟩
  · obtain ⟨fresh, names, files, front⟩ := persistFile_spec done
    have unlisted : spoolFileName nowMillis uuid ∉
        before.store.files.map File.name := by
      intro member
      obtain ⟨file, inside, same⟩ := List.mem_map.mp member
      exact fresh (same ▸ named file inside)
    have nodup : (store.files.map File.name).Nodup := by
      rw [files]
      exact List.nodup_append.mpr ⟨distinct, List.nodup_singleton _, by
        intro name old other new
        rw [List.mem_singleton.mp new]
        rintro rfl
        exact unlisted old⟩
    refine ⟨nodup, ?_, ?_, ?_, ?_, ?_, front.subset,
      front.sublist.nodup (spoolFiles_nodup nodup)⟩
    · intro file member
      have inside : file.name ∈ store.files.map File.name :=
        List.mem_map_of_mem member
      rw [files] at inside
      rw [names]
      rcases List.mem_append.mp inside with old | new
      · obtain ⟨other, there, same⟩ := List.mem_map.mp old
        exact List.mem_append_left _ (same ▸ named other there)
      · exact List.mem_append_right _ new
    · exact List.nodup_append.mpr ⟨once, List.nodup_singleton _, by
        intro name old other new
        rw [List.mem_singleton.mp new]
        rintro rfl
        exact fresh (known old)⟩
    · rw [names]
      exact List.append_subset.mpr
        ⟨fun name old => List.mem_append_left _ (known old),
          List.subset_append_right _ _⟩
    · intro name member
      rcases (mem_spoolFiles_appended (isSpoolName_spoolFileName _ _) files).mp
        member with old | rfl
      · exact List.mem_append_left _ (listed old)
      · exact List.mem_append_right _ (List.mem_singleton_self _)
    · exact fun name gone => List.mem_append_left _ (removed gone)
  · rw [plan] at planned plannedOnce
    obtain ⟨fresh, plannedOnce⟩ := List.nodup_cons.mp plannedOnce
    rw [State.evictFile]
    cases succeeds with
    | false =>
        rw [if_neg (by simp), if_neg (by simp), List.append_nil]
        exact ⟨distinct, named, once, known, listed, removed,
          fun name later => planned (List.mem_cons_of_mem _ later), plannedOnce⟩
    | true =>
        rw [if_pos rfl, if_pos rfl]
        refine ⟨(List.filter_sublist.map File.name).nodup distinct, ?_, once, known,
          ?_, ?_, ?_, plannedOnce⟩
        · exact fun file member => named file (List.mem_of_mem_filter member)
        · exact fun name member => listed (mem_spoolFiles_removed.mp member).1
        · refine List.append_subset.mpr ⟨removed, fun name single => ?_⟩
          rw [List.mem_singleton.mp single]
          exact listed (planned List.mem_cons_self)
        · intro name later
          refine mem_spoolFiles_removed.mpr
            ⟨planned (List.mem_cons_of_mem _ later), ?_⟩
          rintro rfl
          exact fresh later

/-- The test says exactly which steps keep the order. -/
theorem oldestFirst_step_iff {settings : Settings} {before after : Spooling}
    {label : SpoolLabel} (consistent : before.Consistent)
    (ordered : before.OldestFirst)
    (moved : step settings before label = some after) :
    after.OldestFirst ↔ before.keepsOrder label = true := by
  have later := consistent.step moved
  rcases step_cases moved with
    ⟨envelope, nowMillis, uuid, paths, store, rfl, done, rfl⟩ |
      ⟨succeeds, path, paths, rfl, plan, rfl⟩
  · obtain ⟨fresh, names, files, -⟩ := persistFile_spec done
    have exactly := Library.Retention.oldestFirst_arrive_iff consistent.once
      (fun member => fresh (consistent.known member)) consistent.removed
      (spoolFiles_sorted before.store.files) (spoolFiles_sorted store.files)
      (spoolFiles_nodup later.distinct)
      (fun path =>
        mem_spoolFiles_appended (isSpoolName_spoolFileName nowMillis uuid) files)
      ordered
    rw [OldestFirst, exactly, keepsOrder, List.all_eq_true]
    simp only [decide_eq_true_eq]
  · cases succeeds with
    | false =>
        rw [keepsOrder, OldestFirst]
        simp only [State.evictFile, Bool.false_eq_true, if_false, List.append_nil,
          Bool.not_false, Bool.true_or, iff_true]
        exact ordered
    | true =>
        have there : path ∈ spoolFiles before.store.files :=
          consistent.planned (plan ▸ List.mem_cons_self)
        have exactly := Library.Retention.oldestFirst_giveUp_iff consistent.once
          there (spoolFiles_sorted before.store.files)
          (spoolFiles_sorted (removeFile before.store.files path))
          (spoolFiles_nodup later.distinct)
          (fun name => mem_spoolFiles_removed) ordered
        rw [keepsOrder, plan, List.head?_cons, Bool.not_true, Bool.false_or,
          beq_iff_eq, ← exactly]
        rfl

private theorem Starts.consistent {spooling : Spooling}
    (starts : Starts spooling) :
    spooling.Consistent ∧ spooling.OldestFirst := by
  obtain ⟨store, ⟨calls, directory, spawned, distinct, -, rfl⟩, rfl⟩ := starts
  refine ⟨⟨distinct, fun file => List.mem_map_of_mem, spoolFiles_nodup distinct,
    fun name member => (mem_spoolFiles_iff.mp member).2, List.Subset.refl _,
    List.nil_subset _, List.nil_subset _, List.nodup_nil⟩, ?_⟩
  exact ⟨List.Sublist.refl _, fun old gone => by cases gone⟩

end Spooling

/-- In a sequence of successful calls, the listing is in the order of the calls
and all that was removed is older than what is left, at any time, exactly when
each new name comes after all names then in the spool and a file is only removed
from the front. -/
theorem oldestFirst_iff (settings : Settings) (initial final : Spooling)
    (labels : List SpoolLabel) (starts : Spooling.Starts initial)
    (run : (Spooling.machine settings).exec initial labels = some final) :
    (∀ spooling ∈ (Spooling.machine settings).visits initial labels,
        spooling.OldestFirst) ↔
      ((Spooling.machine settings).execWhere Spooling.keepsOrder initial
        labels).isSome := by
  obtain ⟨consistent, ordered⟩ := starts.consistent
  exact @Library.Machine.visits_iff _ _ (Spooling.machine settings)
    Spooling.keepsOrder Spooling.Consistent Spooling.OldestFirst
    (fun before label after known moved => known.step moved)
    (fun before label after known kept moved =>
      Spooling.oldestFirst_step_iff known kept moved)
    initial final labels consistent ordered run

namespace Spooling

def unused : Spooling := { store := oneThread, persisted := [] }

private theorem unused_starts : Starts unused :=
  ⟨oneThread, oneThread_starts, rfl⟩

/-- Two calls in the same millisecond, the second with the smaller random
number, on a spool that keeps one file: the second envelope is removed and the
first one stays. -/
theorem newest_is_evicted :
    ∃ final : Spooling,
      (machine (rendezvous 1 1000)).exec unused
          [.persist sampleEnvelope 1700000000000 9,
            .persist sampleEnvelope 1700000000000 3, .evict true] = some final ∧
        final.persisted =
          [spoolFileName 1700000000000 9, spoolFileName 1700000000000 3] ∧
        final.evicted = [spoolFileName 1700000000000 3] ∧
        spoolFiles final.store.files = [spoolFileName 1700000000000 9] ∧
        ¬ final.OldestFirst := by
  have run :
      ((machine (rendezvous 1 1000)).exec unused
        [.persist sampleEnvelope 1700000000000 9,
          .persist sampleEnvelope 1700000000000 3, .evict true]).map
          (fun final => decide (final.persisted =
              [spoolFileName 1700000000000 9, spoolFileName 1700000000000 3] ∧
            final.evicted = [spoolFileName 1700000000000 3] ∧
            spoolFiles final.store.files = [spoolFileName 1700000000000 9])) =
        some true := by decide +kernel
  obtain ⟨final, executed, seen⟩ := Option.map_eq_some_iff.mp run
  obtain ⟨persisted, evicted, listing⟩ := of_decide_eq_true seen
  refine ⟨final, executed, persisted, evicted, listing, ?_⟩
  rintro ⟨-, older⟩
  have wrong := older (spoolFileName 1700000000000 3) (by simp [evicted])
    (spoolFileName 1700000000000 9) (by simp [listing])
  rw [persisted] at wrong
  revert wrong
  decide +kernel

/-- Two calls a millisecond apart. -/
theorem oldestFirst_iff_apart :
    ∃ final : Spooling,
      (machine (rendezvous 1 1000)).exec unused
          [.persist sampleEnvelope 1700000000000 9,
            .persist sampleEnvelope 1700000000001 3, .evict true] = some final ∧
        ((∀ spooling ∈ (machine (rendezvous 1 1000)).visits unused
            [.persist sampleEnvelope 1700000000000 9,
              .persist sampleEnvelope 1700000000001 3, .evict true],
          spooling.OldestFirst) ↔
        ((machine (rendezvous 1 1000)).execWhere keepsOrder unused
          [.persist sampleEnvelope 1700000000000 9,
            .persist sampleEnvelope 1700000000001 3, .evict true]).isSome) := by
  have run :
      ((machine (rendezvous 1 1000)).exec unused
        [.persist sampleEnvelope 1700000000000 9,
          .persist sampleEnvelope 1700000000001 3, .evict true]).isSome := by
    decide +kernel
  obtain ⟨final, executed⟩ := Option.isSome_iff_exists.mp run
  exact ⟨final, executed, oldestFirst_iff (rendezvous 1 1000) unused final _
    unused_starts executed⟩

end Spooling

end Transport

end Allstak
