import Allstak.Library.Suffix
import Allstak.Transport.SpoolOrder

/-!
# What the limits leave

`enforce_limits` lists the spool once, removes files from the front of the
listing while they are too many, and then while they are too large.  What is
left is the longest suffix of the listing within both limits: nothing is removed
in vain and nothing is kept in excess.
-/

namespace Allstak

def WithinEvents (maxEvents : Nat) (files : List (String × Nat)) : Prop :=
  files.length ≤ maxEvents

def WithinBytes (maxBytes : Nat) (files : List (String × Nat)) : Prop :=
  (files.map Prod.snd).sum ≤ maxBytes

instance (maxEvents : Nat) : DecidablePred (WithinEvents maxEvents) :=
  fun files => inferInstanceAs (Decidable (files.length ≤ maxEvents))

instance (maxBytes : Nat) : DecidablePred (WithinBytes maxBytes) :=
  fun files => inferInstanceAs (Decidable ((files.map Prod.snd).sum ≤ maxBytes))

def WithinLimits (maxEvents maxBytes : Nat) (files : List (String × Nat)) :
    Prop :=
  WithinEvents maxEvents files ∧ WithinBytes maxBytes files

private theorem withinEvents_closed (maxEvents : Nat) :
    Library.Suffix.Closed (WithinEvents maxEvents) := by
  intro file files few
  unfold WithinEvents at few ⊢
  rw [List.length_cons] at few
  omega

private theorem withinBytes_closed (maxBytes : Nat) :
    Library.Suffix.Closed (WithinBytes maxBytes) := by
  intro file files small
  unfold WithinBytes at small ⊢
  rw [List.map_cons, List.sum_cons] at small
  omega

private theorem withinLimits_closed (maxEvents maxBytes : Nat) :
    Library.Suffix.Closed (WithinLimits maxEvents maxBytes) :=
  fun file files within =>
    ⟨withinEvents_closed maxEvents file files within.1,
      withinBytes_closed maxBytes file files within.2⟩

/-- The first loop leaves the longest suffix within its limit. -/
theorem removeExcess_longest (maxEvents : Nat) (files : List (String × Nat)) :
    (removeExcess maxEvents files).2 =
      Library.Suffix.longest (WithinEvents maxEvents) files := by
  induction files with
  | nil => rfl
  | cons file files induction =>
      rw [removeExcess, Library.Suffix.longest]
      by_cases many : maxEvents < files.length + 1
      · have excess : ¬ WithinEvents maxEvents (file :: files) :=
          Nat.not_le.mpr many
        rw [if_pos many, if_neg excess]
        exact induction
      · have few : WithinEvents maxEvents (file :: files) := Nat.not_lt.mp many
        rw [if_neg many, if_pos few]

/-- The second loop leaves the longest suffix within its limit, as long as its
total is the size of the files it has left. -/
theorem removeOversize_longest (maxBytes : Nat) (files : List (String × Nat)) :
    files.map Prod.fst =
      removeOversize maxBytes (files.map Prod.snd).sum files ++
        (Library.Suffix.longest (WithinBytes maxBytes) files).map Prod.fst := by
  induction files with
  | nil => rfl
  | cons file files induction =>
      have total :
          ((file :: files).map Prod.snd).sum - file.2 =
            (files.map Prod.snd).sum := by
        rw [List.map_cons, List.sum_cons]
        omega
      rw [removeOversize, Library.Suffix.longest]
      by_cases large : maxBytes < ((file :: files).map Prod.snd).sum
      · have excess : ¬ WithinBytes maxBytes (file :: files) :=
          Nat.not_le.mpr large
        rw [if_pos large, if_neg excess, total, List.map_cons,
          List.cons_append, ← induction]
      · have small : WithinBytes maxBytes (file :: files) := Nat.not_lt.mp large
        rw [if_neg large, if_pos small, List.nil_append]

/-- The removals of `enforce_limits` under limits of any size, in order. -/
def limitRemovals (maxEvents maxBytes : Nat) (files : List (String × Nat)) :
    List String :=
  let (removed, kept) := removeExcess maxEvents files
  removed ++ removeOversize maxBytes (kept.map Prod.snd).sum kept

theorem EventSpool.enforceLimits_eq (spool : EventSpool)
    (files : List (String × Nat)) :
    spool.enforceLimits files =
      limitRemovals spool.maxEvents spool.maxBytes files := rfl

/-- The listing is what is removed and after it what is left. -/
theorem limitRemovals_split (maxEvents maxBytes : Nat)
    (files : List (String × Nat)) :
    ∃ removed kept, files = removed ++ kept ∧
      limitRemovals maxEvents maxBytes files = removed.map Prod.fst ∧
      Library.Suffix.IsLongest (WithinLimits maxEvents maxBytes) files kept := by
  have few : Library.Suffix.IsLongest (WithinEvents maxEvents) files
      (Library.Suffix.longest (WithinEvents maxEvents) files) :=
    Library.Suffix.longest_isLongest (Nat.zero_le _) files
  have small : Library.Suffix.IsLongest (WithinBytes maxBytes) _ _ :=
    Library.Suffix.longest_isLongest (Nat.zero_le _)
      (Library.Suffix.longest (WithinEvents maxEvents) files)
  have both := few.inner (withinEvents_closed maxEvents) small
  obtain ⟨removed, split⟩ := both.suffix
  refine ⟨removed, _, split.symm, ?_, both⟩
  have names := removeExcess_append maxEvents files
  have left := removeOversize_longest maxBytes (removeExcess maxEvents files).2
  rw [removeExcess_longest] at names left
  have plan : limitRemovals maxEvents maxBytes files =
      (removeExcess maxEvents files).1 ++
        removeOversize maxBytes
          ((removeExcess maxEvents files).2.map Prod.snd).sum
          (removeExcess maxEvents files).2 := rfl
  apply List.append_cancel_right
  rw [plan, removeExcess_longest, List.append_assoc, ← left, names,
    ← List.map_append, split]

/-- The directory after the removals, all of which succeed. -/
def removeFiles (directory : List File) (paths : List String) : List File :=
  paths.foldl removeFile directory

theorem removeFiles_eq_filter (directory : List File) (paths : List String) :
    removeFiles directory paths =
      directory.filter fun file => file.name ∉ paths := by
  induction paths generalizing directory with
  | nil => simp [removeFiles]
  | cons path paths induction =>
      rw [removeFiles, List.foldl_cons, ← removeFiles, induction, removeFile,
        List.filter_filter]
      apply List.filter_congr
      intro file _
      simp only [List.mem_cons, not_or, ← Bool.decide_and]
      congr 1
      exact propext And.comm

/-- Two files of a directory with one name are the same file. -/
theorem eq_of_mem_filesWithSizes {directory : List File}
    (distinct : (directory.map File.name).Nodup) {left right : String × Nat}
    (first : left ∈ filesWithSizes directory)
    (second : right ∈ filesWithSizes directory) (same : left.1 = right.1) :
    left = right := by
  have once := spoolFiles_nodup distinct
  exact List.inj_on_of_nodup_map once first second same

private theorem filesWithSizes_sorted (directory : List File) :
    (filesWithSizes directory).Pairwise fun left right => left.1 ≤ right.1 :=
  List.pairwise_map.mp (spoolFiles_sorted directory)

private theorem mem_filesWithSizes {directory : List File}
    {listed : String × Nat} :
    listed ∈ filesWithSizes directory ↔
      ∃ file ∈ directory, isSpoolName file.name = true ∧
        (file.name, file.content.length) = listed := by
  unfold filesWithSizes
  simp only [List.mem_insertionSort, List.mem_map, List.mem_filter, and_assoc]

/-- Listing what is left of a directory is leaving out of the listing. -/
theorem filesWithSizes_removeFiles {directory : List File}
    (distinct : (directory.map File.name).Nodup) (paths : List String) :
    filesWithSizes (removeFiles directory paths) =
      (filesWithSizes directory).filter fun listed => listed.1 ∉ paths := by
  rw [removeFiles_eq_filter]
  have sortedLeft := filesWithSizes_sorted
    (directory.filter fun file => file.name ∉ paths)
  have sortedRight := (filesWithSizes_sorted directory).filter
    fun listed => listed.1 ∉ paths
  have permuted :
      (filesWithSizes (directory.filter fun file => file.name ∉ paths)).Perm
        ((filesWithSizes directory).filter fun listed => listed.1 ∉ paths) := by
    unfold filesWithSizes
    refine (List.perm_insertionSort _ _).trans ?_
    refine List.Perm.trans ?_ ((List.perm_insertionSort _ _).filter _).symm
    rw [List.filter_map, List.filter_filter, List.filter_filter]
    apply List.Perm.of_eq
    congr 1
    apply List.filter_congr
    intro file _
    rw [Bool.and_comm]
    rfl
  refine permuted.eq_of_pairwise ?_ sortedLeft sortedRight
  intro left right first second below above
  have member := permuted.subset first
  exact eq_of_mem_filesWithSizes distinct (List.mem_of_mem_filter member)
    (List.mem_of_mem_filter second) (le_antisymm below above)

/-- `enforce_limits` on a directory, under limits of any size. -/
def enforceLimits (maxEvents maxBytes : Nat) (directory : List File) :
    List File :=
  removeFiles directory
    (limitRemovals maxEvents maxBytes (filesWithSizes directory))

theorem enforceLimits_split (maxEvents maxBytes : Nat) {directory : List File}
    (distinct : (directory.map File.name).Nodup) :
    ∃ removed kept : List (String × Nat),
      filesWithSizes directory = removed ++ kept ∧
        Library.Suffix.IsLongest (WithinLimits maxEvents maxBytes)
          (filesWithSizes directory) kept ∧
        filesWithSizes (enforceLimits maxEvents maxBytes directory) = kept ∧
        enforceLimits maxEvents maxBytes directory =
          directory.filter fun file =>
            !isSpoolName file.name || decide (file.name ∈ kept.map Prod.fst) := by
  obtain ⟨removed, kept, split, plan, longest⟩ :=
    limitRemovals_split maxEvents maxBytes (filesWithSizes directory)
  have once : ((removed ++ kept).map Prod.fst).Nodup :=
    split ▸ spoolFiles_nodup distinct
  rw [List.map_append] at once
  have apart := (List.nodup_append.mp once).2.2
  refine ⟨removed, kept, split, longest, ?_, ?_⟩
  · rw [enforceLimits, filesWithSizes_removeFiles distinct, plan, split,
      List.filter_append]
    have gone : removed.filter (fun listed =>
        listed.1 ∉ removed.map Prod.fst) = [] := by
      apply List.filter_eq_nil_iff.mpr
      intro listed member
      simp only [decide_eq_true_eq, not_not]
      exact List.mem_map_of_mem member
    have left : kept.filter (fun listed =>
        listed.1 ∉ removed.map Prod.fst) = kept := by
      apply List.filter_eq_self.mpr
      intro listed member
      apply decide_eq_true
      intro earlier
      exact apart _ earlier _ (List.mem_map_of_mem member) rfl
    rw [gone, left, List.nil_append]
  · rw [enforceLimits, removeFiles_eq_filter, plan]
    apply List.filter_congr
    intro file member
    rw [Bool.eq_iff_iff, Bool.or_eq_true, Bool.not_eq_true', decide_eq_true_eq,
      decide_eq_true_eq]
    have listing : file.name ∈ removed.map Prod.fst ∨
        file.name ∈ kept.map Prod.fst ↔ isSpoolName file.name = true := by
      rw [← List.mem_append, ← List.map_append, ← split]
      refine mem_spoolFiles_iff.trans ⟨fun listed => listed.1, fun named => ?_⟩
      exact ⟨named, List.mem_map_of_mem member⟩
    constructor
    · intro stays
      cases named : isSpoolName file.name with
      | false => exact .inl rfl
      | true => exact .inr ((listing.mpr named).resolve_left stays)
    · rintro (outside | left) evicted
      · have named := listing.mp (.inl evicted)
        rw [outside] at named
        cases named
      · exact apart _ evicted _ left rfl

/-- The limits leave the longest suffix of the listing with at most so many files
and bytes; every file outside the listing stays. -/
theorem enforceLimits_keeps_longest_suffix (maxEvents maxBytes : Nat)
    (directory : List File) (distinct : (directory.map File.name).Nodup) :
    ∃ removed kept : List (String × Nat),
      filesWithSizes directory = removed ++ kept ∧
        kept.length ≤ maxEvents ∧ (kept.map Prod.snd).sum ≤ maxBytes ∧
        (∀ suffix, suffix <:+ filesWithSizes directory →
          suffix.length ≤ maxEvents → (suffix.map Prod.snd).sum ≤ maxBytes →
          suffix <:+ kept) ∧
        filesWithSizes (enforceLimits maxEvents maxBytes directory) = kept ∧
        enforceLimits maxEvents maxBytes directory =
          (directory.filter fun file =>
            !isSpoolName file.name || decide (file.name ∈ kept.map Prod.fst)) ∧
        ∀ file ∈ directory, isSpoolName file.name = false →
          file ∈ enforceLimits maxEvents maxBytes directory := by
  obtain ⟨removed, kept, split, longest, left, stays⟩ :=
    enforceLimits_split maxEvents maxBytes distinct
  obtain ⟨few, small⟩ := longest.admitted
  refine ⟨removed, kept, split, few, small, ?_, left, stays, ?_⟩
  · intro suffix tail few small
    exact longest.greatest suffix tail ⟨few, small⟩
  · intro file member outside
    rw [stays, List.mem_filter, outside]
    exact ⟨member, rfl⟩

def fourFiles : List File :=
  [{ name := "3" ++ SPOOL_SUFFIX, content := [1, 2], item := .found 0 },
    { name := "1" ++ SPOOL_SUFFIX, content := [1, 2], item := .found 1 },
    { name := "notes.txt", content := [1, 2], item := .found 2 },
    { name := "2" ++ SPOOL_SUFFIX, content := [1, 2], item := .found 3 }]

/-- Three files of two bytes each under a limit of five bytes, and a file of
another name. -/
theorem enforceLimits_keeps_longest_suffix_sample :
    ∃ removed kept : List (String × Nat),
      filesWithSizes fourFiles = removed ++ kept ∧
        kept.length ≤ 3 ∧ (kept.map Prod.snd).sum ≤ 5 ∧
        (∀ suffix, suffix <:+ filesWithSizes fourFiles →
          suffix.length ≤ 3 → (suffix.map Prod.snd).sum ≤ 5 →
          suffix <:+ kept) ∧
        filesWithSizes (enforceLimits 3 5 fourFiles) = kept ∧
        enforceLimits 3 5 fourFiles =
          (fourFiles.filter fun file =>
            !isSpoolName file.name || decide (file.name ∈ kept.map Prod.fst)) ∧
        ∀ file ∈ fourFiles, isSpoolName file.name = false →
          file ∈ enforceLimits 3 5 fourFiles :=
  enforceLimits_keeps_longest_suffix 3 5 fourFiles (by decide)

/-- A spool file of this name may stay: it and the spool files after it keep to
the limits. -/
def Fits (maxEvents maxBytes : Nat) (directory : List File) (path : String) :
    Prop :=
  WithinLimits maxEvents maxBytes
    ((filesWithSizes directory).filter fun listed => path ≤ listed.1)

/-- The files from one on, in a listing in order. -/
theorem filter_eq_suffix {listing before after : List (String × Nat)}
    {listed : String × Nat}
    (sorted : listing.Pairwise fun left right => left.1 ≤ right.1)
    (distinct : (listing.map Prod.fst).Nodup)
    (split : listing = before ++ listed :: after) :
    listing.filter (fun other => listed.1 ≤ other.1) = listed :: after := by
  subst split
  obtain ⟨-, sortedTail, across⟩ := List.pairwise_append.mp sorted
  rw [List.map_append] at distinct
  have apart := (List.nodup_append.mp distinct).2.2
  rw [List.filter_append]
  have smaller : before.filter (fun other => listed.1 ≤ other.1) = [] := by
    apply List.filter_eq_nil_iff.mpr
    intro other member above
    have below := across other member listed List.mem_cons_self
    exact apart _ (List.mem_map_of_mem member) _
      (List.mem_map_of_mem List.mem_cons_self)
      (le_antisymm below (of_decide_eq_true above))
  have larger : (listed :: after).filter
      (fun other => listed.1 ≤ other.1) = listed :: after := by
    apply List.filter_eq_self.mpr
    intro other member
    apply decide_eq_true
    rcases List.mem_cons.mp member with rfl | later
    · exact le_refl _
    · exact (List.pairwise_cons.mp sortedTail).1 other later
  rw [smaller, larger, List.nil_append]

/-- A spool file stays exactly when it and those after it fit. -/
theorem mem_enforceLimits_iff {maxEvents maxBytes : Nat} {directory : List File}
    (distinct : (directory.map File.name).Nodup) {file : File}
    (member : file ∈ directory) (named : isSpoolName file.name = true) :
    file ∈ enforceLimits maxEvents maxBytes directory ↔
      Fits maxEvents maxBytes directory file.name := by
  obtain ⟨removed, kept, split, longest, left, stays⟩ :=
    enforceLimits_split maxEvents maxBytes distinct
  have listed : (file.name, file.content.length) ∈ filesWithSizes directory :=
    mem_filesWithSizes.mpr ⟨file, member, named, rfl⟩
  obtain ⟨before, after, place⟩ := List.append_of_mem listed
  have once := spoolFiles_nodup distinct
  have exactly := longest.mem_iff (withinLimits_closed maxEvents maxBytes)
    (List.Nodup.of_map _ once) place
  have from_on := filter_eq_suffix (filesWithSizes_sorted directory) once place
  rw [Fits, from_on, ← exactly, stays, List.mem_filter]
  simp only [member, named, Bool.not_true, Bool.false_or, decide_eq_true_eq,
    true_and]
  constructor
  · intro inKept
    obtain ⟨other, there, same⟩ := List.mem_map.mp inKept
    have inListing : other ∈ filesWithSizes directory :=
      split ▸ List.mem_append_right removed there
    have equal := eq_of_mem_filesWithSizes distinct inListing listed same
    exact equal ▸ there
  · exact fun there => List.mem_map_of_mem there

end Allstak
