import Allstak.Transport.DeliverReference
import Allstak.Transport.Drain
import Allstak.Transport.Eviction

/-!
# Which files a drain replays

`drain_spool` works on the files in path order and stops at the first one whose
delivery is to be tried again.  Calling threads go on meanwhile and may store
envelopes of their own.
-/

namespace Allstak

theorem Attempted.limiter {category : DataCategory}
    {exchanges : Nat → Exchange} {limiter : RateLimiter} {retriesLeft : Nat}
    {counters : TransportCounters} {delivery : Delivery}
    (attempted :
      Attempted category exchanges limiter retriesLeft counters delivery)
    (settled : delivery.outcome ≠ .retryableFailure) :
    delivery.limiter = limiter := by
  induction attempted with
  | settled _ ends =>
      cases ends with
      | limited => exact absurd rfl settled
      | accepted | refused => rfl
  | exhausted => rfl
  | retried _ _ induction => exact induction settled

/-- A delivery that is not to be tried again leaves the limiter as it was. -/
theorem deliver_limiter {codec : Codec} {envelope : Envelope}
    {limiter : RateLimiter} {counters : TransportCounters} {checkedAt : Instant}
    {exchanges : Nat → Exchange} {delivery : Delivery}
    (delivered : deliver codec envelope limiter counters checkedAt exchanges =
      some delivery)
    (settled : delivery.outcome ≠ .retryableFailure) :
    delivery.limiter = limiter := by
  cases delivered_of_deliver delivered with
  | limited | unserialized => rfl
  | attempted _ _ attempted => exact attempted.limiter settled

private theorem readFile_removeFiles {directory : List File}
    {paths : List String} {path : String} (stays : path ∉ paths) :
    readFile (removeFiles directory paths) path = readFile directory path := by
  rw [removeFiles_eq_filter, readFile, readFile, List.find?_filter]
  congr 2
  funext file
  by_cases same : file.name = path
  · simp [same, stays]
  · simp [same]

private theorem loadFile_removeFiles (codec : Codec) {directory : List File}
    {paths : List String} {path : String} (stays : path ∉ paths) :
    loadFile codec (removeFiles directory paths) path =
      loadFile codec directory path := by
  rw [loadFile, loadFile, readFile_removeFiles stays]

/-- The directory is some of the files of another one, and files that have names
of their own. -/
def Beside (others old directory : List File) : Prop :=
  ∃ newer, directory = old ++ newer ∧
    ∀ file ∈ newer, file.name ∉ others.map File.name

namespace Beside

variable {others old directory : List File}

theorem refl : Beside others old old :=
  ⟨[], (List.append_nil old).symm, nofun⟩

theorem readFile (beside : Beside others old directory) {path : String}
    (named : path ∈ others.map File.name) :
    readFile directory path = Allstak.readFile old path := by
  obtain ⟨newer, rfl, apart⟩ := beside
  have missing : (newer.find? fun file => file.name = path) = none := by
    apply List.find?_eq_none.mpr
    intro file member same
    exact apart file member (of_decide_eq_true same ▸ named)
  rw [Allstak.readFile, Allstak.readFile, List.find?_append, missing,
    Option.or_none]

theorem loadFile (beside : Beside others old directory) (codec : Codec)
    {path : String} (named : path ∈ others.map File.name) :
    loadFile codec directory path = Allstak.loadFile codec old path := by
  rw [Allstak.loadFile, Allstak.loadFile, beside.readFile named]

private theorem mem_names_iff (beside : Beside others old directory)
    {path : String} (named : path ∈ others.map File.name) :
    path ∈ directory.map File.name ↔ path ∈ old.map File.name := by
  obtain ⟨newer, rfl, apart⟩ := beside
  have missing : path ∉ newer.map File.name := by
    intro listed
    obtain ⟨file, member, rfl⟩ := List.mem_map.mp listed
    exact apart file member named
  rw [List.map_append, List.mem_append, or_iff_left missing]

theorem create (beside : Beside others old directory) {file : File}
    (fresh : file.name ∉ others.map File.name) :
    Beside others old (directory ++ [file]) := by
  obtain ⟨newer, rfl, apart⟩ := beside
  refine ⟨newer ++ [file], List.append_assoc .., ?_⟩
  intro other member
  rcases List.mem_append.mp member with before | last
  · exact apart other before
  · exact List.mem_singleton.mp last ▸ fresh

/-- A file of another name is written. -/
theorem update (beside : Beside others old directory) {path : String}
    {change : File → File} (kept : ∀ file, (change file).name = file.name)
    (inside : ∀ file ∈ old, file.name ∈ others.map File.name)
    (foreign : path ∉ others.map File.name) :
    Beside others old (updateFile directory path change) := by
  obtain ⟨newer, rfl, apart⟩ := beside
  refine ⟨updateFile newer path change, ?_, ?_⟩
  · have untouched : updateFile old path change = old := by
      have same : ∀ file ∈ old,
          (if file.name = path then change file else file) = id file := by
        intro file member
        apply if_neg
        rintro rfl
        exact foreign (inside file member)
      exact (List.map_congr_left same).trans (List.map_id old)
    rw [updateFile, List.map_append]
    exact congrArg (· ++ _) untouched
  · intro file member
    obtain ⟨before, present, rfl⟩ := List.mem_map.mp member
    have same : (if before.name = path then change before else before).name =
        before.name := by
      split
      · exact kept before
      · rfl
    rw [same]
    exact apart before present

/-- A file of another name is removed. -/
theorem remove (beside : Beside others old directory) {path : String}
    (inside : ∀ file ∈ old, file.name ∈ others.map File.name)
    (foreign : path ∉ others.map File.name) :
    Beside others old (removeFile directory path) := by
  obtain ⟨newer, rfl, apart⟩ := beside
  refine ⟨removeFile newer path, ?_, ?_⟩
  · have untouched : removeFile old path = old := by
      apply List.filter_eq_self.mpr
      intro file member
      apply decide_eq_true
      rintro rfl
      exact foreign (inside file member)
    rw [removeFile, List.filter_append]
    exact congrArg (· ++ _) untouched
  · intro file member
    exact apart file (List.mem_of_mem_filter member)

/-- A file of one of the names is removed. -/
theorem removeOld (beside : Beside others old directory) {path : String}
    (named : path ∈ others.map File.name) :
    Beside others (removeFile old path) (removeFile directory path) := by
  obtain ⟨newer, rfl, apart⟩ := beside
  refine ⟨newer, ?_, apart⟩
  have untouched : removeFile newer path = newer := by
    apply List.filter_eq_self.mpr
    intro file member
    apply decide_eq_true
    rintro rfl
    exact apart file member named
  rw [removeFile, List.filter_append]
  exact congrArg (_ ++ ·) untouched

end Beside

private theorem names_removeFiles {directory : List File} {paths : List String}
    {file : File} (member : file ∈ removeFiles directory paths) :
    file.name ∈ directory.map File.name := by
  rw [removeFiles_eq_filter] at member
  exact List.mem_map_of_mem (List.mem_of_mem_filter member)

private theorem removeFiles_append (directory : List File) (paths : List String)
    (path : String) :
    removeFiles directory (paths ++ [path]) =
      removeFile (removeFiles directory paths) path := by
  rw [removeFiles, List.foldl_append]
  rfl

namespace Transport

namespace Replay

/-- What the server answers when the file of a path is delivered, and the clock
when that begins. -/
abbrev Server := String → Instant × (Nat → Exchange)

inductive Label where
  | load
  | replay
  | remove (removed : Bool)
  | thread (index : Nat) (action : State.ThreadAction)

/-- A step of the drain or of a calling thread. -/
def step (settings : Settings) (server : Server) (state : State) :
    Label → Option State
  | .load => Transport.step settings state (.worker .load)
  | .replay =>
      match state.worker with
      | .replaying path _ _ =>
          Transport.step settings state
            (.worker (.replay (server path).1 (server path).2))
      | _ => none
  | .remove removed => Transport.step settings state (.worker (.remove removed))
  | .thread index action => Transport.step settings state (.thread index action)

/-- The drain has listed the directory. -/
structure Listed (state : State) : Prop where
  worker : state.worker = .draining (spoolFiles state.files)
  distinct : (state.files.map File.name).Nodup
  named : ∀ file ∈ state.files, file.name ∈ state.names

def machine (settings : Settings) (server : Server) :
    Library.Machine State Label where
  start := Listed
  next := step settings server

/-- The file that a step of `persist` writes or removes. -/
def touched : PersistStage → PersistAction → Option String
  | .writing path _, .write _ => some path
  | .evicting (path :: _), .evict true => some path
  | _, _ => none

/-- The steps in which a removal of the drain succeeds, and no thread writes or
removes a file that the drain listed. -/
def spares (before state : State) : Label → Bool
  | .remove removed => removed
  | .thread index (.spool action) =>
      match state.threads[index]? with
      | some (.spooling _ stage) =>
          (touched stage action).all fun path =>
            !(before.files.map File.name).contains path
      | _ => true
  | _ => true

section Files

variable (settings : Settings) (server : Server) (before : State)

/-- The delivery of the file of a path, as the drain makes it that begins in
this state. -/
def deliveryOf (path : String) : Option (Envelope × Option Delivery) :=
  (loadFile settings.codec before.files path).map fun envelope =>
    (envelope,
      deliver settings.codec envelope before.limiter {} (server path).1
        (server path).2)

def ends (outcome : DeliveryOutcome) (path : String) : Bool :=
  match deliveryOf settings server before path with
  | some (_, some delivery) => delivery.outcome == outcome
  | _ => false

/-- The requests made for the file. -/
def requests (path : String) : List Post :=
  match deliveryOf settings server before path with
  | some (envelope, some delivery) =>
      requestsOf settings.codec envelope delivery.posts
  | _ => []

/-- The file is readable and its delivery panics. -/
def Panics (path : String) : Prop :=
  ∃ envelope, deliveryOf settings server before path = some (envelope, none)

/-- The files before the first one that is to be tried again. -/
def settledFiles : List String :=
  (spoolFiles before.files).takeWhile fun path =>
    !ends settings server before .retryableFailure path

/-- A drain removes the settled files and leaves all others as they were, beside
those that were created meanwhile.  It makes the requests for the settled files
and the one it stops at, and counts those that were accepted. -/
structure ReplaysPrefix (after : State) : Prop where
  files : Beside before.files
    (removeFiles before.files (settledFiles settings server before)) after.files
  posts : after.posts = before.posts ++
    (settledFiles settings server before ++
      ((spoolFiles before.files).find?
        (ends settings server before .retryableFailure)).toList).flatMap
          (requests settings server before)
  replayed : after.counters.eventsReplayed = before.counters.eventsReplayed +
    (settledFiles settings server before).countP
      (ends settings server before .accepted)

/-- The drain goes past the file. -/
def Passes (path : String) : Prop :=
  ends settings server before .retryableFailure path = false ∧
    ¬ Panics settings server before path

/-- The directory once these files are removed. -/
structure Left (removed : List String) (files : List File)
    (names : List String) : Prop where
  files : Beside before.files (removeFiles before.files removed) files
  named : ∀ file ∈ before.files, file.name ∈ names

/-- The state once these files are removed and those visited. -/
structure Replayed (state : State) (removed visited : List String) : Prop where
  left : Left before removed state.files state.names
  posts : state.posts =
    before.posts ++ visited.flatMap (requests settings server before)
  replayed : state.counters.eventsReplayed = before.counters.eventsReplayed +
    visited.countP (ends settings server before .accepted)

/-- How far the drain has come. -/
inductive Stage (state : State) : Prop where
  | draining {done paths : List String} :
      state.worker = .draining paths → state.limiter = before.limiter →
      spoolFiles before.files = done ++ paths →
      (∀ path ∈ done, Passes settings server before path) →
      Replayed settings server before state done done → Stage state
  | replaying {done paths : List String} {path : String} {envelope : Envelope} :
      state.worker = .replaying path paths envelope →
      state.limiter = before.limiter →
      spoolFiles before.files = done ++ path :: paths →
      (∀ path ∈ done, Passes settings server before path) →
      loadFile settings.codec before.files path = some envelope →
      Replayed settings server before state done done → Stage state
  | removing {done paths : List String} {path : String} {fate : Fate} :
      state.worker = .removing path paths fate →
      state.limiter = before.limiter →
      spoolFiles before.files = done ++ path :: paths →
      (∀ path ∈ done, Passes settings server before path) →
      Passes settings server before path →
      Replayed settings server before state done (done ++ [path]) → Stage state
  | finished {done : List String} :
      state.worker = .idle → spoolFiles before.files = done →
      (∀ path ∈ done, Passes settings server before path) →
      Replayed settings server before state done done → Stage state
  | stopped {done paths : List String} {path : String} :
      state.worker = .idle →
      spoolFiles before.files = done ++ path :: paths →
      (∀ path ∈ done, Passes settings server before path) →
      ends settings server before .retryableFailure path = true →
      Replayed settings server before state done (done ++ [path]) → Stage state
  | panicked {done paths : List String} {path : String} :
      state.worker = .gone →
      spoolFiles before.files = done ++ path :: paths →
      (∀ path ∈ done, Passes settings server before path) →
      Panics settings server before path →
      Left before done state.files state.names → Stage state

end Files

variable {settings : Settings} {server : Server} {before : State}

/-- A step of `persist` that spares the files that were listed. -/
theorem Left.persist {state after : State} {parcel : Parcel}
    {stage : PersistStage} {action : PersistAction} {next : Option PersistStage}
    {removed : List String}
    (left : Left before removed state.files state.names)
    (move : State.PersistMove settings parcel state action stage next after)
    (foreign : ∀ path ∈ touched stage action,
      path ∉ before.files.map File.name) :
    Left before removed after.files after.names := by
  have inside : ∀ file ∈ removeFiles before.files removed,
      file.name ∈ before.files.map File.name := fun _ => names_removeFiles
  cases move with
  | refused | listed | stored => exact ⟨left.files, left.named⟩
  | created _ _ fresh =>
      refine ⟨left.files.create ?_, ?_⟩
      · intro listed
        obtain ⟨file, member, same⟩ := List.mem_map.mp listed
        have taken := left.named file member
        rw [same] at taken
        exact fresh taken
      · exact fun file member => List.mem_append_left _ (left.named file member)
  | written | spoiled =>
      exact ⟨left.files.update (fun _ => rfl) inside (foreign _ rfl), left.named⟩
  | @evicted path paths unlinked =>
      cases unlinked with
      | false => exact ⟨left.files, left.named⟩
      | true =>
          exact ⟨left.files.remove inside (foreign path rfl), left.named⟩

/-- A step of a thread that spares the files that were listed. -/
theorem thread_frame {state after : State} {index : Nat}
    {action : State.ThreadAction}
    (spared : spares before state (.thread index action) = true)
    (stepped : Transport.step settings state (.thread index action) = some after) :
    (∀ removed, Left before removed state.files state.names →
        Left before removed after.files after.names) ∧
      after.limiter = state.limiter ∧ after.posts = state.posts ∧
      after.counters.eventsReplayed = state.counters.eventsReplayed ∧
      (after.worker = state.worker ∨ ∃ ack, state.worker = .acking ack) := by
  obtain ⟨activity, found, moved⟩ := Option.bind_eq_some_iff.mp stepped
  have move := State.threadMove_of_step moved
  obtain ⟨limiter, posts⟩ := move.posts
  have worker : after.worker = state.worker ∨
      ∃ ack, state.worker = .acking ack := by
    rcases move.worker with same | ⟨acking, -⟩
    · exact .inl same
    · exact .inr acking
  have foreign {parcel : Parcel} {stage : PersistStage} {stored : PersistAction}
      (spooling : activity = .spooling parcel stage)
      (stores : action = .spool stored) :
      ∀ path ∈ touched stage stored, path ∉ before.files.map File.name := by
    subst spooling stores
    intro path held
    simp only [spares, found] at spared
    rw [Option.mem_def.mp held] at spared
    simpa using spared
  have counted {parcel : Parcel} {stage : PersistStage} {stored : PersistAction}
      {next : Option PersistStage} {middle : State}
      (persisted : State.PersistMove settings parcel state stored stage next
        middle) :
      middle.counters.eventsReplayed = state.counters.eventsReplayed := by
    cases persisted with
    | evicted =>
        unfold State.evictFile
        split <;> rfl
    | _ => rfl
  suffices same : (∀ removed, Left before removed state.files state.names →
      Left before removed after.files after.names) ∧
      after.counters.eventsReplayed = state.counters.eventsReplayed from
    ⟨same.1, limiter, posts, same.2, worker⟩
  cases move with
  | spooling persisted | spooled persisted =>
      exact ⟨fun _ left => (left.persist persisted (foreign rfl rfl) :),
        (counted persisted :)⟩
  | taken | unheard | timeout | acknowledge =>
      rw [State.endFlush_eq]
      exact ⟨fun _ left => left, rfl⟩
  | _ => exact ⟨fun _ left => left, rfl⟩

theorem Replayed.frame {state after : State} {removed visited : List String}
    (replayed : Replayed settings server before state removed visited)
    (left : Left before removed after.files after.names)
    (posts : after.posts = state.posts)
    (counted : after.counters.eventsReplayed =
      state.counters.eventsReplayed) :
    Replayed settings server before after removed visited :=
  ⟨left, posts.trans replayed.posts, counted.trans replayed.replayed⟩

theorem Stage.frame {state after : State}
    (stage : Stage settings server before state)
    (worker : after.worker = state.worker)
    (keeps : ∀ removed, Left before removed state.files state.names →
      Left before removed after.files after.names)
    (limiter : after.limiter = state.limiter)
    (posts : after.posts = state.posts)
    (counted : after.counters.eventsReplayed =
      state.counters.eventsReplayed) :
    Stage settings server before after := by
  have keep {removed visited : List String}
      (replayed : Replayed settings server before state removed visited) :
      Replayed settings server before after removed visited :=
    replayed.frame (keeps removed replayed.left) posts counted
  cases stage with
  | draining phase same split passes replayed =>
      exact .draining (worker.trans phase) (limiter.trans same) split passes
        (keep replayed)
  | replaying phase same split passes loaded replayed =>
      exact .replaying (worker.trans phase) (limiter.trans same) split passes
        loaded (keep replayed)
  | removing phase same split passes passed replayed =>
      exact .removing (worker.trans phase) (limiter.trans same) split passes
        passed (keep replayed)
  | finished phase split passes replayed =>
      exact .finished (worker.trans phase) split passes (keep replayed)
  | stopped phase split passes stops replayed =>
      exact .stopped (worker.trans phase) split passes stops (keep replayed)
  | panicked phase split passes panics left =>
      exact .panicked (worker.trans phase) split passes panics (keeps _ left)

/-- No stage waits for an acknowledgement. -/
theorem Stage.not_acking {state : State}
    (stage : Stage settings server before state) (ack : Nat) :
    state.worker ≠ .acking ack := by
  intro acking
  cases stage with
  | draining phase | replaying phase | removing phase
  | finished phase | stopped phase | panicked phase =>
      rw [acking] at phase
      cases phase

section Delivered

variable {state : State} {path : String} {envelope : Envelope}

/-- A delivery made in the drain is the one the statements speak of. -/
theorem delivery_eq (same : state.limiter = before.limiter) :
    (deliver settings.codec envelope state.limiter state.counters
        (server path).1 (server path).2).map Delivery.uncounted =
      (deliver settings.codec envelope before.limiter {} (server path).1
        (server path).2).map Delivery.uncounted := by
  rw [same]
  exact deliver_uncounted _ _ _ _ _ _ _

private theorem panics_of_none (same : state.limiter = before.limiter)
    (loaded : loadFile settings.codec before.files path = some envelope)
    (panicked : deliver settings.codec envelope state.limiter state.counters
      (server path).1 (server path).2 = none) :
    Panics settings server before path := by
  have equal := @delivery_eq settings server before state path envelope same
  rw [panicked, Option.map_none] at equal
  have none := Option.map_eq_none_iff.mp equal.symm
  exact ⟨envelope, by rw [deliveryOf, loaded, Option.map_some, none]⟩

theorem delivered_spec {delivery : Delivery}
    (same : state.limiter = before.limiter)
    (loaded : loadFile settings.codec before.files path = some envelope)
    (delivered : deliver settings.codec envelope state.limiter state.counters
      (server path).1 (server path).2 = some delivery) :
    (∀ outcome, ends settings server before outcome path =
        (delivery.outcome == outcome)) ∧
      requests settings server before path =
        requestsOf settings.codec envelope delivery.posts ∧
      ¬ Panics settings server before path := by
  have equal := @delivery_eq settings server before state path envelope same
  rw [delivered, Option.map_some] at equal
  obtain ⟨other, made, uncounted⟩ := Option.map_eq_some_iff.mp equal.symm
  have known : deliveryOf settings server before path =
      some (envelope, some other) := by
    rw [deliveryOf, loaded, Option.map_some, made]
  have outcome : other.uncounted.outcome = delivery.uncounted.outcome :=
    congrArg Delivery.outcome uncounted
  have posts : other.uncounted.posts = delivery.uncounted.posts :=
    congrArg Delivery.posts uncounted
  refine ⟨fun wanted => ?_, ?_, ?_⟩
  · rw [ends, known]
    exact congrArg (· == wanted) outcome
  · rw [requests, known]
    exact congrArg (requestsOf settings.codec envelope) posts
  · rintro ⟨_, none⟩
    rw [known] at none
    cases none

theorem unreadable_spec
    (unreadable : loadFile settings.codec before.files path = none) :
    (∀ outcome, ends settings server before outcome path = false) ∧
      requests settings server before path = [] ∧
      ¬ Panics settings server before path := by
  have known : deliveryOf settings server before path = none := by
    rw [deliveryOf, unreadable, Option.map_none]
  refine ⟨fun outcome => ?_, ?_, ?_⟩
  · rw [ends, known]
  · rw [requests, known]
  · rintro ⟨_, panics⟩
    rw [known] at panics
    cases panics

end Delivered

theorem Replayed.visit {state after : State} {removed visited : List String}
    {path : String}
    (replayed : Replayed settings server before state removed visited)
    (left : Left before removed after.files after.names)
    (posts : after.posts = state.posts ++ requests settings server before path)
    (counted : after.counters.eventsReplayed = state.counters.eventsReplayed +
      if ends settings server before .accepted path then 1 else 0) :
    Replayed settings server before after removed (visited ++ [path]) where
  left := left
  posts := by
    rw [posts, replayed.posts, List.flatMap_append, List.flatMap_singleton,
      List.append_assoc]
  replayed := by
    rw [counted, replayed.replayed, List.countP_append, List.countP_singleton,
      Nat.add_assoc]

/-- The actions of the drain. -/
def Follows (server : Server) : Phase → State.WorkerAction → Prop
  | .replaying path _ _, .replay checkedAt exchanges =>
      checkedAt = (server path).1 ∧ exchanges = (server path).2
  | _, .load => True
  | _, .remove removed => removed = true
  | _, _ => False

theorem step_cases {state after : State} {label : Label}
    (spared : spares before state label = true)
    (stepped : step settings server state label = some after) :
    (∃ index action, spares before state (.thread index action) = true ∧
        Transport.step settings state (.thread index action) = some after) ∨
      ∃ action, Follows server state.worker action ∧
        State.WorkerMove settings state state.worker action after := by
  cases label with
  | load =>
      refine .inr ⟨.load, ?_, State.workerMove_of_step stepped⟩
      cases state.worker <;> exact trivial
  | replay =>
      rw [step] at stepped
      split at stepped
      · rename_i path paths envelope phase
        refine .inr ⟨.replay (server path).1 (server path).2, ?_,
          State.workerMove_of_step stepped⟩
        rw [phase]
        exact ⟨rfl, rfl⟩
      · cases stepped
  | remove removed =>
      refine .inr ⟨.remove removed, ?_, State.workerMove_of_step stepped⟩
      cases state.worker <;> exact spared
  | thread index action => exact .inl ⟨index, action, spared, stepped⟩

private theorem unlinkReplayed_frame (state : State) (path : String)
    (fate : Fate) :
    (state.unlinkReplayed path fate true).files =
        removeFile state.files path ∧
      (state.unlinkReplayed path fate true).names = state.names ∧
      (state.unlinkReplayed path fate true).limiter = state.limiter ∧
      (state.unlinkReplayed path fate true).posts = state.posts ∧
      (state.unlinkReplayed path fate true).counters = state.counters := by
  cases fate <;> exact ⟨rfl, rfl, rfl, rfl, rfl⟩

/-- A delivery counts no replay. -/
theorem untouched_replayed :
    TransportCounters.Untouched TransportCounters.eventsReplayed where
  sent _ := rfl
  failed _ := rfl
  dropped _ := rfl
  retried _ := rfl
  rateLimited _ := rfl
  prepared counters body := by
    unfold TransportCounters.prepared
    split <;> rfl

private theorem fresh_of_split {listing done paths : List String}
    {path : String}
    (once : listing.Nodup) (split : listing = done ++ path :: paths) :
    path ∉ done := by
  rw [split] at once
  intro early
  exact (List.nodup_append.mp once).2.2 path early path List.mem_cons_self rfl

section Step

variable {state after : State} {action : State.WorkerAction}
  {done paths : List String} {path : String} {envelope : Envelope}

theorem passes_of_settled {delivery : Delivery}
    (same : state.limiter = before.limiter)
    (loaded : loadFile settings.codec before.files path = some envelope)
    (delivered : deliver settings.codec envelope state.limiter state.counters
      (server path).1 (server path).2 = some delivery)
    (settled : delivery.outcome ≠ .retryableFailure) :
    Passes settings server before path := by
  obtain ⟨outcomes, -, calm⟩ := delivered_spec same loaded delivered
  refine ⟨?_, calm⟩
  rw [outcomes]
  exact beq_false_of_ne settled

/-- A delivery visits its file. -/
theorem Replayed.delivered {delivery : Delivery} {removed visited : List String}
    (replayed : Replayed settings server before state removed visited)
    (same : state.limiter = before.limiter)
    (loaded : loadFile settings.codec before.files path = some envelope)
    (delivered : deliver settings.codec envelope state.limiter state.counters
      (server path).1 (server path).2 = some delivery)
    (left : Left before removed after.files after.names)
    (posts : after.posts = state.posts ++
      requestsOf settings.codec envelope delivery.posts)
    (counted : after.counters.eventsReplayed =
      delivery.counters.eventsReplayed +
        if delivery.outcome == .accepted then 1 else 0) :
    Replayed settings server before after removed (visited ++ [path]) := by
  obtain ⟨outcomes, made, -⟩ := delivered_spec same loaded delivered
  apply replayed.visit left
  · rw [posts, made]
  · rw [counted, outcomes, deliver_untouched untouched_replayed delivered]

/-- A listed file that was not removed is read as it was. -/
theorem Left.loadFile {files : List File} {names : List String}
    (left : Left before done files names)
    (once : (spoolFiles before.files).Nodup)
    (split : spoolFiles before.files = done ++ path :: paths) :
    Allstak.loadFile settings.codec files path =
      Allstak.loadFile settings.codec before.files path := by
  have listed : path ∈ spoolFiles before.files :=
    split ▸ List.mem_append_right _ List.mem_cons_self
  rw [left.files.loadFile _ (mem_spoolFiles_iff.mp listed).2,
    loadFile_removeFiles _ (fresh_of_split once split)]

theorem Stage.draining_step (once : (spoolFiles before.files).Nodup)
    (same : state.limiter = before.limiter)
    (split : spoolFiles before.files = done ++ paths)
    (passes : ∀ path ∈ done, Passes settings server before path)
    (replayed : Replayed settings server before state done done)
    (move : State.WorkerMove settings state (.draining paths) action after) :
    Stage settings server before after := by
  cases move with
  | drained =>
      rw [List.append_nil] at split
      exact .finished rfl split passes (replayed.frame replayed.left rfl rfl)
  | @unreadable path paths failed =>
      rw [replayed.left.loadFile once split] at failed
      obtain ⟨outcomes, none, calm⟩ :=
        @unreadable_spec settings server before path failed
      refine .removing rfl same split passes ⟨outcomes _, calm⟩
        (replayed.visit replayed.left ?_ ?_)
      · rw [none, List.append_nil]
      · rw [outcomes]
        rfl
  | @loaded path paths envelope found =>
      rw [replayed.left.loadFile once split] at found
      exact .replaying rfl same split passes found
        (replayed.frame replayed.left rfl rfl)

theorem Stage.replaying_step (same : state.limiter = before.limiter)
    (split : spoolFiles before.files = done ++ path :: paths)
    (passes : ∀ path ∈ done, Passes settings server before path)
    (loaded : loadFile settings.codec before.files path = some envelope)
    (replayed : Replayed settings server before state done done)
    (follows : Follows server (.replaying path paths envelope) action)
    (move : State.WorkerMove settings state (.replaying path paths envelope)
      action after) :
    Stage settings server before after := by
  cases move with
  | replayPanicked panicked =>
      obtain ⟨rfl, rfl⟩ := follows
      exact .panicked rfl split passes (panics_of_none same loaded panicked)
        replayed.left
  | replayed delivered outcome =>
      obtain ⟨rfl, rfl⟩ := follows
      have settled : _ ≠ DeliveryOutcome.retryableFailure :=
        outcome.trans_ne (by decide)
      refine .removing rfl ((deliver_limiter delivered settled).trans same)
        split passes (passes_of_settled same loaded delivered settled)
        (replayed.delivered same loaded delivered replayed.left rfl ?_)
      rw [outcome]
      rfl
  | replayFailed delivered outcome =>
      obtain ⟨rfl, rfl⟩ := follows
      have settled : _ ≠ DeliveryOutcome.retryableFailure :=
        outcome.trans_ne (by decide)
      refine .removing rfl ((deliver_limiter delivered settled).trans same)
        split passes (passes_of_settled same loaded delivered settled)
        (replayed.delivered same loaded delivered replayed.left rfl ?_)
      rw [outcome]
      rfl
  | replayStopped delivered outcome =>
      obtain ⟨rfl, rfl⟩ := follows
      refine .stopped rfl split passes ?_
        (replayed.delivered same loaded delivered replayed.left rfl ?_)
      · rw [(delivered_spec same loaded delivered).1, outcome]
        rfl
      · rw [outcome]
        rfl

/-- The drain removes a listed file. -/
theorem Left.remove {files : List File} {names : List String}
    (left : Left before done files names)
    (split : spoolFiles before.files = done ++ path :: paths) :
    Left before (done ++ [path]) (removeFile files path) names where
  files := by
    have listed : path ∈ spoolFiles before.files :=
      split ▸ List.mem_append_right _ List.mem_cons_self
    rw [removeFiles_append]
    exact left.files.removeOld (mem_spoolFiles_iff.mp listed).2
  named := left.named

theorem Stage.removing_step {fate : Fate}
    (same : state.limiter = before.limiter)
    (split : spoolFiles before.files = done ++ path :: paths)
    (passes : ∀ path ∈ done, Passes settings server before path)
    (passed : Passes settings server before path)
    (replayed : Replayed settings server before state done (done ++ [path]))
    (follows : Follows server (.removing path paths fate) action)
    (move : State.WorkerMove settings state (.removing path paths fate) action
      after) :
    Stage settings server before after := by
  cases move with
  | @remove _ _ _ removed =>
      have succeeded : removed = true := follows
      subst succeeded
      obtain ⟨files, names, limiter, posts, counters⟩ :=
        unlinkReplayed_frame state path fate
      have all : ∀ other ∈ done ++ [path],
          Passes settings server before other := by
        intro other member
        rcases List.mem_append.mp member with early | last
        · exact passes other early
        · exact List.mem_singleton.mp last ▸ passed
      refine .draining rfl ?_ (split.trans (List.append_cons done path paths))
        all ?_
      · exact limiter.trans same
      · refine ⟨?_, posts.trans replayed.posts, ?_⟩
        · have left := replayed.left.remove split
          rw [← files, ← names] at left
          exact left
        · exact (congrArg _ counters).trans replayed.replayed

/-- A step of the drain or of a thread goes from one stage to the next. -/
theorem Stage.step {label : Label} (once : (spoolFiles before.files).Nodup)
    (stage : Stage settings server before state)
    (spared : spares before state label = true)
    (stepped : step settings server state label = some after) :
    Stage settings server before after := by
  rcases step_cases spared stepped with
    ⟨index, action, spared, moved⟩ | ⟨action, follows, move⟩
  · obtain ⟨keeps, limiter, posts, counted, same | ⟨ack, acking⟩⟩ :=
      thread_frame spared moved
    · exact stage.frame same keeps limiter posts counted
    · exact absurd acking (stage.not_acking ack)
  cases stage with
  | draining was same split passes replayed =>
      rw [was] at move
      exact draining_step once same split passes replayed move
  | replaying was same split passes loaded replayed =>
      rw [was] at move follows
      exact replaying_step same split passes loaded replayed follows move
  | removing was same split passes passed replayed =>
      rw [was] at move follows
      exact removing_step same split passes passed replayed follows move
  | finished was | stopped was | panicked was =>
      rw [was] at move follows
      cases move <;> exact follows.elim

end Step

theorem Stage.run {state after : State} {labels : List Label}
    (once : (spoolFiles before.files).Nodup)
    (stage : Stage settings server before state)
    (run : (machine settings server).execWhere (spares before) state labels =
      some after) :
    Stage settings server before after := by
  induction labels generalizing state with
  | nil =>
      cases run
      exact stage
  | cons label labels induction =>
      rw [Library.Machine.execWhere] at run
      split at run
      · rename_i spared
        obtain ⟨middle, moved, rest⟩ := Option.bind_eq_some_iff.mp run
        exact induction (stage.step once spared moved) rest
      · cases run

theorem Stage.start (starts : Listed before) :
    Stage settings server before before := by
  refine .draining starts.worker rfl (List.nil_append _).symm
    (List.forall_mem_nil _) ⟨⟨.refl, starts.named⟩, ?_, rfl⟩
  rw [List.flatMap_nil, List.append_nil]

def Ended (state : State) : Prop := state.worker = .idle ∨ state.worker = .gone

/-- The drain can come to an end from this state while the threads wait. -/
def Ends (settings : Settings) (server : Server) (before state : State) : Prop :=
  ∃ labels after,
    (machine settings server).execWhere (spares before) state labels =
        some after ∧
      Ended after

private theorem Ends.of_ended {state : State} (ended : Ended state) :
    Ends settings server before state :=
  ⟨[], state, rfl, ended⟩

theorem Ends.of_step {state : State} (label : Label)
    (spared : spares before state label = true)
    (moved : ∃ middle, step settings server state label = some middle ∧
      Ends settings server before middle) :
    Ends settings server before state := by
  obtain ⟨middle, moved, labels, after, run, ended⟩ := moved
  refine ⟨label :: labels, after, ?_, ended⟩
  have next : (machine settings server).next state label = some middle := moved
  rw [Library.Machine.execWhere, if_pos spared, next]
  exact run

theorem Ends.of_draining (paths : List String) {state : State}
    (draining : state.worker = .draining paths) :
    Ends settings server before state := by
  induction paths generalizing state with
  | nil =>
      apply Ends.of_step .load rfl
      simp only [step, Transport.step, State.workerStep, draining]
      exact ⟨_, rfl, .of_ended (.inl rfl)⟩
  | cons path paths induction =>
      have removal : ∀ (other : State) (fate : Fate),
          other.worker = .removing path paths fate →
          Ends settings server before other := by
        intro other fate removing
        apply Ends.of_step (.remove true) rfl
        simp only [step, Transport.step, State.workerStep, removing]
        exact ⟨_, rfl, induction rfl⟩
      apply Ends.of_step .load rfl
      simp only [step, Transport.step, State.workerStep, draining]
      cases loadFile settings.codec state.files path with
      | none => exact ⟨_, rfl, removal _ _ rfl⟩
      | some envelope =>
          refine ⟨_, rfl, Ends.of_step .replay rfl ?_⟩
          simp only [step, Transport.step, State.workerStep]
          cases deliver settings.codec envelope state.limiter state.counters
              (server path).1 (server path).2 with
          | none => exact ⟨_, rfl, .of_ended (.inr rfl)⟩
          | some delivery =>
              cases outcome : delivery.outcome with
              | accepted | permanentFailure =>
                  simp only [outcome]
                  exact ⟨_, rfl, removal _ _ rfl⟩
              | retryableFailure =>
                  simp only [outcome]
                  exact ⟨_, rfl, .of_ended (.inl rfl)⟩

/-- The file is readable, its envelope is not held back, and the answer that ends
its delivery is a 429 whose deadline the clock cannot hold. -/
def Overflows (settings : Settings) (server : Server) (before : State)
    (path : String) : Prop :=
  ∃ envelope attempt response,
    loadFile settings.codec before.files path = some envelope ∧
      before.limiter.isLimited envelope.category (server path).1 = false ∧
      (settings.codec.toVec envelope.body).isSome ∧
      Decides (server path).2 attempt response ∧ response.status = 429 ∧
      ¬ RateLimiter.Holdable response.retryAfter
        ((server path).2 attempt).handledAt

theorem panics_iff_overflows {path : String} :
    Panics settings server before path ↔
      Overflows settings server before path := by
  unfold Panics Overflows deliveryOf
  simp only [Option.map_eq_some_iff, Prod.mk.injEq]
  constructor
  · rintro ⟨_, envelope, loaded, rfl, panicked⟩
    cases free : before.limiter.isLimited envelope.category (server path).1 with
    | true =>
        rw [deliver, if_pos free] at panicked
        cases panicked
    | false =>
        cases encoded : settings.codec.toVec envelope.body with
        | none =>
            rw [deliver, free, encoded] at panicked
            cases panicked
        | some raw =>
            obtain ⟨attempt, response, decides, tooMany, unheld⟩ :=
              (deliver_eq_none_iff free encoded).mp panicked
            exact ⟨envelope, attempt, response, loaded, free, by rw [encoded]; rfl,
              decides, tooMany, unheld⟩
  · rintro ⟨envelope, attempt, response, loaded, free, encoded, decides, tooMany,
      unheld⟩
    obtain ⟨raw, encoded⟩ := Option.isSome_iff_exists.mp encoded
    exact ⟨envelope, envelope, loaded, rfl, (deliver_eq_none_iff free encoded).mpr
      ⟨attempt, response, decides, tooMany, unheld⟩⟩

/-- Where the files passed end. -/
theorem settledFiles_of_split {done rest : List String}
    (split : spoolFiles before.files = done ++ rest)
    (passes : ∀ path ∈ done, Passes settings server before path)
    (boundary : ∀ path, rest.head? = some path →
      ends settings server before .retryableFailure path = true) :
    settledFiles settings server before = done ∧
      (spoolFiles before.files).find?
        (ends settings server before .retryableFailure) = rest.head? := by
  have inside : ∀ path ∈ done,
      (!ends settings server before .retryableFailure path) = true := by
    intro path member
    rw [(passes path member).1]
    rfl
  have skipped : done.find? (ends settings server before .retryableFailure) =
      none := by
    apply List.find?_eq_none.mpr
    intro path member
    rw [(passes path member).1]
    exact Bool.false_ne_true
  rw [settledFiles, split, List.takeWhile_append_of_pos inside, List.find?_append,
    skipped, Option.none_or]
  cases rest with
  | nil => exact ⟨List.append_nil done, rfl⟩
  | cons path paths =>
      have stops := boundary path rfl
      rw [List.takeWhile_cons, stops, List.find?_cons, stops]
      exact ⟨List.append_nil done, rfl⟩

private theorem ends_unique {one other : DeliveryOutcome} {path : String}
    (first : ends settings server before one path = true)
    (second : ends settings server before other path = true) : one = other := by
  unfold ends at first second
  split at first
  · rename_i envelope delivery known
    rw [known] at second
    exact (eq_of_beq first).symm.trans (eq_of_beq second)
  · cases first

theorem mem_settledFiles_of_panics {done paths : List String} {path : String}
    (split : spoolFiles before.files = done ++ path :: paths)
    (passes : ∀ path ∈ done, Passes settings server before path)
    (panics : Panics settings server before path) :
    path ∈ settledFiles settings server before := by
  obtain ⟨envelope, known⟩ := panics
  have inside : ∀ path ∈ done,
      (!ends settings server before .retryableFailure path) = true := by
    intro path member
    rw [(passes path member).1]
    rfl
  have next : (!ends settings server before .retryableFailure path) = true := by
    rw [ends, known]
    rfl
  rw [settledFiles, split, List.takeWhile_append_of_pos inside,
    List.takeWhile_cons, if_pos next]
  exact List.mem_append_right _ List.mem_cons_self

/-- An ended drain has replayed what it should exactly when nothing panics. -/
theorem Stage.ended_iff {state : State}
    (once : (spoolFiles before.files).Nodup)
    (stage : Stage settings server before state) (ended : Ended state) :
    ReplaysPrefix settings server before state ↔
      ∀ path ∈ settledFiles settings server before,
        ¬ Panics settings server before path := by
  cases stage with
  | draining phase | replaying phase | removing phase =>
      rcases ended with idle | gone
      · rw [phase] at idle
        cases idle
      · rw [phase] at gone
        cases gone
  | @finished done _ split passes replayed =>
      have whole : spoolFiles before.files = done ++ [] :=
        split.trans (List.append_nil done).symm
      obtain ⟨settled, stop⟩ := settledFiles_of_split whole passes nofun
      refine iff_of_true ⟨?_, ?_, ?_⟩ ?_
      · exact settled ▸ replayed.left.files
      · rw [settled, stop]
        simpa using replayed.posts
      · exact settled ▸ replayed.replayed
      · exact settled ▸ fun path member => (passes path member).2
  | @stopped done paths path _ split passes stops replayed =>
      obtain ⟨settled, stop⟩ := settledFiles_of_split split passes
        fun other first => Option.some.inj first ▸ stops
      refine iff_of_true ⟨?_, ?_, ?_⟩ ?_
      · exact settled ▸ replayed.left.files
      · rw [settled, stop]
        exact replayed.posts
      · have unanswered : ends settings server before .accepted path = false := by
          cases accepted : ends settings server before .accepted path with
          | false => rfl
          | true => cases ends_unique accepted stops
        rw [settled, replayed.replayed, List.countP_append, List.countP_singleton,
          unanswered]
        rfl
      · exact settled ▸ fun path member => (passes path member).2
  | @panicked done paths path _ split passes panics left =>
      have settled : path ∈ settledFiles settings server before :=
        mem_settledFiles_of_panics split passes panics
      refine iff_of_false ?_ fun calm => calm path settled panics
      rintro ⟨files, -, -⟩
      have fresh := fresh_of_split once split
      have listed : path ∈ spoolFiles before.files :=
        split ▸ List.mem_append_right _ List.mem_cons_self
      obtain ⟨file, member, rfl⟩ :=
        List.mem_map.mp (mem_spoolFiles_iff.mp listed).2
      have named := List.mem_map_of_mem (f := File.name) member
      have stays : file ∈ removeFiles before.files done := by
        rw [removeFiles_eq_filter]
        exact List.mem_filter.mpr ⟨member, decide_eq_true fresh⟩
      have there := (left.files.mem_names_iff named).mpr
        (List.mem_map_of_mem stays)
      rw [files.mem_names_iff named] at there
      obtain ⟨other, kept, same⟩ := List.mem_map.mp there
      rw [removeFiles_eq_filter] at kept
      exact of_decide_eq_true (List.mem_filter.mp kept).2 (same ▸ settled)

/-- A drain works on a prefix of the files, in path order, whatever the threads
do that spare these files, exactly when none of the files before the first one
to be tried again overflows. -/
theorem drain_replays_prefix_iff (settings : Settings) (server : Server)
    (before : State) (starts : (machine settings server).start before) :
    (∀ labels after,
        (machine settings server).execWhere (spares before) before labels =
          some after →
        Ended after → ReplaysPrefix settings server before after) ↔
      ∀ path ∈ settledFiles settings server before,
        ¬ Overflows settings server before path := by
  have listed : Listed before := starts
  have once := spoolFiles_nodup listed.distinct
  have stage : Stage settings server before before := .start listed
  simp only [← panics_iff_overflows]
  constructor
  · intro always
    obtain ⟨labels, after, run, ended⟩ :
        Ends settings server before before := .of_draining _ listed.worker
    exact ((stage.run once run).ended_iff once ended).mp
      (always labels after run ended)
  · intro calm labels after run ended
    exact ((stage.run once run).ended_iff once ended).mpr calm

/-- The worker has listed one file. -/
def oneListed : State :=
  { oneFound with worker := .draining (spoolFiles oneFound.files) }

private theorem oneListed_listed : Listed oneListed where
  worker := rfl
  distinct := List.nodup_singleton _
  named _ member := List.mem_map_of_mem member

/-- The delivery of the only file is answered 429 with the largest number a
header can spell: the worker ends, and the file stays. -/
theorem overflow_keeps_the_file :
    ¬ ∀ labels after,
      (machine (rendezvous 10 1000) fun _ =>
        (sampleInstant, limiting "18446744073709551615")).execWhere
          (spares oneListed) oneListed labels = some after →
        Ended after →
        ReplaysPrefix (rendezvous 10 1000)
          (fun _ => (sampleInstant, limiting "18446744073709551615")) oneListed
          after := by
  intro always
  have run :
      ((machine (rendezvous 10 1000) fun _ =>
        (sampleInstant, limiting "18446744073709551615")).execWhere
          (spares oneListed) oneListed [.load, .replay]).map
            (fun after => (after.worker.isGone, after.counters.eventsReplayed,
              (after.files.map File.name))) =
        some (true, 0, oneListed.files.map File.name) := by decide +kernel
  obtain ⟨after, executed, seen⟩ := Option.map_eq_some_iff.mp run
  simp only [Prod.mk.injEq] at seen
  have gone : after.worker = .gone := by
    cases phase : after.worker <;> simp [phase, Phase.isGone] at seen
    rfl
  have files := (always _ after executed (.inr gone)).files
  have empty :
      removeFiles oneListed.files
        (settledFiles (rendezvous 10 1000)
          (fun _ => (sampleInstant, limiting "18446744073709551615"))
          oneListed) = [] := by
    apply List.eq_nil_of_length_eq_zero
    decide +kernel
  have named : _ ∈ oneListed.files.map File.name := List.mem_cons_self
  rw [empty] at files
  have stays := seen.2.2.symm ▸ named
  cases (files.mem_names_iff named).mp stays

theorem drain_replays_prefix_iff_minutes :
    (∀ labels after,
      (machine (rendezvous 10 1000) fun _ =>
        (sampleInstant, limiting "120")).execWhere (spares oneListed) oneListed
          labels = some after →
        Ended after →
        ReplaysPrefix (rendezvous 10 1000)
          (fun _ => (sampleInstant, limiting "120")) oneListed after) ↔
      ∀ path ∈ settledFiles (rendezvous 10 1000)
          (fun _ => (sampleInstant, limiting "120")) oneListed,
        ¬ Overflows (rendezvous 10 1000)
          (fun _ => (sampleInstant, limiting "120")) oneListed path :=
  drain_replays_prefix_iff (rendezvous 10 1000)
    (fun _ => (sampleInstant, limiting "120")) oneListed oneListed_listed

end Replay

end Transport

end Allstak
