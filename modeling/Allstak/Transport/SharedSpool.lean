import Allstak.Transport.Drain
import Allstak.Transport.SpoolRoundTrip

/-!
# Two transports over one spool

Clients with the same api key share a spool directory by default.  Each of
their transports replays the files it finds and stores envelopes of its own,
step by step, and neither reserves a file before it reads it.
-/

namespace Allstak

/-- The body of an envelope that was serialized is serialized by itself. -/
def Codec.SerializesBodies (codec : Codec) : Prop :=
  ∀ persisted bytes, codec.persistedToVec persisted = some bytes →
    (codec.toVec persisted.body).isSome

namespace Transport

inductive Side where
  | left
  | right
  deriving DecidableEq

def Side.other : Side → Side
  | left => right
  | right => left

theorem Side.other_ne (side : Side) : side.other ≠ side := by
  cases side <;> decide

@[simp] theorem Side.other_other (side : Side) : side.other.other = side := by
  cases side <;> rfl

private theorem Side.eq_other {side other : Side} (apart : other ≠ side) :
    other = side.other := by
  cases side <;> cases other <;> first | rfl | exact absurd rfl apart

/-- A file made for an envelope, with its whole content. -/
structure Creation where
  side : Side
  path : String
  envelope : Envelope
  content : Bytes

/-- The directory is shared; what the sides' own states say of it is not used.
The rest records what happened: the files made for envelopes, the files a drain
was answered 2xx for, the envelopes it read from a file and made a request for,
and the files it removed. -/
structure Shared where
  sides : Side → State
  files : List File
  names : List String
  created : List Creation := []
  accepted : List (Side × String) := []
  posted : List (Side × String × Envelope) := []
  removed : List (Side × String) := []

/-- The codec is the same library; the other settings are each client's own. -/
structure SharedSettings where
  codec : Codec
  spool : Side → Option EventSpool
  transportQueueSize : Side → Nat

def SharedSettings.at (settings : SharedSettings) (side : Side) : Settings :=
  { codec := settings.codec
    spool := settings.spool side
    transportQueueSize := settings.transportQueueSize side }

namespace Shared

/-- What one transport sees. -/
def look (shared : Shared) (side : Side) : State :=
  { shared.sides side with files := shared.files, names := shared.names }

abbrev worker (shared : Shared) (side : Side) : Phase :=
  (shared.sides side).worker

def present (shared : Shared) (path : String) : Bool :=
  (shared.files.map File.name).contains path

/-- The file a step created for an envelope. -/
def creations (side : Side) (after : State) : Label → List Creation
  | .thread index (.spool (.begin _ _)) =>
      match after.threads[index]? with
      | some (.spooling parcel (.writing path content)) =>
          [{ side, path, envelope := parcel.envelope, content }]
      | _ => []
  | .worker (.persist (.begin _ _)) =>
      match after.worker with
      | .persisting parcel (.writing path content) =>
          [{ side, path, envelope := parcel.envelope, content }]
      | _ => []
  | _ => []

def acceptances (side : Side) (before after : Phase) : List (Side × String) :=
  match before, after with
  | .replaying path _ _, .removing _ _ .accepted => [(side, path)]
  | _, _ => []

def posts (side : Side) (before after : State) : List (Side × String × Envelope) :=
  match before.worker with
  | .replaying path _ envelope =>
      if before.posts.length < after.posts.length then [(side, path, envelope)]
      else []
  | _ => []

def removals (side : Side) (before after : State) : List (Side × String) :=
  match before.worker, after.worker with
  | .removing path _ _, .draining _ =>
      if (before.files.map File.name).contains path &&
          !(after.files.map File.name).contains path then
        [(side, path)]
      else []
  | _, _ => []

/-- One side has made a step. -/
def moved (shared : Shared) (side : Side) (label : Label) (after : State) :
    Shared :=
  let before := shared.look side
  { sides := Function.update shared.sides side after
    files := after.files
    names := after.names
    created := shared.created ++ creations side after label
    accepted := shared.accepted ++ acceptances side before.worker after.worker
    posted := shared.posted ++ posts side before after
    removed := shared.removed ++ removals side before after }

def step (settings : SharedSettings) (shared : Shared) (label : Side × Label) :
    Option Shared :=
  (Transport.step (settings.at label.1) (shared.look label.1) label.2).map
    (shared.moved label.1 label.2)

/-- Two new transports over one directory. -/
structure Starts (shared : Shared) : Prop where
  sides : ∀ side, Transport.Starts (shared.look side)
  created : shared.created = []
  accepted : shared.accepted = []
  posted : shared.posted = []
  removed : shared.removed = []

def machine (settings : SharedSettings) :
    Library.Machine Shared (Side × Label) where
  start := Starts
  next := step settings

/-- What a file was created with. -/
theorem creation_sound {settings : Settings} {before after : State}
    {label : Label} {side : Side} {entry : Creation}
    (moved : Transport.step settings before label = some after)
    (made : entry ∈ creations side after label) :
    entry.side = side ∧ entry.path ∉ before.names ∧ entry.path ∈ after.names ∧
      settings.codec.persistedToVec entry.envelope.persisted =
        some entry.content := by
  rcases step_cases moved with
    ⟨index, activity, action, rfl, found, move⟩ | ⟨action, rfl, move⟩
  · obtain ⟨inside, _⟩ := List.getElem?_eq_some_iff.mp found
    cases move with
    | spooling persisted =>
        cases persisted with
        | created configured encoded fresh =>
            simp only [creations, State.setThread, State.createFile,
              List.getElem?_set_self inside, List.mem_singleton] at made
            rw [made]
            exact ⟨rfl, fresh, List.mem_append_right _ List.mem_cons_self, encoded⟩
        | _ => cases made
    | spooled persisted =>
        cases persisted with
        | refused =>
            simp [creations, State.endSend, State.setThread, State.drop, inside] at made
        | _ => cases made
    | _ => cases made
  · generalize before.worker = phase at move
    cases move with
    | persisting persisted =>
        cases persisted with
        | created configured encoded fresh =>
            rw [List.mem_singleton.mp made]
            exact ⟨rfl, fresh, List.mem_append_right _ List.mem_cons_self, encoded⟩
        | _ => cases made
    | persisted persisted => cases persisted <;> cases made
    | _ => cases made

/-- The steps in which no drain reads a file that the other one holds, or one of
the other side's that is not whole, does not parse back to the record it was
written for or has no known path, and in which a file that was answered for can
be removed. -/
def Orderly (settings : SharedSettings) (shared : Shared) :
    Side × Label → Prop
  | (side, .worker .load) =>
      match shared.worker side with
      | .draining (path :: _) =>
          (loadFile settings.codec shared.files path = none ∨
              (shared.worker side.other).holds path = false) ∧
            ∀ entry ∈ shared.created, entry.side ≠ side → entry.path = path →
              path ∈ shared.files.map File.name →
              readFile shared.files path = some entry.content ∧
                settings.codec.persistedFromSlice entry.content =
                  some entry.envelope.persisted ∧
                (knownIngestPath entry.envelope.path).isSome
      | _ => True
  | (side, .worker (.remove removed)) =>
      match shared.worker side with
      | .removing _ _ .accepted => removed = true
      | _ => True
  | _ => True

section

variable {settings : SharedSettings} {shared : Shared} {side : Side}
  {label : Label} {state : State}

private theorem worker_moved_self :
    (shared.moved side label state).worker side = state.worker := by
  simp [worker, moved]

private theorem worker_moved_of_ne {other : Side} (apart : other ≠ side) :
    (shared.moved side label state).worker other = shared.worker other := by
  simp [worker, moved, apart]

theorem step_moved {after : Shared}
    (stepped : step settings shared (side, label) = some after) :
    ∃ state, Transport.step (settings.at side) (shared.look side) label =
        some state ∧ after = shared.moved side label state := by
  obtain ⟨state, one, rfl⟩ := Option.map_eq_some_iff.mp stepped
  exact ⟨state, one, rfl⟩

theorem mem_acceptances {settings : Settings} {before after : State}
    (move : DrainMove settings before after label) {entry : Side × String}
    (member : entry ∈ acceptances side before.worker after.worker) :
    ∃ path paths envelope, before.worker = .replaying path paths envelope ∧
      after.worker = .removing path paths .accepted ∧ entry = (side, path) := by
  unfold acceptances at member
  split at member
  · rename_i path paths envelope other next was now
    rcases move.to_removing now with still | ⟨_, reading, _⟩ | ⟨_, replayed, _⟩
    · rw [was] at still
      cases still
    · rw [was] at reading
      cases reading
    · rw [was] at replayed
      cases replayed
      exact ⟨path, paths, envelope, was, now, List.mem_singleton.mp member⟩
  · cases member

theorem mem_removals {before after : State} {entry : Side × String}
    (member : entry ∈ removals side before after) :
    ∃ path paths fate, before.worker = .removing path paths fate ∧
      path ∈ before.files.map File.name ∧ entry = (side, path) := by
  unfold removals at member
  split at member
  · rename_i path paths fate next was now
    split at member
    · rename_i gone
      rw [Bool.and_eq_true, List.contains_iff_mem] at gone
      exact ⟨path, paths, fate, was, gone.1, List.mem_singleton.mp member⟩
    · cases member
  · cases member

/-- Every name that is recorded or still to be read was in the directory. -/
structure Known (codec : Codec) (shared : Shared) : Prop where
  files : ∀ name ∈ shared.files.map File.name, name ∈ shared.names
  pending : ∀ side, ∀ path ∈ (shared.worker side).pending, path ∈ shared.names
  created : ∀ entry ∈ shared.created, entry.path ∈ shared.names ∧
    codec.persistedToVec entry.envelope.persisted = some entry.content
  accepted : ∀ entry ∈ shared.accepted, entry.2 ∈ shared.names
  removed : ∀ entry ∈ shared.removed, entry.2 ∈ shared.names

/-- A file that was answered for is about to be removed or gone, and at most one
drain holds a file. -/
structure Exclusive (shared : Shared) : Prop where
  answered : ∀ side path, (side, path) ∈ shared.accepted →
    (∃ paths, shared.worker side = .removing path paths .accepted) ∨
      path ∉ shared.files.map File.name
  apart : ∀ side path, (shared.worker side).holds path = true →
    (shared.worker side.other).holds path = false
  unanswered : ∀ side path paths envelope,
    shared.worker side = .replaying path paths envelope →
    (side.other, path) ∉ shared.accepted
  once : ∀ side path, (side, path) ∈ shared.accepted →
    (side.other, path) ∉ shared.accepted

/-- What a drain replays from a file of the other side is the envelope the file
was made for, and what it removes it has made a request for. -/
structure Complete (shared : Shared) : Prop where
  replaying : ∀ side path paths envelope,
    shared.worker side = .replaying path paths envelope →
    ∀ entry ∈ shared.created, entry.side ≠ side → entry.path = path →
      entry.envelope = envelope
  removing : ∀ side path paths fate,
    shared.worker side = .removing path paths fate →
    path ∉ shared.files.map File.name ∨
      ∀ entry ∈ shared.created, entry.side ≠ side → entry.path = path →
        (side, path, entry.envelope) ∈ shared.posted
  removed : ∀ side path, (side, path) ∈ shared.removed →
    ∀ entry ∈ shared.created, entry.side ≠ side → entry.path = path →
      (side, path, entry.envelope) ∈ shared.posted

theorem pending_moved
    (stepped : Transport.step (settings.at side) (shared.look side) label =
      some state)
    (known : Known settings.codec shared) {other : Side} {path : String}
    (member : path ∈ ((shared.moved side label state).worker other).pending) :
    path ∈ shared.names := by
  obtain ⟨_, drain⟩ := step_drain stepped
  by_cases same : other = side
  · subst same
    rw [worker_moved_self] at member
    rcases drain.pending member with before | listed
    · exact known.pending other path before
    · exact known.files path listed
  · rw [worker_moved_of_ne same] at member
    exact known.pending other path member

theorem known_moved
    (stepped : Transport.step (settings.at side) (shared.look side) label =
      some state)
    (known : Known settings.codec shared) :
    Known settings.codec (shared.moved side label state) := by
  obtain ⟨keeps, drain⟩ := step_drain stepped
  have later : ∀ name ∈ shared.names, name ∈ state.names := keeps.names
  constructor
  · intro name member
    rcases keeps.files name member with old | ⟨_, new⟩
    · exact later name (known.files name old)
    · exact new
  · exact fun other path member => later path (pending_moved stepped known member)
  · intro entry member
    rcases List.mem_append.mp member with old | new
    · exact ⟨later _ (known.created entry old).1, (known.created entry old).2⟩
    · obtain ⟨_, _, named, encoded⟩ := creation_sound stepped new
      exact ⟨named, encoded⟩
  · intro entry member
    apply later
    rcases List.mem_append.mp member with old | new
    · exact known.accepted entry old
    · obtain ⟨path, paths, envelope, was, _, rfl⟩ := mem_acceptances drain new
      apply known.pending side
      change path ∈ (shared.look side).worker.pending
      rw [was]
      exact List.mem_cons_self
  · intro entry member
    apply later
    rcases List.mem_append.mp member with old | new
    · exact known.removed entry old
    · obtain ⟨path, paths, fate, _, present, rfl⟩ := mem_removals new
      exact known.files path present

/-- A name that is known and in no file never comes back. -/
theorem absent_moved
    (stepped : Transport.step (settings.at side) (shared.look side) label =
      some state)
    {path : String} (named : path ∈ shared.names)
    (absent : path ∉ shared.files.map File.name) :
    path ∉ (shared.moved side label state).files.map File.name := by
  intro member
  rcases (step_drain stepped).1.files path member with old | ⟨fresh, _⟩
  · exact absent old
  · exact fresh named

/-- The condition on the step in which a drain reads a file. -/
theorem orderly_load {path : String} {paths : List String}
    (admitted : Orderly settings shared (side, .worker .load))
    (draining : shared.worker side = .draining (path :: paths)) :
    (loadFile settings.codec shared.files path = none ∨
        (shared.worker side.other).holds path = false) ∧
      ∀ entry ∈ shared.created, entry.side ≠ side → entry.path = path →
        path ∈ shared.files.map File.name →
        readFile shared.files path = some entry.content ∧
          settings.codec.persistedFromSlice entry.content =
            some entry.envelope.persisted ∧
          (knownIngestPath entry.envelope.path).isSome := by
  rw [Orderly, draining] at admitted
  exact admitted

private theorem orderly_remove {path : String} {paths : List String}
    {removed : Bool}
    (admitted : Orderly settings shared (side, .worker (.remove removed)))
    (about : shared.worker side = .removing path paths .accepted) :
    removed = true := by
  rw [Orderly, about] at admitted
  exact admitted

/-- What a drain reads is not held by the other side. -/
theorem free_of_loaded {path : String} {paths : List String}
    {envelope : Envelope}
    (admitted : Orderly settings shared (side, label))
    (loads : label = .worker .load)
    (was : (shared.look side).worker = .draining (path :: paths))
    (loaded : loadFile settings.codec shared.files path = some envelope) :
    (shared.worker side.other).holds path = false := by
  subst loads
  rcases (orderly_load admitted was).1 with unread | notHeld
  · rw [loaded] at unread
    cases unread
  · exact notHeld

/-- What a drain reads of a file of the other side is the envelope that the file
was made for. -/
theorem loadFile_of_orderly {path : String} {paths : List String}
    {entry : Creation} (admitted : Orderly settings shared (side, label))
    (loads : label = .worker .load)
    (was : (shared.look side).worker = .draining (path :: paths))
    (created : entry ∈ shared.created) (foreign : entry.side ≠ side)
    (same : entry.path = path) (here : path ∈ shared.files.map File.name) :
    loadFile settings.codec shared.files path = some entry.envelope := by
  subst loads
  obtain ⟨read, parsed, routed⟩ :=
    (orderly_load admitted was).2 entry created foreign same here
  rw [loadFile_of_content parsed read, if_pos routed]

/-- An entry for a name that is known is not of this step. -/
theorem created_of_named
    (stepped : Transport.step (settings.at side) (shared.look side) label =
      some state)
    {path : String} {entry : Creation}
    (member : entry ∈ (shared.moved side label state).created)
    (same : entry.path = path) (named : path ∈ shared.names) :
    entry ∈ shared.created := by
  rcases List.mem_append.mp member with old | made
  · exact old
  · exact absurd (same ▸ named) (creation_sound stepped made).2.1

private theorem worker_moved_other :
    (shared.moved side label state).worker side.other =
      shared.worker side.other :=
  worker_moved_of_ne side.other_ne

theorem answered_moved
    (stepped : Transport.step (settings.at side) (shared.look side) label =
      some state)
    (admitted : Orderly settings shared (side, label))
    (known : Known settings.codec shared) (exclusive : Exclusive shared)
    {other : Side} {path : String}
    (member : (other, path) ∈ (shared.moved side label state).accepted) :
    (∃ paths, (shared.moved side label state).worker other =
        .removing path paths .accepted) ∨
      path ∉ (shared.moved side label state).files.map File.name := by
  obtain ⟨_, drain⟩ := step_drain stepped
  rcases List.mem_append.mp member with old | new
  · rcases exclusive.answered other path old with ⟨paths, about⟩ | absent
    · by_cases same : other = side
      · subst same
        rcases drain.removing about with stays | ⟨removed, rfl, _, files⟩
        · exact .inl ⟨paths, worker_moved_self.trans stays⟩
        · right
          rw [orderly_remove admitted about, if_pos rfl] at files
          change path ∉ state.files.map File.name
          rw [files]
          exact not_mem_removeFile _ _
      · exact .inl ⟨paths, (worker_moved_of_ne same).trans about⟩
    · exact .inr (absent_moved stepped (known.accepted _ old) absent)
  · obtain ⟨answered, paths, envelope, _, now, same⟩ :=
      mem_acceptances drain new
    cases same
    exact .inl ⟨paths, worker_moved_self.trans now⟩

theorem apart_moved
    (stepped : Transport.step (settings.at side) (shared.look side) label =
      some state)
    (admitted : Orderly settings shared (side, label))
    (exclusive : Exclusive shared) {other : Side} {path : String}
    (held : ((shared.moved side label state).worker other).holds path = true) :
    ((shared.moved side label state).worker other.other).holds path = false := by
  obtain ⟨_, drain⟩ := step_drain stepped
  have apart (now : state.worker.holds path = true) :
      (shared.worker side.other).holds path = false := by
    rcases drain.holds now with before | ⟨loads, paths, envelope, was, loaded⟩
    · exact exclusive.apart side path before
    · exact free_of_loaded admitted loads was loaded
  by_cases same : other = side
  · subst same
    rw [worker_moved_self] at held
    rw [worker_moved_other]
    exact apart held
  · have opposite := Side.eq_other same
    subst opposite
    rw [worker_moved_other] at held
    rw [Side.other_other, worker_moved_self, Bool.eq_false_iff]
    intro now
    have notHeld := apart now
    rw [held] at notHeld
    cases notHeld

theorem unanswered_moved
    (stepped : Transport.step (settings.at side) (shared.look side) label =
      some state)
    (admitted : Orderly settings shared (side, label))
    (exclusive : Exclusive shared) {other : Side} {path : String}
    {paths : List String} {envelope : Envelope}
    (now : (shared.moved side label state).worker other =
      .replaying path paths envelope) :
    (other.other, path) ∉ (shared.moved side label state).accepted := by
  obtain ⟨_, drain⟩ := step_drain stepped
  intro member
  by_cases same : other = side
  · subst same
    rw [worker_moved_self] at now
    rcases List.mem_append.mp member with old | new
    · rcases drain.replaying now with before | ⟨loads, was, loaded⟩
      · exact exclusive.unanswered other path paths envelope before old
      · have notHeld := free_of_loaded admitted loads was loaded
        rcases exclusive.answered other.other path old with ⟨next, about⟩ | absent
        · rw [about] at notHeld
          simp [Phase.holds] at notHeld
        · exact absent (mem_of_loadFile loaded)
    · obtain ⟨_, _, _, _, _, entry⟩ := mem_acceptances drain new
      exact other.other_ne (Prod.mk.inj entry).1
  · have opposite := Side.eq_other same
    subst opposite
    rw [worker_moved_other] at now
    rcases List.mem_append.mp member with old | new
    · exact exclusive.unanswered side.other path paths envelope now old
    · obtain ⟨answered, _, _, was, _, entry⟩ := mem_acceptances drain new
      cases (Prod.mk.inj entry).2
      have held : (shared.worker side).holds path = true := by
        change (shared.look side).worker.holds path = true
        rw [was]
        simp [Phase.holds]
      have notHeld := exclusive.apart side path held
      rw [now] at notHeld
      simp [Phase.holds] at notHeld

theorem once_moved
    (stepped : Transport.step (settings.at side) (shared.look side) label =
      some state)
    (exclusive : Exclusive shared) {other : Side} {path : String}
    (first : (other, path) ∈ (shared.moved side label state).accepted) :
    (other.other, path) ∉ (shared.moved side label state).accepted := by
  obtain ⟨_, drain⟩ := step_drain stepped
  intro second
  rcases List.mem_append.mp first with old | new
  · rcases List.mem_append.mp second with older | newer
    · exact exclusive.once other path old older
    · obtain ⟨answered, paths, envelope, was, _, entry⟩ :=
        mem_acceptances drain newer
      obtain ⟨rfl, rfl⟩ := Prod.mk.inj entry
      have unanswered := exclusive.unanswered other.other path paths envelope was
      rw [Side.other_other] at unanswered
      exact unanswered old
  · obtain ⟨answered, paths, envelope, was, _, entry⟩ :=
      mem_acceptances drain new
    obtain ⟨rfl, rfl⟩ := Prod.mk.inj entry
    rcases List.mem_append.mp second with older | newer
    · exact exclusive.unanswered other path paths envelope was older
    · obtain ⟨_, _, _, _, _, again⟩ := mem_acceptances drain newer
      exact other.other_ne (Prod.mk.inj again).1

theorem replaying_moved
    (stepped : Transport.step (settings.at side) (shared.look side) label =
      some state)
    (admitted : Orderly settings shared (side, label))
    (known : Known settings.codec shared) (complete : Complete shared)
    {other : Side} {path : String} {paths : List String} {envelope : Envelope}
    (now : (shared.moved side label state).worker other =
      .replaying path paths envelope)
    {entry : Creation}
    (member : entry ∈ (shared.moved side label state).created)
    (foreign : entry.side ≠ other) (same : entry.path = path) :
    entry.envelope = envelope := by
  obtain ⟨_, drain⟩ := step_drain stepped
  have named : path ∈ shared.names := by
    apply pending_moved stepped known
    rw [now]
    exact List.mem_cons_self
  have created := created_of_named stepped member same named
  by_cases moves : other = side
  · subst moves
    rw [worker_moved_self] at now
    rcases drain.replaying now with before | ⟨loads, was, loaded⟩
    · exact complete.replaying other path paths envelope before entry created
        foreign same
    · have found := loadFile_of_orderly admitted loads was created foreign same
        (mem_of_loadFile loaded)
      exact Option.some.inj (found.symm.trans loaded)
  · rw [worker_moved_of_ne moves] at now
    exact complete.replaying other path paths envelope now entry created foreign
      same

theorem removing_moved (serializes : settings.codec.SerializesBodies)
    (stepped : Transport.step (settings.at side) (shared.look side) label =
      some state)
    (admitted : Orderly settings shared (side, label))
    (known : Known settings.codec shared) (complete : Complete shared)
    {other : Side} {path : String} {paths : List String} {fate : Fate}
    (now : (shared.moved side label state).worker other =
      .removing path paths fate) :
    path ∉ (shared.moved side label state).files.map File.name ∨
      ∀ entry ∈ (shared.moved side label state).created,
        entry.side ≠ other → entry.path = path →
          (other, path, entry.envelope) ∈
            (shared.moved side label state).posted := by
  obtain ⟨_, drain⟩ := step_drain stepped
  have named : path ∈ shared.names := by
    apply pending_moved stepped known
    rw [now]
    exact List.mem_cons_self
  have kept (before : path ∉ shared.files.map File.name ∨
      ∀ entry ∈ shared.created, entry.side ≠ other → entry.path = path →
        (other, path, entry.envelope) ∈ shared.posted) :
      path ∉ (shared.moved side label state).files.map File.name ∨
        ∀ entry ∈ (shared.moved side label state).created,
          entry.side ≠ other → entry.path = path →
            (other, path, entry.envelope) ∈
              (shared.moved side label state).posted := by
    rcases before with gone | posted
    · exact .inl (absent_moved stepped named gone)
    · right
      intro entry member foreign same
      apply List.mem_append_left
      exact posted entry (created_of_named stepped member same named) foreign same
  by_cases moves : other = side
  · subst moves
    rw [worker_moved_self] at now
    rcases drain.to_removing now with
      before | ⟨loads, was, failed⟩ | ⟨envelope, was, posted⟩
    · exact kept (complete.removing other path paths fate before)
    · apply kept
      by_cases here : path ∈ shared.files.map File.name
      · right
        intro entry created foreign same
        have found := loadFile_of_orderly admitted loads was created foreign same
          here
        exact absurd (found.symm.trans failed) (Option.some_ne_none _)
      · exact .inl here
    · right
      intro entry member foreign same
      have created := created_of_named stepped member same named
      have read := complete.replaying other path paths envelope was entry
        created foreign same
      have grows := posted (read ▸ serializes _ _ (known.created entry created).2)
      apply List.mem_append_right
      rw [posts, was]
      simp only [if_pos grows, read, List.mem_singleton]
  · rw [worker_moved_of_ne moves] at now
    exact kept (complete.removing other path paths fate now)

theorem removed_moved
    (stepped : Transport.step (settings.at side) (shared.look side) label =
      some state)
    (known : Known settings.codec shared) (complete : Complete shared)
    {other : Side} {path : String}
    (member : (other, path) ∈ (shared.moved side label state).removed)
    {entry : Creation}
    (created : entry ∈ (shared.moved side label state).created)
    (foreign : entry.side ≠ other) (same : entry.path = path) :
    (other, path, entry.envelope) ∈ (shared.moved side label state).posted := by
  apply List.mem_append_left
  rcases List.mem_append.mp member with before | gone
  · exact complete.removed other path before entry
      (created_of_named stepped created same (known.removed _ before)) foreign same
  · obtain ⟨removed, paths, fate, was, present, pair⟩ := mem_removals gone
    obtain ⟨rfl, rfl⟩ := Prod.mk.inj pair
    rcases complete.removing other path paths fate was with absent | posted
    · exact absurd present absent
    · exact posted entry
        (created_of_named stepped created same (known.files path present)) foreign
        same

/-- What holds in every state of a run whose steps all meet the condition. -/
structure Sound (codec : Codec) (shared : Shared) : Prop where
  known : Known codec shared
  exclusive : Exclusive shared
  complete : Complete shared

theorem Sound.moved (serializes : settings.codec.SerializesBodies)
    (stepped : Transport.step (settings.at side) (shared.look side) label =
      some state)
    (admitted : Orderly settings shared (side, label))
    (sound : Sound settings.codec shared) :
    Sound settings.codec (shared.moved side label state) := by
  obtain ⟨known, exclusive, complete⟩ := sound
  constructor
  · exact known_moved stepped known
  · constructor
    · exact fun _ _ => answered_moved stepped admitted known exclusive
    · exact fun _ _ => apart_moved stepped admitted exclusive
    · exact fun _ _ _ _ => unanswered_moved stepped admitted exclusive
    · exact fun _ _ => once_moved stepped exclusive
  · constructor
    · exact fun _ _ _ _ now _ =>
        replaying_moved stepped admitted known complete now
    · exact fun _ _ _ _ =>
        removing_moved serializes stepped admitted known complete
    · exact fun _ _ member _ => removed_moved stepped known complete member

theorem Starts.sound (starts : Starts shared) : Sound settings.codec shared := by
  have fresh (side : Side) :
      (shared.worker side).pending = [] ∧
        shared.names = shared.files.map File.name := by
    obtain ⟨calls, directory, spawned, _, _, same⟩ := starts.sides side
    change (shared.look side).worker.pending = [] ∧
      (shared.look side).names = (shared.look side).files.map File.name
    rw [same]
    cases spawned <;> exact ⟨rfl, rfl⟩
  have replaying {side path paths envelope}
      (now : shared.worker side = .replaying path paths envelope) : False := by
    have nothing := (fresh side).1
    rw [now] at nothing
    cases nothing
  have removing {side path paths fate}
      (now : shared.worker side = .removing path paths fate) : False := by
    have nothing := (fresh side).1
    rw [now] at nothing
    cases nothing
  refine ⟨⟨?_, ?_, ?_, ?_, ?_⟩, ⟨?_, ?_, ?_, ?_⟩, ⟨?_, ?_, ?_⟩⟩
  · intro name member
    rw [(fresh .left).2]
    exact member
  · intro side path member
    rw [(fresh side).1] at member
    cases member
  · simp [starts.created]
  · simp [starts.accepted]
  · simp [starts.removed]
  · simp [starts.accepted]
  · intro side path held
    cases phase : shared.worker side with
    | replaying => exact (replaying phase).elim
    | removing => exact (removing phase).elim
    | _ =>
        rw [phase] at held
        cases held
  · exact fun side path paths envelope now => (replaying now).elim
  · simp [starts.accepted]
  · exact fun side path paths envelope now => (replaying now).elim
  · exact fun side path paths fate now => (removing now).elim
  · simp [starts.removed]

end

/-- In a run whose steps all meet the condition, at most one of the two drains is
answered 2xx for a file, and a drain that removed a file of the other side has
made a request with the envelope the file was made for. -/
theorem answered_once_and_posted_whole (settings : SharedSettings)
    (shared : Shared) (serializes : settings.codec.SerializesBodies)
    (reached : (machine settings).Reach (Orderly settings) shared) :
    (∀ side path, (side, path) ∈ shared.accepted →
      (side.other, path) ∉ shared.accepted) ∧
      ∀ side path, (side, path) ∈ shared.removed →
        ∀ entry ∈ shared.created, entry.side ≠ side → entry.path = path →
          (side, path, entry.envelope) ∈ shared.posted := by
  have sound : Sound settings.codec shared := by
    apply reached.induct
    · exact fun shared starts => Starts.sound starts
    · rintro before ⟨side, label⟩ after sound admitted moved
      obtain ⟨state, stepped, rfl⟩ := step_moved moved
      exact sound.moved serializes stepped admitted
  exact ⟨sound.exclusive.once, sound.complete.removed⟩

private theorem sampleCodec_serializesBodies :
    sampleCodec.SerializesBodies := by
  intro persisted bytes encoded
  unfold sampleCodec at encoded ⊢
  dsimp only at encoded ⊢
  split at encoded
  · rfl
  · cases encoded

def isSample : Envelope → Bool
  | { path := "/ingest/v1/logs", category := .log, body := .null } => true
  | _ => false

private theorem eq_sampleEnvelope {envelope : Envelope}
    (sample : isSample envelope = true) : envelope = sampleEnvelope := by
  unfold isSample at sample
  split at sample
  · rfl
  · cases sample

def twoSpools : SharedSettings :=
  { codec := sampleCodec
    spool := fun _ => some (.fromOptions 10 1000)
    transportQueueSize := fun _ => 0 }

/-- Two transports that find one envelope in their spool. -/
def bothFind : Shared :=
  { sides := fun _ => oneFound, files := oneFound.files, names := oneFound.names }

private theorem bothFind_starts : Starts bothFind :=
  ⟨fun _ => oneFound_starts, rfl, rfl, rfl, rfl⟩

/-- An envelope that finds no room gets a file that is not written yet. -/
def creates (side : Side) : List (Side × Label) :=
  [(side, .thread 0 (.send sampleEnvelope)), (side, .thread 0 .lock),
    (side, .thread 0 (.offer false)),
    (side, .thread 0 (.spool (.begin true (some (1700000000001, 8)))))]

/-- A drain is built, lists the spool and reads the first file. -/
def reads (side : Side) : List (Side × Label) :=
  [(side, .worker (.build true)), (side, .worker .list), (side, .worker .load)]

def accepts (side : Side) : List (Side × Label) :=
  [(side, .worker (.replay sampleInstant (answering 200)))]

def removes (side : Side) : List (Side × Label) :=
  [(side, .worker (.remove true))]

/-- Both drains read the file before either is answered, and both are answered
2xx.  In the second run a drain reads the file that the other transport has
created and not written, and removes it without a request. -/
theorem answered_twice_and_removed_unposted :
    (∃ (shared : Shared) (path : String), (machine twoSpools).Reachable shared ∧
        (Side.left, path) ∈ shared.accepted ∧
        (Side.right, path) ∈ shared.accepted) ∧
      ∃ (shared : Shared) (path : String), (machine twoSpools).Reachable shared ∧
        (Side.right, path) ∈ shared.removed ∧
        (∃ entry ∈ shared.created, entry.side = .left ∧ entry.path = path) ∧
        ∀ envelope, (Side.right, path, envelope) ∉ shared.posted := by
  constructor
  · have run :
        ((machine twoSpools).exec bothFind
          (reads .left ++ reads .right ++ accepts .left ++ accepts .right)).map
            (fun shared => decide (shared.accepted =
              [(.left, spoolFileName 1700000000000 7),
                (.right, spoolFileName 1700000000000 7)])) =
          some true := by decide +kernel
    obtain ⟨shared, executed, seen⟩ := Option.map_eq_some_iff.mp run
    refine ⟨shared, spoolFileName 1700000000000 7,
      Library.Machine.reachable_of_exec bothFind_starts executed, ?_, ?_⟩
    · simp [of_decide_eq_true seen]
    · simp [of_decide_eq_true seen]
  · have run :
        ((machine twoSpools).exec bothFind
          (reads .left ++ accepts .left ++ removes .left ++ creates .left ++
            reads .right ++ removes .right)).map
            (fun shared => decide (
              (Side.right, spoolFileName 1700000000001 8) ∈ shared.removed ∧
              (∃ entry ∈ shared.created, entry.side = .left ∧
                entry.path = spoolFileName 1700000000001 8) ∧
              ∀ post ∈ shared.posted, post.1 ≠ .right)) =
          some true := by decide +kernel
    obtain ⟨shared, executed, seen⟩ := Option.map_eq_some_iff.mp run
    obtain ⟨removed, created, unposted⟩ := of_decide_eq_true seen
    exact ⟨shared, spoolFileName 1700000000001 8,
      Library.Machine.reachable_of_exec bothFind_starts executed, removed, created,
      fun envelope posted => unposted _ posted rfl⟩

/-- A step that meets the condition, as far as a run of the sample codec needs it:
the drains read in turn, and only files with the sample record. -/
def inTurn (shared : Shared) : Side × Label → Bool
  | (side, .worker .load) =>
      match shared.worker side with
      | .draining (path :: _) =>
          !(shared.worker side.other).holds path &&
            shared.created.all fun entry =>
              entry.side == side || entry.path != path ||
                (readFile shared.files path == some sampleFile &&
                  entry.content == sampleFile && isSample entry.envelope)
      | _ => true
  | (_, .worker (.remove removed)) => removed
  | _ => true

theorem orderly_of_inTurn (shared : Shared) (label : Side × Label)
    (passed : inTurn shared label = true) : Orderly twoSpools shared label := by
  unfold inTurn at passed
  unfold Orderly
  split
  · dsimp only at passed ⊢
    split
    · rename_i path paths draining
      simp only [draining, Bool.and_eq_true, Bool.not_eq_true',
        List.all_eq_true] at passed
      refine ⟨.inr passed.1, ?_⟩
      intro entry member foreign same _
      have sampled := passed.2 entry member
      simp only [beq_false_of_ne foreign, same, bne_self_eq_false, Bool.false_or,
        Bool.and_eq_true, beq_iff_eq] at sampled
      obtain ⟨⟨read, content⟩, sample⟩ := sampled
      rw [content, eq_sampleEnvelope sample]
      exact ⟨read, rfl, rfl⟩
    · trivial
  · dsimp only at passed ⊢
    split
    · exact passed
    · trivial
  · trivial

/-- Each drain removes a file after it was answered for it, and the second file
is one that the other transport has written. -/
theorem answered_once_and_posted_whole_inTurn :
    ∃ shared : Shared,
      shared.accepted = [(.left, spoolFileName 1700000000000 7),
        (.right, spoolFileName 1700000000001 8)] ∧
      (∃ entry ∈ shared.created, entry.side = .left ∧
        (Side.right, entry.path) ∈ shared.removed) ∧
      (∀ side path, (side, path) ∈ shared.accepted →
        (side.other, path) ∉ shared.accepted) ∧
      ∀ side path, (side, path) ∈ shared.removed →
        ∀ entry ∈ shared.created, entry.side ≠ side → entry.path = path →
          (side, path, entry.envelope) ∈ shared.posted := by
  have run :
      ((machine twoSpools).execWhere inTurn bothFind
        (reads .left ++ accepts .left ++ removes .left ++ creates .left ++
          [(.left, .thread 0 (.spool (.write none)))] ++ reads .right ++
          accepts .right ++ removes .right)).map
          (fun shared => decide (
            shared.accepted = [(.left, spoolFileName 1700000000000 7),
              (.right, spoolFileName 1700000000001 8)] ∧
            ∃ entry ∈ shared.created, entry.side = .left ∧
              (Side.right, entry.path) ∈ shared.removed)) =
        some true := by decide +kernel
  obtain ⟨shared, executed, seen⟩ := Option.map_eq_some_iff.mp run
  obtain ⟨accepted, removed⟩ := of_decide_eq_true seen
  exact ⟨shared, accepted, removed,
    answered_once_and_posted_whole twoSpools shared sampleCodec_serializesBodies
      ((Library.Machine.Reach.start bothFind_starts).execWhere orderly_of_inTurn
        executed)⟩

end Shared

end Transport

end Allstak
