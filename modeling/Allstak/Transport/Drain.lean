import Allstak.Transport.DropAccounting
import Allstak.Transport.RateLimits
import Allstak.Transport.SpoolOrder

/-!
# Steps as the spool sees them

What a step of a transport does to the spool directory, and what it does to the
replay.  Everything else a transport does is left out.
-/

namespace Allstak

namespace Transport

/-- The directory loses files, or gains one with a new name. -/
structure State.Keeps (before after : State) : Prop where
  names : ∀ name ∈ before.names, name ∈ after.names
  files : ∀ name ∈ after.files.map File.name,
    name ∈ before.files.map File.name ∨
      name ∉ before.names ∧ name ∈ after.names

theorem State.Keeps.of_same {before after : State}
    (names : after.names = before.names) (files : after.files = before.files) :
    before.Keeps after := by
  constructor
  · rw [names]
    exact fun name member => member
  · rw [files]
    exact fun name member => .inl member

theorem State.PersistMove.keeps {settings : Settings} {parcel : Parcel}
    {action : PersistAction} {stage : PersistStage}
    {next : Option PersistStage} {state after : State}
    (move : PersistMove settings parcel state action stage next after) :
    state.Keeps after := by
  cases move with
  | refused | listed | stored => exact .of_same rfl rfl
  | @created nowMillis uuid content configured encoded fresh =>
      constructor
      · exact fun name member => List.mem_append_left _ member
      · intro name member
        simp only [createFile, List.map_append, List.map_cons, List.map_nil] at member
        rcases List.mem_append.mp member with old | new
        · exact .inl old
        · rw [List.mem_singleton.mp new]
          exact .inr ⟨fresh, List.mem_append_right _ List.mem_cons_self⟩
  | written | spoiled =>
      constructor
      · exact fun name member => member
      · intro name member
        exact .inl (state.names_writeFile _ _ ▸ member)
  | evicted =>
      rw [evictFile]
      split
      · constructor
        · exact fun name member => member
        · exact fun name member => .inl (mem_of_mem_removeFile member)
      · exact .of_same rfl rfl

theorem State.ThreadMove.keeps {settings : Settings} {index : Nat}
    {activity : Activity} {action : ThreadAction} {state after : State}
    (move : ThreadMove settings index state activity action after) :
    state.Keeps after := by
  cases move with
  | spooling persisted | spooled persisted =>
      exact ⟨persisted.keeps.names, persisted.keeps.files⟩
  | taken | unheard | timeout | acknowledge =>
      rw [endFlush_eq]
      exact .of_same rfl rfl
  | _ => exact .of_same rfl rfl

theorem State.WorkerMove.keeps {settings : Settings} {phase : Phase}
    {action : WorkerAction} {state after : State}
    (move : WorkerMove settings state phase action after) :
    state.Keeps after := by
  cases move with
  | persisting persisted | persisted persisted =>
      exact ⟨persisted.keeps.names, persisted.keeps.files⟩
  | remove =>
      unfold unlinkReplayed
      split
      · split
        · exact ⟨fun name member => member,
            fun name member => .inl (mem_of_mem_removeFile member)⟩
        · exact ⟨fun name member => member,
            fun name member => .inl (mem_of_mem_removeFile member)⟩
      · exact .of_same rfl rfl
  | _ => exact .of_same rfl rfl

/-- What a step does to the replay of the spool. -/
inductive DrainMove (settings : Settings) (before after : State) :
    Label → Prop where
  | stays {label : Label} :
      after.worker = before.worker → after.posts = before.posts →
      DrainMove settings before after label
  | leaves {label : Label} :
      (∀ path paths fate, before.worker ≠ .removing path paths fate) →
      after.worker.pending = [] → DrainMove settings before after label
  | listed {label : Label} {paths : List String} :
      before.worker = .listing → after.worker = .draining paths →
      (∀ path ∈ paths, path ∈ before.files.map File.name) →
      DrainMove settings before after label
  | unreadable {path : String} {paths : List String} :
      before.worker = .draining (path :: paths) →
      loadFile settings.codec before.files path = none →
      after.worker = .removing path paths .discarded →
      DrainMove settings before after (.worker .load)
  | loaded {path : String} {paths : List String} {envelope : Envelope} :
      before.worker = .draining (path :: paths) →
      loadFile settings.codec before.files path = some envelope →
      after.worker = .replaying path paths envelope →
      DrainMove settings before after (.worker .load)
  | replayed {label : Label} {path : String} {paths : List String}
      {envelope : Envelope} {fate : Fate} :
      before.worker = .replaying path paths envelope →
      after.worker = .removing path paths fate →
      ((settings.codec.toVec envelope.body).isSome →
        before.posts.length < after.posts.length) →
      DrainMove settings before after label
  | removed {path : String} {paths : List String} {fate : Fate}
      {removed : Bool} :
      before.worker = .removing path paths fate →
      after.worker = .draining paths →
      after.files =
        (if removed then removeFile before.files path else before.files) →
      DrainMove settings before after (.worker (.remove removed))

theorem State.ThreadMove.drain {settings : Settings} {index : Nat}
    {activity : Activity} {action : ThreadAction} {state after : State}
    {label : Label}
    (move : ThreadMove settings index state activity action after) :
    DrainMove settings state after label := by
  have posts := move.posts.2
  cases move with
  | spooling persisted | spooled persisted =>
      exact .stays persisted.parties.2 posts
  | taken | unheard | timeout =>
      rw [endFlush_eq] at posts ⊢
      exact .stays rfl posts
  | acknowledge acking =>
      rw [endFlush_eq]
      exact .leaves (by simp [acking]) rfl
  | _ => exact .stays rfl posts

theorem State.posts_delivered {codec : Codec} {envelope : Envelope}
    {state : State} {checkedAt : Instant} {exchanges : Nat → Exchange}
    {delivery : Delivery}
    (delivered : Allstak.deliver codec envelope state.limiter state.counters
      checkedAt exchanges = some delivery)
    (settled : delivery.outcome ≠ .retryableFailure)
    (serialized : (codec.toVec envelope.body).isSome) :
    state.posts.length <
      (state.delivered codec envelope delivery).posts.length := by
  have made := List.length_pos_iff.mpr
    (deliver_posts delivered settled serialized)
  rw [← requestsOf_exchanges delivered, List.length_map] at made
  simp only [State.delivered, List.length_append]
  omega

theorem State.WorkerMove.drain {settings : Settings} {action : WorkerAction}
    {state after : State}
    (move : WorkerMove settings state state.worker action after) :
    DrainMove settings state after (.worker action) := by
  generalize current : state.worker = phase at move
  cases move with
  | built possible =>
      rcases possible with rfl | rfl <;> exact .leaves (by simp [current]) rfl
  | list => exact .listed current rfl fun path member => (mem_spoolFiles_iff.mp member).2
  | unreadable failed => exact .unreadable current failed rfl
  | loaded found => exact .loaded current found rfl
  | replayed delivered outcome =>
      exact .replayed current rfl
        (State.posts_delivered delivered (by simp [outcome]))
  | replayFailed delivered outcome =>
      exact .replayed current rfl
        (State.posts_delivered delivered (by simp [outcome]))
  | remove =>
      apply DrainMove.removed current
      · rfl
      · unfold unlinkReplayed
        split <;> [split; skip] <;> rfl
  | _ => exact .leaves (by simp [current]) rfl

theorem step_drain {settings : Settings} {before after : State} {label : Label}
    (stepped : Transport.step settings before label = some after) :
    before.Keeps after ∧ DrainMove settings before after label := by
  rcases step_cases stepped with
    ⟨index, activity, action, rfl, found, move⟩ | ⟨action, rfl, move⟩
  · exact ⟨move.keeps, move.drain⟩
  · exact ⟨move.keeps, move.drain⟩

/-- The drain may still be answered for the file, or has been and is about to
remove it. -/
def Phase.holds (path : String) : Phase → Bool
  | .replaying other _ _ => other == path
  | .removing other _ .accepted => other == path
  | _ => false

namespace DrainMove

variable {settings : Settings} {before after : State} {label : Label}

theorem pending (move : DrainMove settings before after label) {path : String}
    (member : path ∈ after.worker.pending) :
    path ∈ before.worker.pending ∨ path ∈ before.files.map File.name := by
  cases move with
  | stays same => exact .inl (same ▸ member)
  | leaves _ nothing =>
      rw [nothing] at member
      cases member
  | listed _ phase listed =>
      rw [phase] at member
      exact .inr (listed path member)
  | unreadable was _ now | loaded was _ now | replayed was now =>
      rw [now] at member
      rw [was]
      exact .inl member
  | removed was now =>
      rw [now] at member
      rw [was]
      exact .inl (List.mem_cons_of_mem _ member)

/-- A drain that is replaying a file was before, or has just read it. -/
theorem replaying (move : DrainMove settings before after label)
    {path : String} {paths : List String} {envelope : Envelope}
    (now : after.worker = .replaying path paths envelope) :
    before.worker = .replaying path paths envelope ∨
      label = .worker .load ∧ before.worker = .draining (path :: paths) ∧
        loadFile settings.codec before.files path = some envelope := by
  cases move with
  | stays same => exact .inl (same ▸ now)
  | leaves _ nothing =>
      rw [now] at nothing
      cases nothing
  | loaded was found phase =>
      rw [now] at phase
      cases phase
      exact .inr ⟨rfl, was, found⟩
  | listed _ phase | unreadable _ _ phase | replayed _ phase | removed _ phase =>
      rw [now] at phase
      cases phase

/-- A drain that holds a file held it before, or has just read it. -/
theorem holds (move : DrainMove settings before after label) {path : String}
    (now : after.worker.holds path = true) :
    before.worker.holds path = true ∨
      label = .worker .load ∧ ∃ paths envelope,
        before.worker = .draining (path :: paths) ∧
          loadFile settings.codec before.files path = some envelope := by
  cases move with
  | stays same => exact .inl (same ▸ now)
  | leaves _ nothing =>
      cases phase : after.worker with
      | replaying | removing =>
          rw [phase] at nothing
          cases nothing
      | _ =>
          rw [phase] at now
          cases now
  | @loaded _ paths envelope was found phase =>
      rw [phase] at now
      rw [Phase.holds, beq_iff_eq] at now
      subst now
      exact .inr ⟨rfl, paths, envelope, was, found⟩
  | @replayed _ _ _ _ fate was phase =>
      rw [phase] at now
      rw [was]
      cases fate with
      | accepted => exact .inl now
      | discarded => cases now
  | listed _ phase | unreadable _ _ phase | removed _ phase =>
      rw [phase] at now
      cases now

/-- A drain about to remove a file goes on to do so. -/
theorem removing (move : DrainMove settings before after label)
    {path : String} {paths : List String} {fate : Fate}
    (was : before.worker = .removing path paths fate) :
    after.worker = .removing path paths fate ∨
      ∃ removed, label = .worker (.remove removed) ∧
        after.worker = .draining paths ∧ after.files =
          if removed then removeFile before.files path else before.files := by
  cases move with
  | stays same => exact .inl (same ▸ was)
  | leaves other => exact absurd was (other path paths fate)
  | @removed _ _ _ removed phase now files =>
      rw [was] at phase
      cases phase
      exact .inr ⟨removed, rfl, now, files⟩
  | listed phase | unreadable phase | loaded phase | replayed phase =>
      rw [was] at phase
      cases phase

/-- A drain about to remove a file was before, or could not read it, or has made
a request for it. -/
theorem to_removing (move : DrainMove settings before after label)
    {path : String} {paths : List String} {fate : Fate}
    (now : after.worker = .removing path paths fate) :
    before.worker = .removing path paths fate ∨
      (label = .worker .load ∧ before.worker = .draining (path :: paths) ∧
        loadFile settings.codec before.files path = none) ∨
      ∃ envelope, before.worker = .replaying path paths envelope ∧
        ((settings.codec.toVec envelope.body).isSome →
          before.posts.length < after.posts.length) := by
  cases move with
  | stays same => exact .inl (same ▸ now)
  | leaves _ nothing =>
      rw [now] at nothing
      cases nothing
  | unreadable was failed phase =>
      rw [now] at phase
      cases phase
      exact .inr (.inl ⟨rfl, was, failed⟩)
  | replayed was phase posted =>
      rw [now] at phase
      cases phase
      exact .inr (.inr ⟨_, was, posted⟩)
  | listed _ phase | loaded _ _ phase | removed _ phase =>
      rw [now] at phase
      cases phase

end DrainMove

end Transport

end Allstak
