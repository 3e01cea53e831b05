import Allstak.Hub
import Allstak.Library.Ring

/-!
# The breadcrumb cap

A scope keeps as many breadcrumbs as its own cap says, and copies of it keep the
cap.  `init` binds a client and leaves the scope of the main hub as it is, with
the cap of 100 it was built with, so `max_breadcrumbs` never arrives: a captured
event carries the last hundred breadcrumbs, whatever the options say.
-/

namespace Allstak

namespace BreadcrumbCap

/-- What the callback of `with_scope` may do here: set anything but the
breadcrumbs and their cap. -/
structure Decoration where
  configure : Scope → Scope
  breadcrumbs : ∀ scope, (configure scope).breadcrumbs = scope.breadcrumbs
  cap : ∀ scope, (configure scope).maxBreadcrumbs = scope.maxBreadcrumbs

inductive ScopeCall where
  | addBreadcrumb (turn : Nat) (breadcrumb : Breadcrumb)
  /-- `with_scope` begins; `push_scope` decorates nothing. -/
  | pushScope (decoration : Decoration)
  /-- `with_scope` ends, or the guard of `push_scope` is dropped. -/
  | popScope
  | clear
  | captureEvent (event : ErrorEvent)

/-- The answer of `before_breadcrumb`. -/
def filtered (filter : Option (Hook Breadcrumb)) (turn : Nat)
    (breadcrumb : Breadcrumb) : Option Breadcrumb :=
  match filter with
  | none => some breadcrumb
  | some hook => hook turn breadcrumb

/-- The outermost scope is never popped. -/
def popAccepted : List (List Breadcrumb) → List (List Breadcrumb)
  | _ :: next :: rest => next :: rest
  | accepted => accepted

/-- The breadcrumbs accepted into each scope since its last clear, those of its
parent first; the active scope stands first. -/
def accept (filter : Option (Hook Breadcrumb)) (accepted : List (List Breadcrumb)) :
    ScopeCall → List (List Breadcrumb)
  | .addBreadcrumb turn breadcrumb =>
      match accepted with
      | top :: rest => (top ++ (filtered filter turn breadcrumb).toList) :: rest
      | [] => []
  | .pushScope _ => accepted.head?.toList ++ accepted
  | .popScope => popAccepted accepted
  | .clear =>
      match accepted with
      | _ :: rest => [] :: rest
      | [] => []
  | .captureEvent _ => accepted

/-- The breadcrumbs accepted into the active scope by some calls. -/
def active (filter : Option (Hook Breadcrumb)) (calls : List ScopeCall) :
    List Breadcrumb :=
  ((calls.foldl (accept filter) [[]]).head?).getD []

/-- A scope of cap 100 with the last of these breadcrumbs. -/
structure Holds (scope : Scope) (accepted : List Breadcrumb) : Prop where
  cap : scope.maxBreadcrumbs = 100
  kept : scope.breadcrumbs = accepted.rtake 100

theorem Holds.add {scope : Scope} {accepted : List Breadcrumb}
    (holds : Holds scope accepted) (breadcrumb : Breadcrumb) :
    Holds (scope.addBreadcrumb breadcrumb) (accepted ++ [breadcrumb]) := by
  refine ⟨holds.cap, ?_⟩
  change (scope.breadcrumbs ++ [breadcrumb]).rtake scope.maxBreadcrumbs = _
  rw [holds.cap, holds.kept]
  exact Library.Ring.rtake_append_of_rtake accepted [breadcrumb] 100

theorem processBreadcrumb_answer {filter : Option (Hook Breadcrumb)}
    {world : World} {client : ClientId}
    (bound : (world.hubs World.main).client = some client)
    (filters :
      (world.clients client).client.options.beforeBreadcrumb = filter)
    (turn : Nat) (breadcrumb : Breadcrumb) :
    (world.processBreadcrumb World.main turn breadcrumb).1 =
        filtered filter turn breadcrumb ∧
      ∀ other, ((world.processBreadcrumb World.main turn breadcrumb).2.clients
          other).client = (world.clients other).client := by
  unfold World.processBreadcrumb filtered
  rw [bound]
  refine ⟨?_, fun other => ?_⟩
  · rw [← filters]
    rfl
  · by_cases same : other = client
    · subst same
      simp
    · simp [same]

private theorem holds_configureTop {stack : ScopeStack}
    {top after : List Breadcrumb}
    {rest : List (List Breadcrumb)} {change : Scope → Scope}
    (holds : List.Forall₂ Holds stack.scopes (top :: rest))
    (keeps : ∀ scope, Holds scope top → Holds (change scope) after) :
    List.Forall₂ Holds (stack.configureTop change).scopes (after :: rest) := by
  obtain ⟨scopes, filled⟩ := stack
  cases holds with
  | cons first others => exact .cons (keeps _ first) others

private theorem stack_filled (stack : ScopeStack) :
    ¬ List.Forall₂ Holds stack.scopes [] := by
  obtain ⟨scopes, filled⟩ := stack
  intro holds
  cases holds
  exact filled rfl

theorem holds_push {stack : ScopeStack} {accepted : List (List Breadcrumb)}
    {change : Scope → Scope}
    (holds : List.Forall₂ Holds stack.scopes accepted)
    (keeps : ∀ scope top, Holds scope top → Holds (change scope) top) :
    List.Forall₂ Holds (stack.push (change stack.top)).scopes
      (accepted.head?.toList ++ accepted) := by
  obtain ⟨scopes, filled⟩ := stack
  cases holds with
  | nil => exact absurd rfl filled
  | cons first others => exact .cons (keeps _ _ first) (.cons first others)

theorem holds_pop {stack : ScopeStack} {accepted : List (List Breadcrumb)}
    (holds : List.Forall₂ Holds stack.scopes accepted) :
    List.Forall₂ Holds stack.pop.scopes (popAccepted accepted) := by
  obtain ⟨scopes, filled⟩ := stack
  cases holds with
  | nil => exact .nil
  | cons first others =>
      cases others with
      | nil => exact .cons first .nil
      | cons second others => exact .cons second others

/-- What every call keeps. -/
structure Tracked (filter : Option (Hook Breadcrumb)) (world : World)
    (accepted : List (List Breadcrumb)) : Prop where
  bound : ∃ client, (world.hubs World.main).client = some client ∧
    (world.clients client).client.options.beforeBreadcrumb = filter
  holds : List.Forall₂ Holds (world.hubs World.main).scopes.scopes accepted

/-- A section of the main hub that changes its scopes only. -/
theorem Tracked.section_ {filter : Option (Hook Breadcrumb)} {world : World}
    {accepted after : List (List Breadcrumb)} {change : Hub → Hub}
    (tracked : Tracked filter world accepted)
    (client : ∀ hub, (change hub).client = hub.client)
    (holds : List.Forall₂ Holds
      (change (world.hubs World.main)).scopes.scopes after) :
    Tracked filter (world.onHub World.main change) after := by
  obtain ⟨⟨bound, binds, filters⟩, -⟩ := tracked
  refine ⟨⟨bound, ?_, filters⟩, ?_⟩
  · rw [World.onHub_hubs_self, client]
    exact binds
  · rw [World.onHub_hubs_self]
    exact holds

theorem applyToEvent_breadcrumbs (scope : Scope) (event : ErrorEvent) :
    (scope.applyToEvent event).breadcrumbs.getD [] =
      scope.breadcrumbs ++ event.breadcrumbs.getD [] := by
  rw [Scope.applyToEvent]
  cases empty : scope.breadcrumbs with
  | nil => simp
  | cons first rest => simp

/-- The scope a captured event is given. -/
def activeScope (world : World) : Scope := (world.hubs World.main).scopes.top

theorem Tracked.active_breadcrumbs {filter : Option (Hook Breadcrumb)}
    {world : World} {accepted : List (List Breadcrumb)}
    (tracked : Tracked filter world accepted) :
    (activeScope world).breadcrumbs = (accepted.head?.getD []).rtake 100 := by
  obtain ⟨-, holds⟩ := tracked
  unfold activeScope ScopeStack.top
  cases scopes : (world.hubs World.main).scopes.scopes with
  | nil => exact absurd scopes (world.hubs World.main).scopes.filled
  | cons top rest =>
      rw [scopes] at holds
      cases holds with
      | cons first others => exact first.kept

section

variable [UnicodeTables]

/-- The call on the main hub, the current one of a thread that entered none. -/
def perform (world : World) : ScopeCall → World
  | .addBreadcrumb turn breadcrumb =>
      world.addBreadcrumb World.main turn breadcrumb
  | .pushScope decoration =>
      world.onHub World.main (Hub.pushScope decoration.configure)
  | .popScope => world.onHub World.main Hub.popScope
  | .clear => world.onHub World.main (Hub.configureScope Scope.clear)
  | .captureEvent event => world.captureEvent World.main event

theorem Tracked.kept {filter : Option (Hook Breadcrumb)} {world : World}
    {accepted : List (List Breadcrumb)} (tracked : Tracked filter world accepted)
    (call : ScopeCall) :
    Tracked filter (perform world call) (accept filter accepted call) := by
  have held := tracked.holds
  cases call with
  | addBreadcrumb turn breadcrumb =>
      obtain ⟨client, bound, filters⟩ := tracked.bound
      obtain ⟨answer, options⟩ :=
        processBreadcrumb_answer bound filters turn breadcrumb
      have filtering :
          Tracked filter (world.processBreadcrumb World.main turn breadcrumb).2
            accepted := by
        refine ⟨⟨client, ?_, ?_⟩, ?_⟩
        · rw [World.processBreadcrumb_hubs]
          exact bound
        · rw [options]
          exact filters
        · rw [World.processBreadcrumb_hubs]
          exact held
      cases accepted with
      | nil => exact absurd held (stack_filled _)
      | cons top rest =>
          rw [perform, World.addBreadcrumb, accept, ← answer]
          dsimp only
          split
          · rename_i rejected
            rw [rejected, Option.toList_none, List.append_nil]
            exact filtering
          · rename_i kept accepts
            rw [accepts]
            refine filtering.section_ ?_ ?_
            · exact fun _ => rfl
            · apply holds_configureTop filtering.holds
              exact fun scope holds => holds.add kept
  | pushScope decoration =>
      refine tracked.section_ ?_ ?_
      · exact fun _ => rfl
      · apply holds_push held
        rintro scope top ⟨cap, kept⟩
        exact ⟨(decoration.cap scope).trans cap,
          (decoration.breadcrumbs scope).trans kept⟩
  | popScope =>
      refine tracked.section_ ?_ ?_
      · exact fun _ => rfl
      · exact holds_pop held
  | clear =>
      cases accepted with
      | nil => exact absurd held (stack_filled _)
      | cons top rest =>
          refine tracked.section_ ?_ ?_
          · exact fun _ => rfl
          · apply holds_configureTop held
            exact fun scope holds => ⟨holds.cap, rfl⟩
  | captureEvent event =>
      obtain ⟨client, bound, filters⟩ := tracked.bound
      refine ⟨⟨client, ?_, ?_⟩, ?_⟩
      · rw [perform, World.captureEvent_client]
        exact bound
      · rw [perform, World.captureEvent_options]
        exact filters
      · rw [perform, World.captureEvent_scopes]
        exact held

/-- After any calls. -/
theorem Tracked.run {filter : Option (Hook Breadcrumb)} {world : World}
    {accepted : List (List Breadcrumb)} (tracked : Tracked filter world accepted)
    (calls : List ScopeCall) :
    Tracked filter (calls.foldl perform world)
      (calls.foldl (accept filter) accepted) := by
  induction calls generalizing world accepted with
  | nil => exact tracked
  | cons call calls induction => exact induction (tracked.kept call)

theorem Tracked.startSession {filter : Option (Hook Breadcrumb)} {world : World}
    {accepted : List (List Breadcrumb)} (tracked : Tracked filter world accepted)
    (newTraceId : String) (now : Nat) :
    Tracked filter (world.startSession World.main newTraceId now) accepted := by
  rw [World.startSession]
  split
  · exact tracked
  · dsimp only
    split
    · exact tracked
    · obtain ⟨⟨client, bound, filters⟩, holds⟩ := tracked
      refine Tracked.section_ ⟨⟨client, bound, ?_⟩, holds⟩ (fun _ => rfl) holds
      rw [World.ingest_options]
      exact filters

/-- `init` leaves the scope of the main hub as it is. -/
theorem tracked_init (env : String → Option String) (options : ClientOptions)
    (setup : ClientOptions → ClientOptions) (newTraceId : String) (now : Nat) :
    Tracked (setup (options.withEnvKey env)).beforeBreadcrumb
      (World.initial.init env options setup newTraceId now).2 [[]] := by
  have opened : Tracked (setup (options.withEnvKey env)).beforeBreadcrumb
      ((World.initial.newClient (setup (options.withEnvKey env))).2.onHub
        World.main (Hub.bindClient (some 0))) [[]] :=
    ⟨⟨0, rfl, rfl⟩, .cons ⟨rfl, rfl⟩ .nil⟩
  rw [World.init]
  dsimp only
  split
  · exact opened.startSession newTraceId now
  · exact opened

/-- The breadcrumbs accepted since the last clear reach a captured event, the
oldest beyond `max_breadcrumbs` left out, exactly when the option is 100 or
they are no more than the option and 100. -/
theorem breadcrumbs_capped_iff (env : String → Option String)
    (options : ClientOptions) (setup : ClientOptions → ClientOptions)
    (newTraceId : String) (now : Nat) (calls : List ScopeCall) :
    let world := (World.initial.init env options setup newTraceId now).2
    let accepted :=
      active (setup (options.withEnvKey env)).beforeBreadcrumb calls
    let n := options.maxBreadcrumbs
    (∀ event,
        (((activeScope (calls.foldl perform world)).applyToEvent
            event).breadcrumbs).getD [] =
          accepted.rtake (min n accepted.length) ++ event.breadcrumbs.getD []) ↔
      n = 100 ∨ accepted.length ≤ n ∧ accepted.length ≤ 100 := by
  intro world accepted n
  have tracked := (tracked_init env options setup newTraceId now).run calls
  have ring : (activeScope (calls.foldl perform world)).breadcrumbs =
      accepted.rtake 100 := tracked.active_breadcrumbs
  have sizes : accepted.rtake 100 = accepted.rtake (min n accepted.length) ↔
      n = 100 ∨ accepted.length ≤ n ∧ accepted.length ≤ 100 := by
    rw [Library.Ring.rtake_eq_iff]
    omega
  rw [← sizes]
  simp only [applyToEvent_breadcrumbs, ring]
  constructor
  · intro all
    have bare := all { exceptionClass := "", message := "", eventId := 0 }
    simpa using bare
  · intro same event
    rw [← same]

end

def note (text : String) : Breadcrumb :=
  { timestamp := none, ty := none, category := none, message := some text
    level := none, data := none }

def fiveNotes : List ScopeCall :=
  ["one", "two", "three", "four", "five"].map fun text =>
    .addBreadcrumb 0 (note text)

def plainEvent : ErrorEvent := { eventId := 0, exceptionClass := "E", message := "m" }

/-- With `max_breadcrumbs` of three, an event captured after five breadcrumbs
carries all five. -/
theorem fiveNotes_all_reach_the_event :
    let _ := asciiTables
    let world := (World.initial.init (fun _ => none)
      { apiKey := "key", maxBreadcrumbs := 3 } id "session" 0).2
    let accepted := active none fiveNotes
    let event := (activeScope (fiveNotes.foldl perform world)).applyToEvent plainEvent
    (event.breadcrumbs.getD []).length = 5 ∧ accepted.length = 5 ∧
      event.breadcrumbs.getD [] ≠ accepted.rtake (min 3 accepted.length) := by
  intro _ world accepted event
  have carried : (event.breadcrumbs.getD []).length = 5 := by decide
  have all : accepted.length = 5 := by decide
  refine ⟨carried, all, ?_⟩
  intro same
  rw [same, Library.Ring.length_rtake, all] at carried
  cases carried

end BreadcrumbCap

end Allstak
