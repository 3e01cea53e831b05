import Allstak.EventBuilding
import Allstak.Hub

/-!
# The panic hook

The SDK puts its hook before the one it finds, once for the whole process.
Extractors that integrations bring are moved to one table when the integrations
are set up.  Besides, the application sets hooks of its own.
-/

namespace Allstak

namespace Panic

inductive Payload where
  | str (message : String)
  | string (message : String)
  | other

structure PanicInfo where
  payload : Payload
  /-- The file and the line. -/
  location : Option (String × Nat) := none
  symbols : List Symbol := []
  eventId : Uuid

def messageFromPanicInfo (info : PanicInfo) : String :=
  match info.payload with
  | .str message => message
  | .string message => message
  | .other => "Box<dyn Any>"

abbrev Extractor := PanicInfo → Option ErrorEvent

/-- The event of the first extractor that makes one, or else the default. -/
def buildEvent (extractors : List Extractor) (info : PanicInfo) : ErrorEvent :=
  match extractors.findSome? fun extractor => extractor info with
  | some event => event
  | none =>
      let location := (info.location.map fun location =>
        s!" at {location.1}:{location.2}").getD ""
      ErrorEvent.fromPanic (messageFromPanicInfo info ++ location)
        (Backtrace.currentFrames {} info.symbols) info.eventId

/-- `panic_handler`, but for the flush that ends it. -/
def panicHandler [UnicodeTables] (extractors : List Extractor)
    (info : PanicInfo)
    (hub : HubId) (world : World) : World :=
  (world.onHub hub Hub.markSessionCrashed).captureEvent hub
    (buildEvent extractors info)

/-- The hook of the process.  The application sets one of its own, which may
call the one it took before. -/
inductive PanicHook where
  | initial
  | custom (id : Nat)
  | wrapping (id : Nat) (taken : PanicHook)
  | chained (previous : PanicHook)

/-- What a panic makes the hook do. -/
inductive HookAction where
  | report
  | callCustom (id : Nat)
  | handle
  deriving DecidableEq

def PanicHook.actions : PanicHook → List HookAction
  | initial => [.report]
  | custom id => [.callCustom id]
  | wrapping id taken => .callCustom id :: taken.actions
  | chained previous => .handle :: previous.actions

/-- `INSTALL`, `EXTRACTORS`, the hook that is set, and the extractors the panic
integrations hold. -/
structure Process where
  installed : Bool := false
  extractors : List Extractor := []
  hook : PanicHook := .initial
  locals : Nat → List Extractor

namespace Process

def registerPanicHook (process : Process) : Process :=
  if process.installed then process
  else { process with installed := true, hook := .chained process.hook }

/-- The integration's own extractors go to the table of the process. -/
def setup (integration : Nat) (process : Process) : Process :=
  registerPanicHook
    { process with
      extractors := process.extractors ++ process.locals integration
      locals := Function.update process.locals integration [] }

end Process

/-- What concerns the panic hook: the setup of a panic integration by an init,
an installation by hand, and the hooks of the application. -/
inductive HookCall where
  | setup (integration : Nat)
  | registerPanicHook
  | setHook (id : Nat)
  | wrapHook (id : Nat)

namespace HookCall

def registers : HookCall → Bool
  | .setup _ => true
  | .registerPanicHook => true
  | _ => false

/-- The call drops the hook that is set. -/
def replaces : HookCall → Bool
  | .setHook _ => true
  | _ => false

def setupOf : HookCall → Option Nat
  | .setup integration => some integration
  | _ => none

end HookCall

def perform (process : Process) : HookCall → Process
  | .setup integration => process.setup integration
  | .registerPanicHook => process.registerPanicHook
  | .setHook id => { process with hook := .custom id }
  | .wrapHook id => { process with hook := .wrapping id process.hook }

def run (process : Process) (calls : List HookCall) : Process :=
  calls.foldl perform process

private theorem run_concat (process : Process) (calls : List HookCall)
    (call : HookCall) :
    run process (calls ++ [call]) = perform (run process calls) call := by
  simp [run]

theorem run_append (process : Process) (calls more : List HookCall) :
    run process (calls ++ more) = run (run process calls) more := by
  simp [run]

private theorem perform_installed (process : Process) (call : HookCall) :
    (perform process call).installed = (process.installed ||
      call.registers) := by
  cases call with
  | setup | registerPanicHook =>
      cases installed : process.installed <;>
        simp [perform, Process.setup, Process.registerPanicHook, installed,
          HookCall.registers]
  | setHook | wrapHook => simp [perform, HookCall.registers]

private theorem run_installed (process : Process) (calls : List HookCall) :
    (run process calls).installed =
      (process.installed || calls.any HookCall.registers) := by
  induction calls generalizing process with
  | nil => simp [run]
  | cons call calls induction =>
      change (run (perform process call) calls).installed = _
      rw [induction, perform_installed, List.any_cons, Bool.or_assoc]

/-- The hook after a call. -/
def hookAfter (process : Process) : HookCall → PanicHook
  | .setup _ | .registerPanicHook =>
      if process.installed then process.hook else .chained process.hook
  | .setHook id => .custom id
  | .wrapHook id => .wrapping id process.hook

private theorem perform_hook (process : Process) (call : HookCall) :
    (perform process call).hook = hookAfter process call := by
  cases call with
  | setup | registerPanicHook =>
      simp only [perform, Process.setup, Process.registerPanicHook, hookAfter]
      split <;> rfl
  | setHook | wrapHook => rfl

/-- Without an installation no panic is handled, and with one it is handled at
most once. -/
structure HandlesOnce (process : Process) : Prop where
  before : process.installed = false → .handle ∉ process.hook.actions
  once : process.hook.actions.count .handle ≤ 1

theorem HandlesOnce.perform {process : Process} (once : HandlesOnce process)
    (call : HookCall) : HandlesOnce (perform process call) := by
  have hook := perform_hook process call
  have installed := perform_installed process call
  constructor
  · intro not
    rw [installed, Bool.or_eq_false_iff] at not
    cases call with
    | setup | registerPanicHook => cases not.2
    | setHook id => simp [hook, hookAfter, PanicHook.actions]
    | wrapHook id =>
        simpa [hook, hookAfter, PanicHook.actions] using once.before not.1
  · cases call with
    | setup | registerPanicHook =>
        rw [hook, hookAfter]
        split
        · exact once.once
        · rename_i fresh
          rw [PanicHook.actions, List.count_cons_self,
            List.count_eq_zero.mpr (once.before (by simpa using fresh))]
    | setHook id => simp [hook, hookAfter, PanicHook.actions]
    | wrapHook id => simpa [hook, hookAfter, PanicHook.actions] using once.once

theorem HandlesOnce.run {process : Process} (once : HandlesOnce process)
    (calls : List HookCall) : HandlesOnce (run process calls) := by
  induction calls generalizing process with
  | nil => exact once
  | cons call calls induction => exact induction (once.perform call)

/-- The hooks set on top of the one that is there. -/
def wrappers (calls : List HookCall) : List HookAction :=
  calls.reverse.filterMap fun call =>
    match call with
    | .wrapHook id => some (.callCustom id)
    | _ => none

/-- Once installed, the hook is wrapped at most, until it is replaced. -/
theorem run_actions {process : Process} (installed : process.installed = true)
    (calls : List HookCall)
    (keep : ∀ call ∈ calls, call.replaces = false) :
    (run process calls).hook.actions = wrappers calls ++
      process.hook.actions := by
  induction calls using List.reverseRecOn with
  | nil => rfl
  | append_singleton calls call induction =>
      have earlier := induction fun other member =>
        keep other (List.mem_append_left _ member)
      have stays : (run process calls).installed = true := by
        rw [run_installed, installed]
        rfl
      rw [run_concat, perform_hook]
      cases call with
      | setup | registerPanicHook =>
          rw [hookAfter, if_pos stays, earlier]
          simp [wrappers]
      | setHook id =>
          cases keep (.setHook id) (List.mem_append_right _ List.mem_cons_self)
      | wrapHook id =>
          rw [hookAfter, PanicHook.actions, earlier]
          simp [wrappers]

/-- What a call moves to the table is what the integration still holds. -/
theorem perform_extractors (process : Process) (call : HookCall) :
    (perform process call).extractors =
        process.extractors ++ call.setupOf.toList.flatMap process.locals ∧
      ∀ integration, (perform process call).locals integration =
        if call.setupOf = some integration then []
        else process.locals integration := by
  cases call with
  | setup moved =>
      have registered (after : Process) :
          after.registerPanicHook.extractors = after.extractors ∧
            after.registerPanicHook.locals = after.locals := by
        rw [Process.registerPanicHook]
        split <;> exact ⟨rfl, rfl⟩
      obtain ⟨extractors, locals⟩ := registered
        { process with
          extractors := process.extractors ++ process.locals moved
          locals := Function.update process.locals moved [] }
      constructor
      · rw [perform, Process.setup, extractors]
        simp [HookCall.setupOf]
      · intro integration
        rw [perform, Process.setup, locals]
        by_cases same : moved = integration
        · subst same
          simp [HookCall.setupOf]
        · simp [HookCall.setupOf, same, Ne.symm same]
  | registerPanicHook =>
      rw [perform, Process.registerPanicHook]
      split <;> simp [HookCall.setupOf]
  | setHook | wrapHook => simp [perform, HookCall.setupOf]

private theorem removeAll_singleton {α : Type} [DecidableEq α] (item : α)
    (items : List α) :
    [item].removeAll items = if item ∈ items then [] else [item] := by
  by_cases member : item ∈ items <;> simp [List.removeAll, member]

/-- An integration gives its extractors away in its first setup. -/
theorem run_extractors (process : Process) (calls : List HookCall) :
    (run process calls).extractors = process.extractors ++
        (calls.filterMap HookCall.setupOf).eraseDups.flatMap process.locals ∧
      ∀ integration, (run process calls).locals integration =
        if integration ∈ calls.filterMap HookCall.setupOf then []
        else process.locals integration := by
  induction calls using List.reverseRecOn with
  | nil => simp [run]
  | append_singleton calls call induction =>
      obtain ⟨extractors, locals⟩ := induction
      obtain ⟨moved, left⟩ := perform_extractors (run process calls) call
      have setups : (calls ++ [call]).filterMap HookCall.setupOf =
          calls.filterMap HookCall.setupOf ++ call.setupOf.toList := by
        rw [List.filterMap_append]
        cases sets : call.setupOf <;> simp [sets]
      rw [run_concat, setups, List.eraseDups_append]
      have added : call.setupOf.toList.flatMap (run process calls).locals =
          (call.setupOf.toList.removeAll
            (calls.filterMap HookCall.setupOf)).eraseDups.flatMap
              process.locals := by
        cases call.setupOf with
        | none => rfl
        | some integration =>
            rw [Option.toList_some, List.flatMap_singleton, locals]
            rw [removeAll_singleton]
            split
            · rfl
            · rw [List.eraseDups_cons]
              exact (List.append_nil _).symm
      constructor
      · rw [moved, extractors, added, List.flatMap_append, List.append_assoc]
      · intro integration
        rw [left, locals]
        cases sets : call.setupOf with
        | none => simp
        | some other =>
            by_cases same : other = integration
            · subst same
              simp
            · simp [same, Ne.symm same]

/-- In every sequence of setups, installations and hooks of the application, a
panic is handled at most once.  Up to the next hook that replaces it, it is
handled exactly once: after the hooks wrapped around the SDK's, and before
everything the hook found at the installation does.  The extractors are those of
the integrations set up, once each, in the order of their first setups. -/
theorem panic_handled_once (process : Process)
    (fresh : process.installed = false)
    (foreign : .handle ∉ process.hook.actions) (calls : List HookCall) :
    (run process calls).hook.actions.count .handle ≤ 1 ∧
      (run process calls).extractors = process.extractors ++
        (calls.filterMap HookCall.setupOf).eraseDups.flatMap process.locals ∧
      ∀ earlier first later, calls = earlier ++ first :: later →
        (∀ call ∈ earlier, call.registers = false) → first.registers = true →
        (∀ call ∈ later, call.replaces = false) →
        (run process calls).hook.actions =
          wrappers later ++ .handle :: (run process earlier).hook.actions := by
  have once : HandlesOnce process :=
    ⟨fun _ => foreign, (List.count_eq_zero.mpr foreign).le.trans
      (Nat.zero_le 1)⟩
  refine ⟨(once.run calls).once, (run_extractors process calls).1, ?_⟩
  rintro earlier first later rfl quiet installs keep
  have before : (run process earlier).installed = false := by
    rw [run_installed, fresh, Bool.false_or, List.any_eq_false]
    intro call member
    rw [quiet call member]
    exact Bool.false_ne_true
  have after : (perform (run process earlier) first).installed = true := by
    rw [perform_installed, installs, Bool.or_true]
  have hook : (perform (run process earlier) first).hook =
      .chained (run process earlier).hook := by
    rw [perform_hook]
    cases first with
    | setup | registerPanicHook =>
        rw [hookAfter, before]
        rfl
    | setHook | wrapHook => cases installs
  rw [run_append]
  change (run (perform (run process earlier) first) later).hook.actions = _
  rw [run_actions after later keep, hook]
  rfl

/-- One integration used by two inits, under a hook of the application. -/
def twoInits : List HookCall :=
  [.setHook 7, .setup 0, .wrapHook 8, .setup 0, .setup 1]

def brought : Nat → List Extractor
  | 0 => [fun info => some (.fromPanic "custom" [] info.eventId)]
  | _ => []

theorem panic_handled_once_twoInits :
    let after := run { locals := brought } twoInits
    after.hook.actions = [.callCustom 8, .handle, .callCustom 7] ∧
      after.hook.actions.count .handle ≤ 1 ∧
      after.extractors = brought 0 := by
  intro after
  obtain ⟨atMost, extractors, exactly⟩ :=
    panic_handled_once { locals := brought } rfl (by decide) twoInits
  refine ⟨?_, atMost, ?_⟩
  · have actions := exactly [.setHook 7] (.setup 0)
      [.wrapHook 8, .setup 0, .setup 1] rfl (by decide) rfl (by decide)
    rw [actions]
    decide
  · rw [extractors]
    rfl

end Panic

end Allstak
