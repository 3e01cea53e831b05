import Allstak.Library.Lock

/-!
# Callbacks under the hub's lock

Programs are the calls a thread makes on one hub, with the user callbacks that
run inside them and the panics these raise.  A program is read as the sections
of the hub's lock it goes through; calls on other hubs are the callbacks they
run.  Some callbacks run under a guard of the lock, and what those may do
decides whether a thread can come to wait for itself.
-/

namespace Allstak

namespace HubLock

open Library (Machine)
open Library.Lock

/-- Operations that read the hub once. -/
inductive ReadOperation where
  | client
  | isEnabled
  | flush
  | currentTraceContext
  | newFromTop
  deriving DecidableEq

/-- Operations that write to the hub once and run no callback under the lock. -/
inductive WriteOperation where
  | bindClient
  | setUser
  | markSessionCrashed
  | pushScope
  | dropScopeGuard
  deriving DecidableEq

/-- `bound` says whether the operation finds a client on the hub. -/
inductive Program where
  | done
  | read (operation : ReadOperation) (rest : Program)
  | write (operation : WriteOperation) (rest : Program)
  | getDiagnostics (rest : Program)
  | configureScope (closure rest : Program)
  | withScope (scopeFn body rest : Program)
  /-- The scope guard lives while the body runs. -/
  | pushScope (body rest : Program)
  /-- `before_breadcrumb` runs in `filter`. -/
  | addBreadcrumb (filter : Program) (accepted : Bool) (rest : Program)
  /-- The integrations, `before_send` and the transport run in `pipeline`. -/
  | captureEvent (bound : Bool) (pipeline : Program) (errorLevel : Bool)
      (rest : Program)
  /-- `transport` is what handing the envelope over runs. -/
  | startSession (bound : Bool) (transport rest : Program)
  | endSession (bound : Bool) (transport rest : Program)
  /-- A panic whose hook finds this hub current. -/
  | panic (extractor : Program) (bound : Bool) (pipeline : Program)
  /-- A panic without the SDK's hook, or whose hook acts on another hub. -/
  | panicElsewhere (hook : Program)
  | catchUnwind (body rest : Program)

namespace Program

/-- The lock sections of `Hub::capture_event`. -/
def captureSections (bound : Bool) (pipeline : Code) (errorLevel : Bool)
    (rest : Code) : Code :=
  .locked .read .done
    (if bound then
      .locked .read pipeline
        (if errorLevel then .locked .write .done rest else rest)
    else rest)

/-- The lock sections of `panic_handler`: mark the session crashed, capture a
fatal event, flush. -/
def panicHandler (extractor : Code) (bound : Bool) (pipeline : Code) : Code :=
  extractor.andThen
    (.locked .write .done
      (captureSections bound pipeline true (.locked .read .done .done)))

def sections : Program → Code
  | done => .done
  | read _ rest => .locked .read .done rest.sections
  | write _ rest => .locked .write .done rest.sections
  | getDiagnostics rest =>
      .locked .read .done (.locked .read .done rest.sections)
  | configureScope closure rest =>
      .locked .write closure.sections rest.sections
  | withScope scopeFn body rest =>
      .locked .write scopeFn.sections
        (body.sections.andThen (.locked .write .done rest.sections))
  | pushScope body rest =>
      .locked .write .done (.guarded .write body.sections rest.sections)
  | addBreadcrumb filter accepted rest =>
      .locked .read .done
        (filter.sections.andThen
          (if accepted then .locked .write .done rest.sections
          else rest.sections))
  | captureEvent bound pipeline errorLevel rest =>
      captureSections bound pipeline.sections errorLevel rest.sections
  | startSession bound transport rest =>
      .locked .read .done
        (if bound then .locked .write transport.sections rest.sections
        else rest.sections)
  | endSession bound transport rest =>
      .locked .read .done
        (if bound then
          .locked .write .done (transport.sections.andThen rest.sections)
        else rest.sections)
  | panic extractor bound pipeline =>
      .panic (panicHandler extractor.sections bound pipeline.sections)
  | panicElsewhere hook => .panic hook.sections
  | catchUnwind body rest => .catching body.sections rest.sections

/-- How a program ends. -/
def outcome (hooking : Bool) : Program → Outcome
  | done => .returned
  | read _ rest | write _ rest | getDiagnostics rest => rest.outcome hooking
  | configureScope callback rest | pushScope callback rest
  | addBreadcrumb callback _ rest =>
      (callback.outcome hooking).next (rest.outcome hooking)
  | withScope scopeFn body rest =>
      (scopeFn.outcome hooking).next
        ((body.outcome hooking).next (rest.outcome hooking))
  | captureEvent bound callback _ rest | startSession bound callback rest
  | endSession bound callback rest =>
      if bound then (callback.outcome hooking).next (rest.outcome hooking)
      else rest.outcome hooking
  | panic extractor bound pipeline =>
      if hooking then .aborted
      else
        ((extractor.outcome true).next
          (if bound then pipeline.outcome true else .returned)).next .unwound
  | panicElsewhere hook =>
      if hooking then .aborted else (hook.outcome true).next .unwound
  | catchUnwind body rest =>
      match body.outcome hooking with
      | .aborted => .aborted
      | _ => rest.outcome hooking

/-- What a program may do next to a guard its thread holds: next to a read guard
nothing that writes, next to a write guard nothing that takes the lock.  The
closure of `configure_scope`, the `scope_fn` of `with_scope` and the transport
at a session start run under a write guard, and must not unwind out of it; the
capture pipeline runs under a read guard. -/
def disciplined (hooking : Bool) (held : Option Mode) : Program → Bool
  | done => true
  | read _ rest | getDiagnostics rest =>
      permits held .read && rest.disciplined hooking held
  | write _ rest => permits held .write && rest.disciplined hooking held
  | configureScope closure rest =>
      permits held .write && closure.disciplined hooking (some .write) &&
        (closure.outcome hooking).requires (rest.disciplined hooking held) false
  | withScope scopeFn body rest =>
      permits held .write && scopeFn.disciplined hooking (some .write) &&
        (scopeFn.outcome hooking).requires
          (body.disciplined hooking held &&
            (body.outcome hooking).requires (rest.disciplined hooking held) true)
          false
  | pushScope body rest =>
      permits held .write && body.disciplined hooking held &&
        (body.outcome hooking).requires (rest.disciplined hooking held) true
  | addBreadcrumb filter accepted rest =>
      permits held .read && filter.disciplined hooking held &&
        (filter.outcome hooking).requires
          ((!accepted || permits held .write) && rest.disciplined hooking held) true
  | captureEvent bound pipeline errorLevel rest =>
      permits held .read &&
        if bound then
          pipeline.disciplined hooking (some .read) &&
            (pipeline.outcome hooking).requires
              ((!errorLevel || permits held .write) &&
                rest.disciplined hooking held) true
        else rest.disciplined hooking held
  | startSession bound transport rest =>
      permits held .read &&
        if bound then
          permits held .write && transport.disciplined hooking (some .write) &&
            (transport.outcome hooking).requires (rest.disciplined hooking held)
              false
        else rest.disciplined hooking held
  | endSession bound transport rest =>
      permits held .read &&
        if bound then
          permits held .write && transport.disciplined hooking held &&
            (transport.outcome hooking).requires (rest.disciplined hooking held)
              true
        else rest.disciplined hooking held
  | panic extractor bound pipeline =>
      hooking ||
        (extractor.disciplined true held &&
          (extractor.outcome true).requires
            (permits held .write &&
              (!bound || pipeline.disciplined true (some .read))) true)
  | panicElsewhere hook => hooking || hook.disciplined true held
  | catchUnwind body rest =>
      body.disciplined hooking held &&
        (body.outcome hooking).requires (rest.disciplined hooking held)
          (rest.disciplined hooking held)

/-- Every panic finds the SDK's hook installed and this hub current. -/
def panicsOnHub : Program → Bool
  | done => true
  | read _ rest | write _ rest | getDiagnostics rest => rest.panicsOnHub
  | configureScope callback rest | pushScope callback rest
  | addBreadcrumb callback _ rest | captureEvent _ callback _ rest
  | startSession _ callback rest | endSession _ callback rest
  | catchUnwind callback rest => callback.panicsOnHub && rest.panicsOnHub
  | withScope scopeFn body rest =>
      scopeFn.panicsOnHub && body.panicsOnHub && rest.panicsOnHub
  | panic extractor _ pipeline => extractor.panicsOnHub && pipeline.panicsOnHub
  | panicElsewhere _ => false

theorem outcome_sections (program : Program) (hooking : Bool) :
    program.sections.outcome hooking = program.outcome hooking := by
  induction program generalizing hooking with
  | done => rfl
  | read _ rest induction | write _ rest induction
  | getDiagnostics rest induction =>
      simp [sections, outcome, Code.outcome, induction]
  | configureScope closure rest callback induction
  | pushScope closure rest callback induction =>
      simp [sections, outcome, Code.outcome, callback, induction]
  | withScope scopeFn body rest first second induction =>
      simp [sections, outcome, Code.outcome, first, second, induction]
  | addBreadcrumb filter accepted rest callback induction =>
      cases accepted <;>
        simp [sections, outcome, Code.outcome, callback, induction]
  | captureEvent bound pipeline errorLevel rest callback induction =>
      cases bound <;> cases errorLevel <;>
        simp [sections, captureSections, outcome, Code.outcome, callback, induction]
  | startSession bound transport rest callback induction
  | endSession bound transport rest callback induction =>
      cases bound <;>
        simp [sections, outcome, Code.outcome, callback, induction]
  | panic extractor bound pipeline first second =>
      cases bound <;>
        simp [sections, panicHandler, captureSections, outcome, Code.outcome,
          first, second]
  | panicElsewhere hook induction =>
      simp [sections, outcome, Code.outcome, induction]
  | catchUnwind body rest callback induction =>
      cases caught : body.outcome hooking <;>
        simp [sections, outcome, Code.outcome, callback, induction, caught]

/-- Next to a guard, the request of `mark_session_crashed` decides. -/
theorem disciplined_sections (program : Program) (hooking : Bool)
    (held : Option Mode) :
    program.sections.disciplined hooking held =
      program.disciplined hooking held := by
  induction program generalizing hooking held with
  | done => rfl
  | read _ rest induction | write _ rest induction
  | getDiagnostics rest induction =>
      simp [sections, disciplined, Code.disciplined, Code.outcome, induction]
  | configureScope closure rest callback induction =>
      simp [sections, disciplined, Code.disciplined, outcome_sections,
        callback, induction]
  | withScope scopeFn body rest first second induction =>
      simp only [sections, disciplined, Code.disciplined, Code.disciplined_andThen,
        Code.outcome, outcome_sections, first, second, induction]
      cases permits held .write <;> simp
  | pushScope body rest callback induction =>
      simp only [sections, disciplined, Code.disciplined, Code.outcome,
        outcome_sections, callback, induction]
      cases permits held .write <;> simp
  | addBreadcrumb filter accepted rest callback induction =>
      cases accepted <;>
        simp [sections, disciplined, Code.disciplined, Code.outcome,
          outcome_sections, callback, induction, Bool.and_assoc]
  | captureEvent bound pipeline errorLevel rest callback induction =>
      cases bound <;> cases errorLevel <;>
        cases allowed : permits held .read <;>
          simp [sections, captureSections, disciplined, Code.disciplined,
            Code.outcome, outcome_sections, callback, induction, allowed]
  | startSession bound transport rest callback induction
  | endSession bound transport rest callback induction =>
      cases bound <;>
        simp [sections, disciplined, Code.disciplined, Code.outcome,
          outcome_sections, callback, induction, Bool.and_assoc]
  | panic extractor bound pipeline first second =>
      simp only [sections, panicHandler, captureSections, disciplined,
        Code.disciplined, Code.disciplined_andThen, outcome_sections, first]
      cases held with
      | none =>
          cases bound <;>
            simp [Code.disciplined, Code.outcome, permits, outcome_sections, second]
      | some mode =>
          cases mode <;> simp [permits, Mode.conflicts]
  | panicElsewhere hook induction =>
      simp [sections, disciplined, Code.disciplined, induction]
  | catchUnwind body rest callback induction =>
      simp [sections, disciplined, Code.disciplined, outcome_sections,
        callback, induction]

/-- The handler marks the session crashed before anything else it does, its
extractor apart. -/
theorem hooksRequestWrite_sections {program : Program}
    (onHub : program.panicsOnHub = true) :
    program.sections.hooksRequestWrite = true := by
  induction program with
  | done => rfl
  | read _ rest induction | write _ rest induction
  | getDiagnostics rest induction =>
      simpa [sections, Code.hooksRequestWrite] using induction onHub
  | configureScope callback rest first second
  | pushScope callback rest first second
  | catchUnwind callback rest first second =>
      rw [panicsOnHub, Bool.and_eq_true] at onHub
      simp [sections, Code.hooksRequestWrite, first onHub.1, second onHub.2]
  | addBreadcrumb filter accepted rest first second =>
      rw [panicsOnHub, Bool.and_eq_true] at onHub
      rw [sections, Code.hooksRequestWrite, Bool.and_eq_true]
      refine ⟨rfl, Code.hooksRequestWrite_andThen (first onHub.1) ?_⟩
      cases accepted <;> simp [Code.hooksRequestWrite, second onHub.2]
  | captureEvent bound pipeline errorLevel rest first second =>
      rw [panicsOnHub, Bool.and_eq_true] at onHub
      cases bound <;> cases errorLevel <;>
        simp [sections, captureSections, Code.hooksRequestWrite, first onHub.1,
          second onHub.2]
  | startSession bound transport rest first second =>
      rw [panicsOnHub, Bool.and_eq_true] at onHub
      cases bound <;>
        simp [sections, Code.hooksRequestWrite, first onHub.1, second onHub.2]
  | endSession bound transport rest first second =>
      rw [panicsOnHub, Bool.and_eq_true] at onHub
      have hooked := Code.hooksRequestWrite_andThen (first onHub.1) (second onHub.2)
      cases bound <;>
        simp [sections, Code.hooksRequestWrite, hooked, second onHub.2]
  | withScope scopeFn body rest first second third =>
      rw [panicsOnHub, Bool.and_eq_true, Bool.and_eq_true] at onHub
      rw [sections, Code.hooksRequestWrite, Bool.and_eq_true]
      refine ⟨first onHub.1.1, Code.hooksRequestWrite_andThen (second onHub.1.2) ?_⟩
      simp [Code.hooksRequestWrite, third onHub.2]
  | panic extractor bound pipeline first second =>
      rw [panicsOnHub, Bool.and_eq_true] at onHub
      simp only [sections, panicHandler, captureSections, Code.hooksRequestWrite,
        Bool.and_eq_true]
      constructor
      · apply Code.requestsWrite_andThen
        rfl
      · apply Code.hooksRequestWrite_andThen (first onHub.1)
        cases bound <;> simp [Code.hooksRequestWrite, second onHub.2]
  | panicElsewhere hook => cases onHub

end Program

/-- Threads with a program each, interleaved on the hub's lock. -/
def machine (programs : List Program) : Machine State Nat :=
  Library.Lock.machine (programs.map Program.sections)

/-- Threads whose callbacks keep the discipline never wait for a lock they hold
themselves, and never poison it.  Where every panic runs the hook on this hub,
nothing less will do. -/
theorem selfConflict_unreachable_iff (programs : List Program) :
    ((∀ program ∈ programs, program.disciplined false none = true) →
      ∀ state, (machine programs).Reachable state →
        state.selfConflict = false ∧ state.poisoned = false) ∧
    ((∀ program ∈ programs, program.panicsOnHub = true) →
      ((∀ state, (machine programs).Reachable state →
          state.selfConflict = false) ↔
        ∀ program ∈ programs, program.disciplined false none = true)) := by
  have enough : (∀ program ∈ programs, program.disciplined false none = true) →
      ∀ state, (machine programs).Reachable state →
        state.selfConflict = false ∧ state.poisoned = false := by
    intro kept state reached
    apply conflictFree_of_disciplined _ reached
    intro code member
    obtain ⟨program, listed, rfl⟩ := List.mem_map.mp member
    rw [program.disciplined_sections]
    exact kept program listed
  refine ⟨enough, fun onHub => ⟨?_, ?_⟩⟩
  · intro free program listed
    rw [← program.disciplined_sections]
    apply disciplined_of_conflictFree _ free _ (List.mem_map_of_mem listed)
    intro code member
    obtain ⟨other, otherListed, rfl⟩ := List.mem_map.mp member
    exact Program.hooksRequestWrite_sections (onHub other otherListed)
  · intro kept state reached
    exact (enough kept state reached).1

/-- Capture an error event whose `before_send` adds a breadcrumb. -/
def crumbInBeforeSend : Program :=
  .captureEvent true (.addBreadcrumb .done true .done) true .done

/-- The breadcrumb asks for writing under the read guard of the capture. -/
theorem crumbInBeforeSend_waits_for_itself :
    ∃ state, (machine [crumbInBeforeSend]).Reachable state ∧
      state.selfConflict = true := by
  have run : ((machine [crumbInBeforeSend]).exec
      { threads := [crumbInBeforeSend.sections.thread], poisoned := false }
      [0, 0, 0, 0, 0]).map State.selfConflict = some true := by
    decide
  obtain ⟨state, reached, conflict⟩ := Option.map_eq_some_iff.mp run
  exact ⟨state, Machine.reachable_of_exec rfl reached, conflict⟩

/-- A breadcrumb from the filter of another breadcrumb, next to a capture whose
hook only reads. -/
theorem selfConflict_unreachable_iff_reading :
    ∀ state, (machine
        [.addBreadcrumb (.addBreadcrumb .done true .done) true .done,
          .captureEvent true (.read .currentTraceContext .done) true .done]).Reachable
        state →
      state.selfConflict = false ∧ state.poisoned = false :=
  (selfConflict_unreachable_iff _).1 (by decide)

end HubLock

end Allstak
