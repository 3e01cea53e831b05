import Allstak.Client

/-!
# Release-health sessions

A session lives on a hub from its start to its end.  Fresh ids and the reading
of the monotone clock, in milliseconds, are arguments.
-/

namespace Allstak

/-- A single in-flight session. -/
structure Session where
  sessionId : String
  release : String
  environment : Option String
  userId : Option String
  status : SessionStatus
  started : Nat

namespace Session

/-- Open a session; without a release there is none. -/
def start (options : ClientOptions) (user : Option User) (newTraceId : String)
    (now : Nat) : Option Session :=
  options.release.map fun release =>
    { sessionId := newTraceId
      release
      environment := some options.resolvedEnvironment
      userId := user.bind User.id
      status := .ok
      started := now }

/-- Does not downgrade a crashed or abnormal status. -/
def markErrored (session : Session) : Session :=
  if session.status = .ok then { session with status := .errored } else session

def markCrashed (session : Session) : Session :=
  { session with status := .crashed }

def toStart (session : Session) : SessionStart :=
  { sessionId := session.sessionId
    release := session.release
    environment := session.environment
    userId := session.userId
    sdkName := some SDK_NAME
    sdkVersion := some SDK_VERSION
    platform := some PLATFORM }

/-- The tracked status at the end of a session; one that is still ok has
exited. -/
def finalStatus (session : Session) : SessionStatus :=
  match session.status with
  | .ok => .exited
  | other => other

def toEnd (session : Session) (status : Option SessionStatus) (now : Nat) :
    SessionEnd :=
  { sessionId := session.sessionId
    release := session.release
    environment := session.environment
    userId := session.userId
    sdkName := some SDK_NAME
    sdkVersion := some SDK_VERSION
    platform := some PLATFORM
    durationMs := UInt64.ofNat (now - session.started)
    status := (status.getD session.finalStatus).asStr }

/-- The mark changes the status only. -/
@[simp] theorem markErrored_sessionId (session : Session) :
    session.markErrored.sessionId = session.sessionId := by
  rw [markErrored]
  split <;> rfl

/-- Of the statuses a session can have, `crashed` is the only one reported as
such. -/
theorem toEnd_status_crashed_iff (session : Session) (now : Nat) :
    (session.toEnd none now).status = "crashed" ↔ session.status = .crashed := by
  change session.finalStatus.asStr = "crashed" ↔ _
  rw [finalStatus]
  cases session.status <;> decide

end Session

end Allstak
