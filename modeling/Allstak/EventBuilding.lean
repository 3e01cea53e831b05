import Allstak.Client
import Allstak.Db

/-!
# Building events

Error events made of errors, messages and panics, with the frames of a
backtrace.  The symbols the backtrace library resolves, innermost first, and
the fresh event id are arguments.
-/

namespace Allstak

/-- What the backtrace library knows of a frame. -/
structure Symbol where
  name : Option String := none
  filename : Option String := none
  lineno : Option UInt32 := none
  colno : Option UInt32 := none

/-- The options that building an event reads. -/
structure BacktraceOptions where
  inAppInclude : List String := []
  inAppExclude : List String := []
  attachStacktrace : Bool := false

namespace Backtrace

def startsWith (text start : String) : Bool :=
  start.toList.isPrefixOf text.toList

/-- Frames of the SDK and of the runtime. -/
def INTERNAL : List String :=
  ["allstak::", "backtrace::", "core::panic", "std::panic", "std::sys",
    "__rust"]

def NOT_IN_APP : List String :=
  ["std::", "core::", "alloc::", "tokio::", "<core::"]

def isInternal (symbol : Symbol) : Bool :=
  symbol.name.any fun name => INTERNAL.any (startsWith name)

/-- Exclusion goes first, then inclusion, then the well-known crates. -/
def isInApp (function : String) (options : BacktraceOptions) : Bool :=
  if options.inAppExclude.any (startsWith function) then false
  else if options.inAppInclude.any (startsWith function) then true
  else !NOT_IN_APP.any (startsWith function)

def frame (options : BacktraceOptions) (symbol : Symbol) : Frame :=
  { filename := symbol.filename
    absPath := symbol.filename
    function := symbol.name
    lineno := symbol.lineno
    colno := symbol.colno
    inApp := symbol.name.map fun name => isInApp name options
    platform := some PLATFORM
    debugId := none }

/-- The innermost frame comes last. -/
def currentFrames (options : BacktraceOptions) (symbols : List Symbol) :
    List Frame :=
  ((symbols.filter fun symbol => !isInternal symbol).map
    (frame options)).reverse

def frameAsString (frame : Frame) : String :=
  let function := frame.function.getD "<unknown>"
  match frame.filename, frame.lineno with
  | some file, some line => s!"{function} ({file}:{line})"
  | some file, none => s!"{function} ({file})"
  | none, _ => function

def framesAsStrings (frames : List Frame) : List String :=
  frames.map frameAsString

end Backtrace

/-- An error with its `Debug` and `Display` renderings, and its `source()`. -/
inductive StdError where
  | root (debug display : String)
  | caused (debug display : String) (source : StdError)

namespace StdError

def debug : StdError → String
  | root debug _ => debug
  | caused debug _ _ => debug

def display : StdError → String
  | root _ display => display
  | caused _ display _ => display

/-- The errors below this one, the nearest first. -/
def chain : StdError → List String
  | root _ _ => []
  | caused _ _ source => source.display :: source.chain

end StdError

namespace ErrorEvent

/-- An event takes the frames there are. -/
def attachFrames (frames : List Frame) (event : ErrorEvent) : ErrorEvent :=
  if frames.isEmpty then event
  else
    { event with
      stackTrace := some (Backtrace.framesAsStrings frames)
      frames := some frames }

section

variable [AlphanumericTable]

/-- The leading identifier of the `Debug` rendering. -/
def classFromError (error : StdError) : String :=
  let name := error.debug.toList.takeWhile fun character =>
    AlphanumericTable.isAlphanumeric character || character == '_'
  if name.isEmpty then "Error" else String.ofList name

/-- The message tells the whole chain. -/
def fromError (error : StdError) (options : BacktraceOptions)
    (symbols : List Symbol) (eventId : Uuid) : ErrorEvent :=
  let message :=
    if error.chain.isEmpty then error.display
    else error.display ++ ": " ++ ": ".intercalate error.chain
  attachFrames (Backtrace.currentFrames options symbols)
    { eventId
      exceptionClass := classFromError error
      message
      level := some Level.error.asStr }

end

/-- Without a client there are no options and no frames. -/
def fromMessage (message : String) (level : Level)
    (client : Option BacktraceOptions) (symbols : List Symbol)
    (eventId : Uuid) : ErrorEvent :=
  let event : ErrorEvent :=
    { eventId
      exceptionClass := "Message"
      message
      level := some level.asStr }
  match client with
  | none => event
  | some options =>
      if options.attachStacktrace then
        attachFrames (Backtrace.currentFrames options symbols) event
      else event

def fromPanic (message : String) (frames : List Frame) (eventId : Uuid) :
    ErrorEvent :=
  attachFrames frames
    { eventId
      exceptionClass := "panic"
      message
      level := some Level.fatal.asStr }

/-- `capture_anyhow`: the chain below the error stands in the stack trace. -/
def fromAnyhow (error : StdError) (eventId : Uuid) : ErrorEvent :=
  { eventId
    exceptionClass := "anyhow::Error"
    message := error.display
    level := some Level.error.asStr
    stackTrace := if error.chain.isEmpty then none else some error.chain }

@[simp] theorem attachFrames_level (frames : List Frame) (event : ErrorEvent) :
    (attachFrames frames event).level = event.level := by
  rw [attachFrames]
  split <;> rfl

theorem fromMessage_level (message : String) (level : Level)
    (client : Option BacktraceOptions) (symbols : List Symbol)
    (eventId : Uuid) :
    (fromMessage message level client symbols eventId).level =
      some level.asStr := by
  cases client with
  | none => rfl
  | some options =>
      change (if options.attachStacktrace then _ else _ : ErrorEvent).level = _
      split
      · exact attachFrames_level ..
      · rfl

end ErrorEvent

end Allstak
