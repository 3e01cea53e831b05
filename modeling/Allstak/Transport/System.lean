import Allstak.Library.Machine
import Allstak.Transport.Spool

/-!
# The transport as a system

Calling threads, the bounded channel, the worker and the spool directory, with
one step for each section in which a party acts on what others can see.  A
label carries every choice of the environment: who moves, what the server
answers, whether a file operation succeeds.  A whole delivery, with its requests
and the pauses between them, is one step here; `Transport.Stepwise` takes it
apart and shows what that leaves out: the states in the middle of a delivery.

Each envelope sent has a number.  The second half of the state only records
what happened, for the statements about runs.
-/

namespace Allstak

namespace Transport

structure Settings where
  codec : Codec
  spool : Option EventSpool
  /-- The bound of the channel; zero is a rendezvous. -/
  transportQueueSize : Nat

structure Parcel where
  id : Nat
  envelope : Envelope

inductive Message where
  | send (parcel : Parcel)
  | flush (ack : Nat)

def Message.id? : Message → Option Nat
  | .send parcel => some parcel.id
  | .flush _ => none

/-- Where `persist_or_drop` stands. -/
inductive PersistStage where
  | start
  | writing (path : String) (content : Bytes)
  | limiting
  | evicting (paths : List String)

inductive PersistAction where
  /-- Whether the directory is there, and the name drawn for the created file. -/
  | begin (dirReady : Bool) (created : Option (Nat × Uuid))
  /-- Write the content, or fail after so many bytes of it. -/
  | write (failedAfter : Option Nat)
  | list
  | evict (removed : Bool)
  | finish

/-- A flush, or the flush a shutdown begins with, and the envelopes whose send
had returned before it was called. -/
structure FlushCall where
  before : List Nat
  stopping : Bool

inductive Activity where
  | idle
  /-- `send_envelope` waits for the sender lock. -/
  | locking (parcel : Parcel)
  | offering (parcel : Parcel)
  /-- The channel took the envelope; the gauge is not counted up yet. -/
  | counting (parcel : Parcel)
  | spooling (parcel : Parcel) (stage : PersistStage)
  | flushing (call : FlushCall)
  /-- Holds a clone of the sender. -/
  | posting (call : FlushCall)
  | awaiting (call : FlushCall) (ack : Nat)
  /-- `shutdown` is about to take the sender. -/
  | taking (drained : Bool) (before : List Nat)
  | closing (drained : Bool) (before : List Nat)
  | joining (drained : Bool) (before : List Nat)

namespace Activity

def holdsSender : Activity → Bool
  | .offering _ => true
  | .counting _ => true
  | .spooling _ _ => true
  | _ => false

def holdsClone : Activity → Bool
  | .posting _ => true
  | .awaiting _ _ => true
  | _ => false

def holdsHandle : Activity → Bool
  | .joining _ _ => true
  | _ => false

def awaits (ack : Nat) : Activity → Bool
  | .awaiting _ other => other == ack
  | _ => false

end Activity

/-- Why a replayed file is removed. -/
inductive Fate where
  | accepted
  | discarded
  deriving DecidableEq

inductive Phase where
  | starting
  | listing
  | draining (paths : List String)
  | replaying (path : String) (paths : List String) (envelope : Envelope)
  | removing (path : String) (paths : List String) (fate : Fate)
  | idle
  /-- Off the channel; the gauge is not counted down yet. -/
  | received (parcel : Parcel)
  | delivering (parcel : Parcel)
  | persisting (parcel : Parcel) (stage : PersistStage)
  | acking (ack : Nat)
  | exited
  /-- Never built, or killed by a panic. -/
  | gone

namespace Phase

def isIdle : Phase → Bool
  | .idle => true
  | _ => false

def isGone : Phase → Bool
  | .gone => true
  | _ => false

/-- The worker thread has ended. -/
def isOver : Phase → Bool
  | .exited => true
  | .gone => true
  | _ => false

def acks (ack : Nat) : Phase → Bool
  | .acking other => other == ack
  | _ => false

/-- The envelope the worker has taken off the channel. -/
def hands : Phase → List Nat
  | .received parcel => [parcel.id]
  | .delivering parcel => [parcel.id]
  | .persisting parcel _ => [parcel.id]
  | _ => []

end Phase

structure State where
  threads : List Activity
  queue : List Message := []
  senderOpen : Bool := true
  handle : Bool := true
  worker : Phase := .starting
  files : List File := []
  limiter : RateLimiter := .new
  counters : TransportCounters := {}
  /-- Envelopes sent and flush markers posted so far. -/
  sent : Nat := 0
  acks : Nat := 0
  /-- Files in the directory at the start. -/
  found : Nat := 0
  /-- Every name a file of the directory ever had. -/
  names : List String := []
  returned : List Nat := []
  enqueued : List Nat := []
  dequeued : List Nat := []
  /-- Answered 2xx, stored, and counted as dropped, outside the replay. -/
  answered : List Nat := []
  stored : List Nat := []
  dropped : List Nat := []
  /-- Dropped with an unfinished file left in the spool. -/
  spoiled : List Nat := []
  /-- Removed from the spool: by a successful replay, by any other replay, by
  the limits. -/
  replayed : List Item := []
  discarded : List Item := []
  evicted : List Item := []
  /-- Drops counted during the replay. -/
  replayDrops : Nat := 0
  /-- Lost with a worker that ended before its queue was empty. -/
  vanished : List Nat := []
  /-- The envelopes some flush or shutdown has answered for with `true`. -/
  confirmed : List Nat := []
  /-- Every request made, with its answer. -/
  posts : List Post := []

namespace State

def setThread (state : State) (index : Nat) (activity : Activity) : State :=
  { state with threads := state.threads.set index activity }

def senderLocked (state : State) : Bool := state.threads.any Activity.holdsSender

def senderCloned (state : State) : Bool := state.threads.any Activity.holdsClone

def handleLocked (state : State) : Bool := state.threads.any Activity.holdsHandle

/-- Whether the channel takes a message now.  A rendezvous needs the worker
waiting in `recv`. -/
def hasRoom (settings : Settings) (state : State) (parked : Bool) : Bool :=
  if settings.transportQueueSize = 0 then
    parked && state.worker.isIdle && state.queue.isEmpty
  else decide (state.queue.length < settings.transportQueueSize)

def drop (state : State) (id : Nat) : State :=
  { state with
    counters := state.counters.dropped
    dropped := state.dropped ++ [id] }

def store (state : State) (id : Nat) : State :=
  { state with
    counters := state.counters.persisted
    stored := state.stored ++ [id] }

def createFile (state : State) (path : String) (id : Nat) : State :=
  { state with
    files := state.files ++ [{ name := path, content := [], item := .sent id }]
    names := state.names ++ [path] }

def writeFile (state : State) (path : String) (content : Bytes) : State :=
  { state with
    files := updateFile state.files path fun file => { file with content } }

/-- The write failed; the file stays behind with a part of the content. -/
def spoilFile (state : State) (path : String) (content : Bytes) (id : Nat) :
    State :=
  { state.writeFile path content with spoiled := state.spoiled ++ [id] }

/-- The envelopes whose files have this name. -/
def itemsAt (state : State) (path : String) : List Item :=
  (state.files.filter fun file => file.name = path).map File.item

def evictFile (state : State) (path : String) (removed : Bool) : State :=
  if removed then
    { state with
      files := removeFile state.files path
      evicted := state.evicted ++ state.itemsAt path }
  else state

/-- One step of `persist_or_drop`: the stage after it, none when it is done.  A
version 4 uuid is taken never to be drawn twice. -/
def persistStep (settings : Settings) (parcel : Parcel) (stage : PersistStage)
    (action : PersistAction) (state : State) :
    Option (Option PersistStage × State) :=
  match stage, action with
  | .start, .begin dirReady created =>
      match settings.spool with
      | none => some (none, state.drop parcel.id)
      | some _ =>
          if !isPersistable parcel.envelope.path || !dirReady then
            some (none, state.drop parcel.id)
          else
            match settings.codec.persistedToVec parcel.envelope.persisted with
            | none => some (none, state.drop parcel.id)
            | some content =>
                match created with
                | none => some (none, state.drop parcel.id)
                | some (nowMillis, uuid) =>
                    let path := spoolFileName nowMillis uuid
                    if path ∈ state.names then none
                    else
                      some (some (.writing path content),
                        state.createFile path parcel.id)
  | .writing path content, .write failedAfter =>
      match failedAfter with
      | none => some (some .limiting, state.writeFile path content)
      | some written =>
          some (none,
            (state.spoilFile path (content.take written) parcel.id).drop
              parcel.id)
  | .limiting, .list =>
      settings.spool.map fun spool =>
        (some (.evicting (spool.enforceLimits (filesWithSizes state.files))),
          state)
  | .evicting (path :: paths), .evict removed =>
      some (some (.evicting paths), state.evictFile path removed)
  | .evicting [], .finish => some (none, state.store parcel.id)
  | _, _ => none

inductive ThreadAction where
  | send (envelope : Envelope)
  | lock
  | offer (parked : Bool)
  | count
  | spool (action : PersistAction)
  | flush
  | shutdown
  | clone
  | post
  | acknowledge
  | timeout
  | take
  | close
  | join

/-- `send_envelope` returns to its caller. -/
def endSend (state : State) (index : Nat) (id : Nat) : State :=
  { state with returned := state.returned ++ [id] }.setThread index .idle

def confirm (state : State) (drained : Bool) (before : List Nat) : State :=
  { state with
    confirmed := state.confirmed ++ if drained then before else [] }

/-- A flush returns: to its caller, or into the shutdown that made it. -/
def endFlush (state : State) (index : Nat) (call : FlushCall) (drained : Bool) :
    State :=
  if call.stopping then state.setThread index (.taking drained call.before)
  else (state.confirm drained call.before).setThread index .idle

def endShutdown (state : State) (index : Nat) (drained : Bool)
    (before : List Nat) : State :=
  (state.confirm drained before).setThread index .idle

/-- A step of the thread; it acts only when no other party has to move first.
An envelope is refused when the sender was taken, the receiver is dropped or the
channel is full. -/
def threadStep (settings : Settings) (index : Nat) (state : State) :
    Activity → ThreadAction → Option State
  | .idle, .send envelope =>
      some <|
        { state with
          sent := state.sent + 1
          counters := state.counters.captured }.setThread index
            (.locking { id := state.sent, envelope })
  | .locking parcel, .lock =>
      if state.senderLocked then none
      else some (state.setThread index (.offering parcel))
  | .offering parcel, .offer parked =>
      if !state.senderOpen || state.worker.isGone ||
          !state.hasRoom settings parked then
        some (state.setThread index (.spooling parcel .start))
      else
        some <|
          { state with
            queue := state.queue ++ [Message.send parcel]
            enqueued := state.enqueued ++ [parcel.id] }.setThread index
              (.counting parcel)
  | .counting parcel, .count =>
      some <|
        { state with counters := state.counters.queued }.endSend index parcel.id
  | .spooling parcel stage, .spool action =>
      (persistStep settings parcel stage action state).map fun done =>
        match done.1 with
        | none => done.2.endSend index parcel.id
        | some stage => done.2.setThread index (.spooling parcel stage)
  | .idle, .flush =>
      some <|
        state.setThread index
          (.flushing { before := state.returned, stopping := false })
  | .idle, .shutdown =>
      some <|
        state.setThread index
          (.flushing { before := state.returned, stopping := true })
  | .flushing call, .clone =>
      if state.senderLocked then none
      else if state.senderOpen then some (state.setThread index (.posting call))
      else some (state.endFlush index call true)
  | .posting call, .post =>
      if state.worker.isGone then some (state.endFlush index call true)
      else if state.hasRoom settings true then
        some <|
          { state with
            queue := state.queue ++ [Message.flush state.acks]
            acks := state.acks + 1 }.setThread index (.awaiting call state.acks)
      else none
  | .awaiting call ack, .acknowledge =>
      if state.worker.acks ack then
        some ({ state with worker := .idle }.endFlush index call true)
      else none
  | .awaiting call _, .timeout => some (state.endFlush index call false)
  | .taking drained before, .take =>
      if state.senderLocked then none
      else
        some <|
          { state with senderOpen := false }.setThread index
            (.closing drained before)
  | .closing drained before, .close =>
      if state.handleLocked then none
      else if state.handle then
        some <|
          { state with handle := false }.setThread index
            (.joining drained before)
      else some (state.endShutdown index drained before)
  | .joining drained before, .join =>
      if state.worker.isOver then some (state.endShutdown index drained before)
      else none
  | _, _ => none

inductive WorkerAction where
  | build (succeeds : Bool)
  | list
  | load
  | replay (checkedAt : Instant) (exchanges : Nat → Exchange)
  | remove (removed : Bool)
  | receive
  | uncount
  | deliver (checkedAt : Instant) (exchanges : Nat → Exchange)
  | persist (action : PersistAction)
  | abandon

/-- The envelopes in the channel. -/
def channel (state : State) : List Nat := state.queue.filterMap Message.id?

/-- The worker ends at once and its receiver is dropped.  What a panic hook of
the process does on the worker's thread before is left out. -/
def die (state : State) : State :=
  { state with
    worker := .gone
    queue := []
    vanished := state.vanished ++ (state.worker.hands ++ state.channel) }

/-- The worker ends in a delivery that panics. -/
def perish (state : State) (codec : Codec) (envelope : Envelope)
    (exchanges : Nat → Exchange) : State :=
  let cut := deliverCutShort codec envelope state.counters exchanges
  { state.die with
    counters := cut.1
    posts := state.posts ++ requestsOf codec envelope cut.2 }

/-- Take over what a delivery left behind. -/
def delivered (state : State) (codec : Codec) (envelope : Envelope)
    (delivery : Delivery) : State :=
  { state with
    limiter := delivery.limiter
    counters := delivery.counters
    posts := state.posts ++ requestsOf codec envelope delivery.posts }

def unlinkReplayed (state : State) (path : String) (fate : Fate)
    (removed : Bool) : State :=
  if removed then
    match fate with
    | .accepted =>
        { state with
          files := removeFile state.files path
          replayed := state.replayed ++ state.itemsAt path }
    | .discarded =>
        { state with
          files := removeFile state.files path
          discarded := state.discarded ++ state.itemsAt path }
  else state

def workerStep (settings : Settings) (state : State) :
    Phase → WorkerAction → Option State
  | .starting, .build succeeds =>
      if succeeds then
        some
          { state with
            worker := if settings.spool.isSome then .listing else .idle }
      else some state.die
  | .listing, .list => some { state with worker := .draining (spoolFiles state.files) }
  | .draining [], .load => some { state with worker := .idle }
  | .draining (path :: paths), .load =>
      match loadFile settings.codec state.files path with
      | none =>
          some
            { state with
              counters := state.counters.dropped
              replayDrops := state.replayDrops + 1
              worker := .removing path paths .discarded }
      | some envelope =>
          some { state with worker := .replaying path paths envelope }
  | .replaying path paths envelope, .replay checkedAt exchanges =>
      match deliver settings.codec envelope state.limiter state.counters checkedAt
          exchanges with
      | none => some (state.perish settings.codec envelope exchanges)
      | some delivery =>
          let after := state.delivered settings.codec envelope delivery
          match delivery.outcome with
          | .accepted =>
              some
                { after with
                  counters := after.counters.replayed
                  worker := .removing path paths .accepted }
          | .permanentFailure =>
              some
                { after with
                  counters := after.counters.dropped
                  replayDrops := after.replayDrops + 2
                  worker := .removing path paths .discarded }
          | .retryableFailure => some { after with worker := .idle }
  | .removing path paths fate, .remove removed =>
      some
        { state.unlinkReplayed path fate removed with worker := .draining paths }
  | .idle, .receive =>
      match state.queue with
      | .send parcel :: rest =>
          some
            { state with
              queue := rest
              dequeued := state.dequeued ++ [parcel.id]
              worker := .received parcel }
      | .flush ack :: rest =>
          some { state with queue := rest, worker := .acking ack }
      | [] =>
          if state.senderOpen || state.senderCloned then none
          else some { state with worker := .exited }
  | .received parcel, .uncount =>
      some
        { state with
          counters := state.counters.unqueued
          worker := .delivering parcel }
  | .delivering parcel, .deliver checkedAt exchanges =>
      match deliver settings.codec parcel.envelope state.limiter state.counters
          checkedAt exchanges with
      | none => some (state.perish settings.codec parcel.envelope exchanges)
      | some delivery =>
          let after := state.delivered settings.codec parcel.envelope delivery
          match delivery.outcome with
          | .accepted =>
              some
                { after with
                  answered := after.answered ++ [parcel.id]
                  worker := .idle }
          | .permanentFailure =>
              some
                { after with
                  dropped := after.dropped ++ [parcel.id]
                  worker := .idle }
          | .retryableFailure =>
              some { after with worker := .persisting parcel .start }
  | .persisting parcel stage, .persist action =>
      (persistStep settings parcel stage action state).map fun done =>
        match done.1 with
        | none => { done.2 with worker := .idle }
        | some stage => { done.2 with worker := .persisting parcel stage }
  | .acking ack, .abandon =>
      if state.threads.any (Activity.awaits ack) then none
      else some { state with worker := .idle }
  | _, _ => none

end State

inductive Label where
  | thread (index : Nat) (action : State.ThreadAction)
  | worker (action : State.WorkerAction)

def step (settings : Settings) (state : State) : Label → Option State
  | .thread index action =>
      (state.threads[index]?).bind fun activity =>
        State.threadStep settings index state activity action
  | .worker action => State.workerStep settings state state.worker action

/-- A new transport over any directory: no call has been made, and the worker
thread is starting, or could not be spawned. -/
def Starts (state : State) : Prop :=
  ∃ (calls : Nat) (directory : List File) (spawned : Bool),
    (directory.map File.name).Nodup ∧
      directory.map File.item =
        (List.range directory.length).map Item.found ∧
      state =
        { threads := List.replicate calls .idle
          worker := if spawned then .starting else .gone
          handle := spawned
          files := directory
          found := directory.length
          names := directory.map File.name }

/-- The transport with its worker. -/
def machine (settings : Settings) : Library.Machine State Label where
  start := Starts
  next := step settings

end Transport

end Allstak
