import Allstak.Performance

/-!
# What is handed over

A span and a request record go to the client of a hub, which sends one envelope
for each or, when it is disabled, nothing.  The futures of requests hold spans,
which go out at the latest when the future is dropped.

A request under way takes turns with everything else the process does: after its
answer the span is finished and the record made, one after the other.
-/

namespace Allstak

namespace Handing

/-- The client of a hub. -/
def clientOf (world : World) (hub : HubId) : Option (ClientId × Client) :=
  (world.hubs hub).client.map fun client =>
    (client, (world.clients client).client)

section

variable [UnicodeTables]

/-- What a client hands over of one payload: nothing when it is disabled. -/
def handed (bound : Option (ClientId × Client)) (path : String)
    (category : DataCategory) (payload : Client → Value) :
    List (ClientId × Envelope) :=
  match bound with
  | none => []
  | some (id, client) =>
      if client.isEnabled then
        [(id,
          { path
            category
            body :=
              if client.options.sendDefaultPii then payload client
              else scrubValue (payload client) })]
      else []

def spanHanded (bound : Option (ClientId × Client)) (span : Span)
    (moment : Moment) : List (ClientId × Envelope) :=
  handed bound "/ingest/v1/spans" .transaction fun client =>
    batch "spans" [(span.toRecord client.options moment).toValue]

def recordHanded (bound : Option (ClientId × Client))
    (record : HttpRequestRecord) : List (ClientId × Envelope) :=
  handed bound "/ingest/v1/http-requests" .httpRequest fun _ =>
    batch "requests" [record.toValue]

theorem sent_capturePayload (world : World) (id : ClientId)
    (path : String) (category : DataCategory) (payload : Client → Value) :
    (world.ingest id fun client counters =>
        client.capturePayload (payload client) path category counters).sent =
      world.sent ++
        handed (some (id, (world.clients id).client)) path category
          payload := by
  rw [World.ingest_sent]
  apply congrArg (world.sent ++ ·)
  by_cases enabled : (world.clients id).client.isEnabled = true
  · simp [Client.capturePayload, Client.deliver, handed, enabled]
  · simp [Client.capturePayload, Client.deliver, handed, enabled]

theorem sent_finishSpan (world : World) (hub : HubId) (span : Span)
    (moment : Moment) :
    (world.finishSpan hub span moment).sent =
      world.sent ++ spanHanded (clientOf world hub) span moment := by
  unfold World.finishSpan clientOf
  cases (world.hubs hub).client with
  | none => simp [spanHanded, handed]
  | some client => exact sent_capturePayload world client _ _ _

theorem sent_recordRequest (world : World) (pending : Pending)
    (answer : Answer) (moment : Moment) :
    (world.recordRequest pending answer moment).sent =
      world.sent ++
        recordHanded (clientOf world pending.hub)
          (pending.record answer moment) := by
  unfold World.recordRequest clientOf
  cases (world.hubs pending.hub).client with
  | none => simp [recordHanded, handed]
  | some client => exact sent_capturePayload world client _ _ _

/-- The drop of a future with the span in it. -/
def dropSpan (hub : HubId) (moment : Moment) (span : Option Span)
    (world : World) : World :=
  match span with
  | none => world
  | some span => OpenSpan.drop hub moment { span } world

theorem sent_dropSpan (world : World) (hub : HubId) (moment : Moment)
    (span : Option Span) :
    (dropSpan hub moment span world).sent =
      world.sent ++ span.elim [] fun span =>
        spanHanded (clientOf world hub) span moment := by
  unfold dropSpan
  cases span with
  | none => simp
  | some span =>
      simp only
      rw [OpenSpan.drop_unfinished _ _ _ rfl, sent_finishSpan]
      rfl

theorem dropSpan_nextHub (world : World) (hub : HubId) (moment : Moment)
    (span : Option Span) :
    (dropSpan hub moment span world).nextHub = world.nextHub := by
  unfold dropSpan
  cases span with
  | none => rfl
  | some span =>
      simp only
      rw [OpenSpan.drop_unfinished _ _ _ rfl, World.finishSpan_nextHub]

end

/-- The record's clock: the time to the answer, stamped later. -/
def stamped (answered later : Moment) : Moment :=
  { answered with iso8601 := later.iso8601 }

/-- A turn of a request under way: its future is dropped while it waits, or it
is answered, its span is finished, its record is made. -/
inductive Turn (α : Type) where
  | giveUp (moment : Moment)
  | answer (answer : α) (moment : Moment)
  | close (moment : Moment)
  | record (moment : Moment)

/-- What came of a turn.  The client is the one bound at that time to the hub
the turn is about. -/
inductive Chapter (α : Type) where
  | givenUp (bound : Option (ClientId × Client)) (moment : Moment)
  | answered (answer : α) (moment : Moment)
  | closed (answer : α) (bound : Option (ClientId × Client)) (moment : Moment)
  | recorded (answer : α) (answered : Moment)
      (bound : Option (ClientId × Client)) (moment : Moment)

/-- The chapter a turn adds to those before, none out of turn. -/
def Turn.next (bound : Option (ClientId × Client)) :
    Turn α → List (Chapter α) → Option (Chapter α)
  | .giveUp moment, [] => some (.givenUp bound moment)
  | .answer result moment, [] => some (.answered result moment)
  | .close moment, [.answered result _] => some (.closed result bound moment)
  | .record moment, [.answered result answered, .closed _ _ _] =>
      some (.recorded result answered bound moment)
  | _, _ => none

/-- A request that was given up goes no further, and one that was answered has
its span finished and then its record made, for that answer. -/
inductive Told : List (Chapter α) → Prop where
  | waiting : Told []
  | givenUp (bound : Option (ClientId × Client)) (moment : Moment) :
      Told [.givenUp bound moment]
  | answered (answer : α) (moment : Moment) : Told [.answered answer moment]
  | closed (answer : α) (moment : Moment) (bound : Option (ClientId × Client))
      (later : Moment) :
      Told [.answered answer moment, .closed answer bound later]
  | recorded (answer : α) (moment : Moment)
      (bound : Option (ClientId × Client)) (later : Moment)
      (own : Option (ClientId × Client)) (last : Moment) :
      Told
        [.answered answer moment, .closed answer bound later,
          .recorded answer moment own last]

theorem Told.next {before : List (Chapter α)} {turn : Turn α}
    {chapter : Chapter α} {bound : Option (ClientId × Client)}
    (told : Told before) (comes : turn.next bound before = some chapter) :
    Told (before ++ [chapter]) := by
  cases told <;> cases turn <;> cases comes <;> constructor

/-- Anything the process does besides, with what it sends.  No hub is taken
back. -/
structure Elsewhere where
  change : World → World
  sends : World → List (ClientId × Envelope)
  appends : ∀ world, (change world).sent = world.sent ++ sends world
  hubs : ∀ world, world.nextHub ≤ (change world).nextHub

end Handing

end Allstak
