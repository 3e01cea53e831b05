import Allstak.Middleware

/-!
# Performance spans

Root spans, child spans, and the sending of a span.  A span is sent to the
client of the current hub when it is finished or dropped, whichever is first.
-/

namespace Allstak

namespace Span

/-- A root span, with a trace of its own. -/
def transaction (operation name newTraceId newSpanId : String)
    (moment : Moment) : Span :=
  { traceId := newTraceId
    spanId := newSpanId
    parentSpanId := none
    operation
    description := some name
    startMillis := moment.millis
    started := moment.instant }

def startChild (operation description newSpanId : String) (moment : Moment)
    (span : Span) : Span :=
  { traceId := span.traceId
    spanId := newSpanId
    parentSpanId := some span.spanId
    operation
    description := some description
    startMillis := moment.millis
    started := moment.instant }

def setData (data : Value) (span : Span) : Span :=
  { span with data := some data }

end Span

/-- A span in the hands of the application. -/
structure OpenSpan where
  span : Span
  finished : Bool := false

namespace OpenSpan

variable [UnicodeTables]

/-- The first send is the only one. -/
def send (hub : HubId) (moment : Moment) (opened : OpenSpan) (world : World) :
    OpenSpan × World :=
  if opened.finished then (opened, world)
  else
    ({ opened with finished := true }, world.finishSpan hub opened.span moment)

/-- The drop of a span. -/
def drop (hub : HubId) (moment : Moment) (opened : OpenSpan) (world : World) :
    World :=
  (opened.send hub moment world).2

/-- `Span::finish` consumes the span, so that it is dropped on return. -/
def finish (hub : HubId) (moment : Moment) (opened : OpenSpan) (world : World) :
    World :=
  let (opened, world) := opened.send hub moment world
  opened.drop hub moment world

theorem drop_unfinished {opened : OpenSpan} (hub : HubId) (moment : Moment)
    (world : World) (unsent : opened.finished = false) :
    opened.drop hub moment world = world.finishSpan hub opened.span moment := by
  rw [drop, send, unsent]
  rfl

/-- The drop at the end of `finish` sends nothing more. -/
theorem finish_eq_drop (hub : HubId) (moment : Moment) (opened : OpenSpan)
    (world : World) :
    opened.finish hub moment world = opened.drop hub moment world := by
  rw [finish, drop]
  cases sent : opened.finished with
  | true => simp [send, drop, sent]
  | false => simp [send, drop, sent]

end OpenSpan

end Allstak
