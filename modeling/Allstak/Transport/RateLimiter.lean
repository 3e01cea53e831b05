import Mathlib.Algebra.Group.Int.Defs
import Mathlib.Algebra.Group.Nat.Defs
import Mathlib.Data.List.Basic
import Mathlib.Logic.Function.Basic
import Allstak.Envelope
import Allstak.Text

/-!
# Rate limits

Deadlines after which a data category, or everything, may be sent again.  An
instant has 64-bit seconds, so adding a duration can leave the representable
range; the addition then panics, which every function below that adds reports
as `none`.
-/

namespace Allstak

/-- A span of time in nanoseconds. -/
abbrev Duration := Nat

def NANOS_PER_SEC : Nat := 1000000000

def Duration.fromSecs (seconds : Nat) : Duration := seconds * NANOS_PER_SEC

def Duration.fromMillis (millis : Nat) : Duration := millis * 1000000

/-- A reading of the monotonic clock in nanoseconds, with `i64` seconds. -/
structure Instant where
  nanos : Int
  representable : -2 ^ 63 * NANOS_PER_SEC ≤ nanos ∧ nanos < 2 ^ 63 * NANOS_PER_SEC

namespace Instant

/-- The whole seconds of the reading. -/
def seconds (instant : Instant) : Int := instant.nanos / NANOS_PER_SEC

/-- `Instant + Duration`. -/
def add (instant : Instant) (duration : Duration) : Option Instant :=
  if late : instant.nanos + duration < 2 ^ 63 * NANOS_PER_SEC then
    some
      { nanos := instant.nanos + duration
        representable := by
          have early := instant.representable.1
          omega }
  else none

/-- The clock reads this instant before the other one. -/
def before (instant deadline : Instant) : Bool :=
  decide (instant.nanos < deadline.nanos)

private theorem add_isSome_iff (instant : Instant) (duration : Duration) :
    (instant.add duration).isSome = true ↔
      instant.nanos + duration < 2 ^ 63 * NANOS_PER_SEC := by
  rw [add]
  split
  · rename_i late
    exact ⟨fun _ => late, fun _ => rfl⟩
  · rename_i late
    exact ⟨fun absurd => Bool.noConfusion absurd, fun fits => absurd fits late⟩

/-- Whole seconds can be added up to the largest `i64`. -/
theorem add_fromSecs_isSome_iff (instant : Instant) (held : Nat) :
    (instant.add (Duration.fromSecs held)).isSome = true ↔
      instant.seconds + held ≤ 2 ^ 63 - 1 := by
  rw [add_isSome_iff]
  unfold seconds Duration.fromSecs NANOS_PER_SEC
  omega

end Instant

namespace Text

/-- `str::parse` for an unsigned type with the given maximum: an optional
plus sign and at least one ASCII digit. -/
def parseUnsigned (maximum : Nat) (text : List Char) : Option Nat :=
  let digits :=
    match text with
    | '+' :: rest => rest
    | _ => text
  if digits.isEmpty || !digits.all Char.isDigit then none
  else
    let value := digits.foldl (fun total digit => total * 10 + (digit.toNat - 48)) 0
    if value ≤ maximum then some value else none

end Text

/-- The bytes of a header value. -/
abbrev HeaderValue := List UInt8

/-- The value as text, when every byte is visible ASCII or a tab. -/
def HeaderValue.toStr (value : HeaderValue) : Option (List Char) :=
  if value.all fun byte => (32 ≤ byte && byte < 127) || byte == 9 then
    some (value.map fun byte => Char.ofNat byte.toNat)
  else none

structure RateLimiter where
  limits : DataCategory → Option Instant
  global : Option Instant

namespace RateLimiter

def new : RateLimiter := { limits := fun _ => none, global := none }

/-- Whether the category is held when the clock reads `now`. -/
def isLimited (limiter : RateLimiter) (category : DataCategory) (now : Instant) :
    Bool :=
  (match limiter.global with
    | some deadline => now.before deadline
    | none => false) ||
  (match limiter.limits category with
    | some deadline => now.before deadline
    | none => false)

/-- Delta seconds are taken as they are; any other text holds for a minute. -/
def parseRetryAfter (value : List Char) : Duration :=
  match Text.parseUnsigned (2 ^ 64 - 1) (Text.trim value) with
  | some seconds => Duration.fromSecs seconds
  | none => Duration.fromSecs 60

def hold (limiter : RateLimiter) (category : DataCategory) (duration : Duration)
    (now : Instant) : Option RateLimiter :=
  (now.add duration).map fun deadline =>
    { limiter with
      limits := Function.update limiter.limits category (some deadline) }

/-- Update the limits from a 429 response with this `Retry-After` header. -/
def updateFromResponse (limiter : RateLimiter) (category : DataCategory)
    (header : Option HeaderValue) (now : Instant) : Option RateLimiter :=
  match header.bind HeaderValue.toStr with
  | some value =>
      (now.add (parseRetryAfter value)).map fun deadline =>
        { limiter with global := some deadline }
  | none => limiter.hold category (Duration.fromSecs 60) now

/-- The seconds a 429 response holds for: the number its header spells, and
sixty for a header that is absent, no text, or no number. -/
def heldSeconds (header : Option HeaderValue) : Nat :=
  (header.bind HeaderValue.toStr).bind
    (fun value => Text.parseUnsigned (2 ^ 64 - 1) (Text.trim value)) |>.getD 60

/-- The held seconds fit after the present second of the clock. -/
def Holdable (header : Option HeaderValue) (now : Instant) : Prop :=
  now.seconds + heldSeconds header ≤ 2 ^ 63 - 1

instance (header : Option HeaderValue) (now : Instant) :
    Decidable (Holdable header now) :=
  inferInstanceAs (Decidable (_ ≤ _))

/-- Handling a 429 response keeps within the clock's range exactly when the
held seconds fit. -/
theorem updateFromResponse_isSome_iff (limiter : RateLimiter)
    (category : DataCategory) (header : Option HeaderValue) (now : Instant) :
    (limiter.updateFromResponse category header now).isSome = true ↔
      Holdable header now := by
  unfold updateFromResponse Holdable heldSeconds
  cases readable : header.bind HeaderValue.toStr with
  | none =>
      rw [hold, Option.isSome_map, Instant.add_fromSecs_isSome_iff]
      rfl
  | some value =>
      rw [Option.isSome_map, parseRetryAfter, Option.bind_some]
      cases parsed : Text.parseUnsigned (2 ^ 64 - 1) (Text.trim value) with
      | none => exact Instant.add_fromSecs_isSome_iff now 60
      | some seconds => exact Instant.add_fromSecs_isSome_iff now seconds

end RateLimiter

end Allstak
