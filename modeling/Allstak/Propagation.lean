import Allstak.Scope
import Allstak.Text

/-!
# Trace propagation

Reading a trace context from request headers and stamping it on outbound ones.
A getter returns the text of the header with a lower-case name.
-/

namespace Allstak

namespace Propagation

def TRACE_ID_HEADERS : List String := ["x-allstak-trace-id", "x-trace-id"]

def REQUEST_ID_HEADERS : List String := ["x-request-id", "x-allstak-request-id"]

def TRACEPARENT : String := "traceparent"

def OUT_TRACE_ID : String := "X-AllStak-Trace-Id"

def OUT_REQUEST_ID : String := "X-AllStak-Request-Id"

/-- The first header that is present and not empty. -/
def first (names : List String) (get : String → Option String) : Option String :=
  names.findSome? fun name => (get name).filter (· != "")

/-- Hex digits of the given width, not all zero.  On such texts bytes and
characters are counted alike. -/
def isValidId (width : Nat) (value : List Char) : Bool :=
  value.length == width && value.all Text.isAsciiHexdigit &&
    !value.all (· == '0')

def isValidTraceId : List Char → Bool := isValidId 32

def isValidSpanId : List Char → Bool := isValidId 16

def firstValidTrace (names : List String) (get : String → Option String) :
    Option String :=
  names.findSome? fun name => (get name).bind fun value =>
    let normalized := (Text.trim value.toList).map Char.toLower
    if isValidTraceId normalized then some (String.ofList normalized) else none

/-- `00-<trace>-<span>-<flags>` -/
def parseTraceparent (value : String) : Option (String × String) :=
  match Text.split '-' (Text.trim value.toList) with
  | [version, trace, span, flags] =>
      let trace := trace.map Char.toLower
      let span := span.map Char.toLower
      if version = ['0', '0'] ∧ flags.length = 2 ∧ isValidTraceId trace ∧
          isValidSpanId span ∧ flags.all Text.isAsciiHexdigit then
        some (String.ofList trace, String.ofList span)
      else none
  | _ => none

/-- The W3C header takes precedence for the trace and the parent span. -/
def extract (get : String → Option String) : TraceContext :=
  let parsed := (get TRACEPARENT).bind parseTraceparent
  { traceId := parsed.map Prod.fst <|> firstValidTrace TRACE_ID_HEADERS get
    parentSpanId := parsed.map Prod.snd
    requestId := first REQUEST_ID_HEADERS get
    baggage := get "baggage" }

/-- Cut or pad the hex digits of a text to the width.  The fallback is minted
when no valid id comes out. -/
def normalizeHex (width : Nat) (fallback : String)
    (valid : List Char → Bool) (value : String) : String :=
  let cleaned := (value.toList.filter Text.isAsciiHexdigit).map Char.toLower
  let candidate :=
    if width ≤ cleaned.length then cleaned.take width
    else List.replicate (width - cleaned.length) '0' ++ cleaned
  if valid candidate then String.ofList candidate else fallback

def normalizeTraceId (fallback value : String) : String :=
  normalizeHex 32 fallback isValidTraceId value

def normalizeSpanId (fallback value : String) : String :=
  normalizeHex 16 fallback isValidSpanId value

/-- The ids minted when a normalization finds nothing usable: for the trace id
on the wire, and for the trace and the span of the W3C header. -/
structure Fallback where
  wireTraceId : String
  traceId : String
  spanId : String

def formatTraceparent (fallback : Fallback) (traceId spanId : String) : String :=
  let trace := normalizeTraceId fallback.traceId traceId
  let span := normalizeSpanId fallback.spanId spanId
  s!"00-{trace}-{span}-01"

/-- The headers to set, in order. -/
def inject (fallback : Fallback) (context : TraceContext)
    (spanId : Option String) : List (String × String) :=
  let traced :=
    match context.traceId with
    | none => []
    | some traceId =>
        let wireTraceId := normalizeTraceId fallback.wireTraceId traceId
        (OUT_TRACE_ID, wireTraceId) ::
          match spanId with
          | none => []
          | some span =>
              [(TRACEPARENT, formatTraceparent fallback wireTraceId span)]
  let requested :=
    match context.requestId with
    | none => []
    | some requestId => [(OUT_REQUEST_ID, requestId)]
  let bagged :=
    match context.baggage with
    | none => []
    | some baggage => if baggage != "" then [("baggage", baggage)] else []
  traced ++ requested ++ bagged

/-- A valid id in lower case. -/
structure IsWireId (width : Nat) (id : String) : Prop where
  valid : isValidId width id.toList = true
  lower : ∀ character ∈ id.toList, character.toLower = character

namespace IsWireId

variable {width : Nat} {id : String}

theorem length (wire : IsWireId width id) : id.toList.length = width := by
  have valid := wire.valid
  simp only [isValidId, Bool.and_eq_true, beq_iff_eq] at valid
  exact valid.1.1

theorem hex (wire : IsWireId width id) :
    ∀ character ∈ id.toList, Text.isAsciiHexdigit character = true := by
  have valid := wire.valid
  simp only [isValidId, Bool.and_eq_true, beq_iff_eq] at valid
  exact List.all_eq_true.mp valid.1.2

theorem map_toLower (wire : IsWireId width id) :
    id.toList.map Char.toLower = id.toList :=
  (List.map_congr_left wire.lower).trans (List.map_id _)

/-- A normalized id is its own normal form. -/
theorem normalizeHex (wire : IsWireId width id) (fallback : String) :
    normalizeHex width fallback (isValidId width) id = id := by
  have cleaned : (id.toList.filter Text.isAsciiHexdigit).map Char.toLower =
      id.toList := by
    rw [List.filter_eq_self.mpr wire.hex, wire.map_toLower]
  have whole : id.toList.take width = id.toList :=
    List.take_of_length_le wire.length.le
  rw [Propagation.normalizeHex]
  simp only [cleaned, wire.length, le_refl, if_true, whole, wire.valid]
  exact String.ofList_toList

private theorem no_hyphen (wire : IsWireId width id) : '-' ∉ id.toList := by
  intro member
  exact absurd (wire.hex '-' member) (by decide)

end IsWireId

instance (width : Nat) (id : String) : Decidable (IsWireId width id) :=
  decidable_of_iff
    (isValidId width id.toList = true ∧
      id.toList.all (fun character => character.toLower == character) = true)
    (by
      constructor
      · rintro ⟨valid, lower⟩
        refine ⟨valid, fun character member => ?_⟩
        exact eq_of_beq (List.all_eq_true.mp lower character member)
      · rintro ⟨valid, lower⟩
        refine ⟨valid, List.all_eq_true.mpr fun character member => ?_⟩
        exact beq_iff_eq.mpr (lower character member))

/-- What a header gives is brought to lower case before it is checked. -/
theorem isWireId_of_valid {width : Nat} {digits : List Char}
    (valid : isValidId width (digits.map Char.toLower) = true) :
    IsWireId width (String.ofList (digits.map Char.toLower)) := by
  constructor
  · rwa [String.toList_ofList]
  · rw [String.toList_ofList]
    intro character member
    obtain ⟨digit, _, rfl⟩ := List.mem_map.mp member
    exact Text.toLower_toLower digit

/-- A normalized id is fit for the wire when the minted one is. -/
theorem normalizeHex_wire {width : Nat} {fallback : String}
    (minted : IsWireId width fallback) (value : String) :
    IsWireId width (normalizeHex width fallback (isValidId width) value) := by
  let digits := value.toList.filter Text.isAsciiHexdigit
  let cleaned := digits.map Char.toLower
  have lower : ∃ text : List Char, text.map Char.toLower =
      if width ≤ cleaned.length then cleaned.take width
      else List.replicate (width - cleaned.length) '0' ++ cleaned := by
    split
    · exact ⟨digits.take width, List.map_take⟩
    · refine ⟨List.replicate (width - cleaned.length) '0' ++ digits, ?_⟩
      have zero : Char.toLower '0' = '0' := by decide
      rw [List.map_append, List.map_replicate, zero]
  obtain ⟨text, same⟩ := lower
  rw [normalizeHex, ← same]
  split
  · rename_i valid
    exact isWireId_of_valid valid
  · exact minted

theorem parseTraceparent_wire {value : String} {ids : String × String}
    (parsed : parseTraceparent value = some ids) :
    IsWireId 32 ids.1 ∧ IsWireId 16 ids.2 := by
  rw [parseTraceparent] at parsed
  split at parsed
  · dsimp only at parsed
    split at parsed
    · rename_i conditions
      rw [← Option.some.inj parsed]
      exact ⟨isWireId_of_valid conditions.2.2.1,
        isWireId_of_valid conditions.2.2.2.1⟩
    · cases parsed
  · cases parsed

/-- A trace id that is found is fit for the wire. -/
theorem extract_wire {get : String → Option String} {id : String}
    (found : (extract get).traceId = some id) : IsWireId 32 id := by
  rw [extract] at found
  cases parsed : (get TRACEPARENT).bind parseTraceparent with
  | some ids =>
      obtain ⟨value, _, parses⟩ := Option.bind_eq_some_iff.mp parsed
      rw [parsed] at found
      rw [← Option.some.inj found]
      exact (parseTraceparent_wire parses).1
  | none =>
      rw [parsed] at found
      obtain ⟨name, _, read⟩ := List.exists_of_findSome?_eq_some found
      obtain ⟨value, _, kept⟩ := Option.bind_eq_some_iff.mp read
      dsimp only at kept
      split at kept
      · rename_i valid
        rw [← Option.some.inj kept]
        exact isWireId_of_valid valid
      · cases kept

theorem first_ne_empty {names : List String} {get : String → Option String}
    {text : String} (found : first names get = some text) : text ≠ "" := by
  obtain ⟨name, _, read⟩ := List.exists_of_findSome?_eq_some found
  have kept := (Option.filter_eq_some_iff.mp read).2
  simpa using kept

private theorem formatTraceparent_of_wire {traceId spanId : String}
    (fallback : Fallback)
    (trace : IsWireId 32 traceId) (span : IsWireId 16 spanId) :
    formatTraceparent fallback traceId spanId = s!"00-{traceId}-{spanId}-01" := by
  have traceKept : normalizeTraceId fallback.traceId traceId = traceId :=
    trace.normalizeHex _
  have spanKept : normalizeSpanId fallback.spanId spanId = spanId :=
    span.normalizeHex _
  rw [formatTraceparent, traceKept, spanKept]

/-- A context without baggage, injected with a span. -/
theorem inject_of_wire {context : TraceContext} {traceId spanId : String}
    (fallback : Fallback) (traced : context.traceId = some traceId)
    (bare : context.baggage = none) (trace : IsWireId 32 traceId)
    (span : IsWireId 16 spanId) :
    inject fallback context (some spanId) =
      (OUT_TRACE_ID, traceId) :: (TRACEPARENT, s!"00-{traceId}-{spanId}-01") ::
        context.requestId.toList.map fun id => (OUT_REQUEST_ID, id) := by
  have kept : normalizeTraceId fallback.wireTraceId traceId = traceId :=
    trace.normalizeHex _
  rw [inject, traced, bare]
  simp only [kept, formatTraceparent_of_wire fallback trace span]
  cases context.requestId <;> rfl

/-- The W3C header reads back. -/
theorem parseTraceparent_format {traceId spanId : String}
    (trace : IsWireId 32 traceId) (span : IsWireId 16 spanId) :
    parseTraceparent s!"00-{traceId}-{spanId}-01" = some (traceId, spanId) := by
  have text : (s!"00-{traceId}-{spanId}-01").toList =
      '0' :: ('0' :: '-' :: traceId.toList ++ '-' :: spanId.toList ++ ['-', '0']) ++
        ['1'] := by
    simp [toString]
  have parts : Text.split '-' (Text.trim (s!"00-{traceId}-{spanId}-01").toList) =
      [['0', '0'], traceId.toList, spanId.toList, ['0', '1']] := by
    rw [text, Text.trim_eq_self (by decide) (by decide)]
    have cut : '0' :: ('0' :: '-' :: traceId.toList ++ '-' :: spanId.toList ++
        ['-', '0']) ++ ['1'] =
        ['0', '0'] ++ '-' :: (traceId.toList ++ '-' :: (spanId.toList ++
          '-' :: ['0', '1'])) := by
      simp
    rw [cut, Text.split_append (by decide), Text.split_append trace.no_hyphen,
      Text.split_append span.no_hyphen, Text.split_of_not_mem (by decide)]
  have traceValid : isValidTraceId traceId.toList = true := trace.valid
  have spanValid : isValidSpanId spanId.toList = true := span.valid
  rw [parseTraceparent, parts]
  simp only [trace.map_toLower, span.map_toLower, traceValid, spanValid,
    String.ofList_toList]
  rfl

end Propagation

end Allstak
