import Allstak.HeaderGrammar
import Allstak.TraceChain

/-!
# Stamped headers, read back

The outbound headers are stamped on a map that may carry trace headers already.
The service they reach reads the W3C header first, so a header of that name that
was there before and is not overwritten decides what is found.
-/

namespace Allstak

namespace Stamping

open Propagation (IsWireId Fallback normalizeTraceId normalizeSpanId)
open TraceChain (found)

/-- Set the headers of a context, with the span that becomes the parent. -/
def stamp (values : HeaderValues) (fallback : Fallback) (context : TraceContext)
    (span : Option String) (headers : Headers) : Headers :=
  (Propagation.inject fallback context span).foldl (insertHeader values) headers

/-- The ids minted for the wire are valid. -/
structure Minted (fallback : Fallback) : Prop where
  wireTraceId : IsWireId 32 fallback.wireTraceId
  traceId : IsWireId 32 fallback.traceId
  spanId : IsWireId 16 fallback.spanId

/-- The stamped headers agree on a trace id, and it is found again, with its
parent. -/
structure ReadsBack (traceId : String) (parent : Option String)
    (stamped : Headers) : Prop where
  traceHeader : stamped "x-allstak-trace-id" = some (some traceId)
  traceparent : ∀ span, parent = some span →
    stamped "traceparent" = some (some s!"00-{traceId}-{span}-01")
  foundTrace : (found stamped).traceId = some traceId
  foundParent : (found stamped).parentSpanId = parent

section

variable {values : HeaderValues} {fallback : Fallback} {context : TraceContext}
  {traceId : String}

/-- The trace headers come first. -/
theorem inject_traced (minted : Minted fallback)
    (traced : context.traceId = some traceId) (span : Option String) :
    ∃ others, (∀ header ∈ others,
        header.1 = Propagation.OUT_REQUEST_ID ∨ header.1 = "baggage") ∧
      Propagation.inject fallback context span =
        (Propagation.OUT_TRACE_ID,
            normalizeTraceId fallback.wireTraceId traceId) ::
          (span.toList.map fun id => (Propagation.TRACEPARENT,
            s!"00-{normalizeTraceId fallback.wireTraceId traceId}-{
              normalizeSpanId fallback.spanId id}-01")) ++ others := by
  have wire : IsWireId 32 (normalizeTraceId fallback.wireTraceId traceId) :=
    Propagation.normalizeHex_wire minted.wireTraceId traceId
  have again : normalizeTraceId fallback.traceId
      (normalizeTraceId fallback.wireTraceId traceId) =
        normalizeTraceId fallback.wireTraceId traceId :=
    wire.normalizeHex _
  refine ⟨Propagation.inject fallback { context with traceId := none } span,
    ?_, ?_⟩
  · intro header member
    simp only [Propagation.inject, List.nil_append] at member
    rcases List.mem_append.mp member with inRequested | inBagged
    · left
      split at inRequested
      · cases inRequested
      · exact congrArg Prod.fst (List.mem_singleton.mp inRequested)
    · right
      split at inBagged
      · cases inBagged
      · split at inBagged
        · exact congrArg Prod.fst (List.mem_singleton.mp inBagged)
        · cases inBagged
  · rw [Propagation.inject, traced]
    cases span with
    | none => rfl
    | some id =>
        simp only [Propagation.formatTraceparent, again]
        rfl

/-- The other headers leave the trace headers alone. -/
theorem insertHeaders_others {others : List (String × String)}
    (named : ∀ header ∈ others,
      header.1 = Propagation.OUT_REQUEST_ID ∨ header.1 = "baggage")
    {name : String} (notRequest : name ≠ "x-allstak-request-id")
    (notBaggage : name ≠ "baggage") (headers : Headers) :
    others.foldl (insertHeader values) headers name = headers name := by
  apply insertHeaders_of_ne
  intro header member
  have baggageName : Text.toAsciiLowercase "baggage" = "baggage" := by decide
  rcases named header member with same | same
  · rwa [same, requestId_name]
  · rwa [same, baggageName]

/-- What the trace headers are after stamping. -/
theorem stamp_traced (keeps : KeepsText values) (minted : Minted fallback)
    (traced : context.traceId = some traceId) (span : Option String)
    (headers : Headers) :
    let stamped := stamp values fallback context span headers
    let wire := normalizeTraceId fallback.wireTraceId traceId
    stamped "x-allstak-trace-id" = some (some wire) ∧
      stamped "traceparent" =
        match span with
        | none => headers "traceparent"
        | some id =>
            some (some s!"00-{wire}-{normalizeSpanId fallback.spanId id}-01") := by
  intro stamped wire
  have trace : IsWireId 32 wire :=
    Propagation.normalizeHex_wire minted.wireTraceId traceId
  obtain ⟨others, named, injected⟩ := inject_traced minted traced span
  have stampedEq : stamped = others.foldl (insertHeader values)
      ((span.toList.map fun id => (Propagation.TRACEPARENT,
        s!"00-{wire}-{normalizeSpanId fallback.spanId id}-01")).foldl
          (insertHeader values)
          (insertHeader values headers (Propagation.OUT_TRACE_ID, wire))) := by
    simp only [stamped, stamp, injected, List.foldl_cons, List.foldl_append]
    rfl
  clear_value stamped wire
  have traceLegal := keeps wire (isHeaderText_of_wire trace)
  have traceSet : insertHeader values headers
      (Propagation.OUT_TRACE_ID, wire) "x-allstak-trace-id" =
        some (some wire) := by
    rw [← traceId_name]
    exact insertHeader_self traceLegal headers
  rw [stampedEq, insertHeaders_others named (by decide) (by decide),
    insertHeaders_others named (by decide) (by decide)]
  cases span with
  | none =>
      refine ⟨traceSet, ?_⟩
      apply insertHeader_of_ne
      rw [traceId_name]
      decide
  | some id =>
      have spanWire : IsWireId 16 (normalizeSpanId fallback.spanId id) :=
        Propagation.normalizeHex_wire minted.spanId id
      have parentLegal := keeps _ (isHeaderText_traceparent trace spanWire)
      constructor
      · rw [← traceSet]
        apply insertHeader_of_ne
        rw [traceparent_name]
        decide
      · rw [← traceparent_name]
        exact insertHeader_self parentLegal _

end

/-- A valid id, read from the first custom header. -/
theorem found_of_untraced {stamped : Headers} {traceId : String}
    (wire : IsWireId 32 traceId)
    (traceHeader : stamped "x-allstak-trace-id" = some (some traceId))
    (untraced : Propagation.Untraced fun name => (stamped name).join) :
    (found stamped).traceId = some traceId ∧
      (found stamped).parentSpanId = none := by
  obtain ⟨orphan, first⟩ := Propagation.extract_of_untraced untraced
  have valid : Propagation.IsId 32 traceId.toList := by
    apply (Propagation.isValidId_lower 32 traceId.toList).mp
    rw [wire.map_toLower]
    exact wire.valid
  have custom : Propagation.IsCustomTrace traceId.toList traceId :=
    ⟨[], [], by simp, by simp [Text.IsBlank], by simp [Text.IsBlank], valid⟩
  have present : (stamped "x-allstak-trace-id").join = some traceId := by
    rw [traceHeader]
    rfl
  refine ⟨?_, orphan⟩
  change Propagation.FirstTrace _ _ (found stamped).traceId at first
  generalize (found stamped).traceId = id at first ⊢
  cases first with
  | @here _ _ value trace same other =>
      rw [present] at same
      rw [← Option.some.inj same] at other
      have digits : trace = traceId.toList := other.trim.symm.trans custom.trim
      rw [digits, Propagation.lower, wire.map_toLower, String.ofList_toList]
  | there other later => exact absurd custom (other traceId present _)

/-- For every map of headers, and every context with a trace id, the stamped
trace is found again with the span for a parent, if and only if a span is given
or no W3C header in the grammar was there before. -/
theorem inject_reads_back_iff {values : HeaderValues} (keeps : KeepsText values)
    {fallback : Fallback} (minted : Minted fallback) {context : TraceContext}
    {traceId : String} (traced : context.traceId = some traceId)
    (span : Option String) (headers : Headers) :
    ReadsBack (normalizeTraceId fallback.wireTraceId traceId)
        (span.map (normalizeSpanId fallback.spanId))
        (stamp values fallback context span headers) ↔
      span.isSome = true ∨
        Propagation.Untraced fun name => (headers name).join := by
  have wire : IsWireId 32 (normalizeTraceId fallback.wireTraceId traceId) :=
    Propagation.normalizeHex_wire minted.wireTraceId traceId
  obtain ⟨traceHeader, traceparent⟩ :=
    stamp_traced keeps minted traced span headers
  cases span with
  | some id =>
      have spanWire : IsWireId 16 (normalizeSpanId fallback.spanId id) :=
        Propagation.normalizeHex_wire minted.spanId id
      refine ⟨fun _ => .inl rfl, fun _ => ?_⟩
      obtain ⟨foundTrace, foundParent⟩ :=
        TraceChain.found_next wire spanWire traceparent
      refine ⟨traceHeader, ?_, foundTrace, foundParent⟩
      intro parent given
      rw [← Option.some.inj given]
      exact traceparent
  | none =>
      have kept : (Propagation.Untraced fun name =>
            (stamp values fallback context none headers name).join) ↔
          Propagation.Untraced fun name => (headers name).join := by
        simp only [Propagation.Untraced, Propagation.TRACEPARENT, traceparent]
      rw [← kept]
      constructor
      · intro back
        right
        intro value present trace parent header
        have orphan : (found
            (stamp values fallback context none headers)).parentSpanId = none :=
          back.foundParent
        have parented : (found
            (stamp values fallback context none headers)).parentSpanId =
              some (Propagation.lower parent) :=
          (Propagation.extract_of_grammar present header).2
        rw [orphan] at parented
        cases parented
      · rintro (given | untraced)
        · cases given
        · obtain ⟨foundTrace, foundParent⟩ :=
            found_of_untraced wire traceHeader untraced
          refine ⟨traceHeader, ?_, foundTrace, foundParent⟩
          rintro _ ⟨⟩

/-- Ids as they are minted. -/
def minting : Fallback :=
  { wireTraceId := "33333333333333333333333333333333"
    traceId := "55555555555555555555555555555555"
    spanId := "4444444444444444" }

private theorem minting_minted : Minted minting := by
  constructor
  · decide
  · decide
  · decide

/-- A short trace id and a span without digits, on a map that carries a trace
from elsewhere. -/
theorem inject_reads_back_edge :
    ReadsBack (normalizeTraceId minting.wireTraceId "42")
        (some (normalizeSpanId minting.spanId "no ids"))
        (stamp TraceChain.headerValue minting { traceId := some "42" }
          (some "no ids") TraceChain.edgeHeaders) ∧
      normalizeTraceId minting.wireTraceId "42" =
        "00000000000000000000000000000042" := by
  refine ⟨?_, by decide⟩
  apply (inject_reads_back_iff TraceChain.headerValue_keepsText minting_minted
    rfl (some "no ids") TraceChain.edgeHeaders).mpr
  exact .inl rfl

/-- Without a span the trace from elsewhere is continued, not the stamped one. -/
theorem leftover_traceparent_outranks :
    let stamped := stamp TraceChain.headerValue minting { traceId := some "42" }
      none TraceChain.edgeHeaders
    stamped "x-allstak-trace-id" =
        some (some "00000000000000000000000000000042") ∧
      (found stamped).traceId = some "0af7651916cd43dd8448eb211c80319c" ∧
      (found stamped).parentSpanId = some "b7ad6b7169203331" ∧
      ¬ ReadsBack (normalizeTraceId minting.wireTraceId "42") none stamped := by
  intro stamped
  have parented : (found stamped).parentSpanId = some "b7ad6b7169203331" := by
    decide
  refine ⟨by decide, by decide, parented, ?_⟩
  intro back
  have orphan := back.foundParent
  rw [parented] at orphan
  cases orphan

end Stamping

end Allstak
