import Allstak.Propagation

/-!
# The grammar of the trace headers

What a header has to look like for a trace id or a parent span to be read from
it, said on its text alone.
-/

namespace Allstak

namespace Propagation

open Text (IsBlank)

/-- Hex digits of either case, not all zero. -/
structure IsId (width : Nat) (digits : List Char) : Prop where
  length : digits.length = width
  hex : ∀ digit ∈ digits, Text.isAsciiHexdigit digit = true
  nonzero : ∃ digit ∈ digits, digit ≠ '0'

def lower (digits : List Char) : String :=
  String.ofList (digits.map Char.toLower)

/-- `00-<trace>-<span>-<flags>` between blanks. -/
inductive IsTraceparent (trace span : List Char) (value : String) : Prop
  | mk (before flags after : List Char)
      (text : value.toList = before ++ (['0', '0', '-'] ++ trace ++ '-' :: span ++
        '-' :: flags) ++ after)
      (opening : IsBlank before) (closing : IsBlank after)
      (traceId : IsId 32 trace) (spanId : IsId 16 span)
      (pair : flags.length = 2)
      (flagged : ∀ flag ∈ flags, Text.isAsciiHexdigit flag = true)

/-- A trace id between blanks. -/
inductive IsCustomTrace (trace : List Char) (value : String) : Prop
  | mk (before after : List Char) (text : value.toList = before ++ trace ++ after)
      (opening : IsBlank before) (closing : IsBlank after)
      (traceId : IsId 32 trace)

/-- The trace id of the first header that has one. -/
inductive FirstTrace (get : String → Option String) :
    List String → Option String → Prop
  | none : FirstTrace get [] none
  | here {name : String} {names : List String} {value : String}
      {trace : List Char} (present : get name = some value)
      (custom : IsCustomTrace trace value) :
      FirstTrace get (name :: names) (some (lower trace))
  | there {name : String} {names : List String} {found : Option String}
      (other : ∀ value, get name = some value → ∀ trace,
        ¬ IsCustomTrace trace value)
      (later : FirstTrace get names found) : FirstTrace get (name :: names) found

/-- `A`-`F` go to `a`-`f`, and the letters after them past `f`. -/
theorem isAsciiHexdigit_toLower (character : Char) :
    Text.isAsciiHexdigit character.toLower = Text.isAsciiHexdigit character := by
  unfold Char.toLower
  split
  · rename_i upper
    have low := UInt32.le_iff_toNat_le.mp upper.1
    have high := UInt32.le_iff_toNat_le.mp upper.2
    rw [Bool.eq_iff_iff]
    simp only [Text.isAsciiHexdigit, Char.isDigit, Char.le_def,
      UInt32.le_iff_toNat_le, ge_iff_le, UInt32.toNat_add, Bool.or_eq_true,
      Bool.and_eq_true, decide_eq_true_eq]
    simp at low high ⊢
    omega
  · rfl

theorem toLower_eq_zero (character : Char) :
    character.toLower = '0' ↔ character = '0' := by
  unfold Char.toLower
  split
  · rename_i upper
    have low := UInt32.le_iff_toNat_le.mp upper.1
    have high := UInt32.le_iff_toNat_le.mp upper.2
    simp only [Char.ext_iff, ← UInt32.toNat_inj, UInt32.toNat_add]
    simp at low high ⊢
    omega
  · rfl

/-- What is checked after bringing a text to lower case. -/
theorem isValidId_lower (width : Nat) (digits : List Char) :
    isValidId width (digits.map Char.toLower) = true ↔ IsId width digits := by
  have hex : (digits.map Char.toLower).all Text.isAsciiHexdigit = true ↔
      ∀ digit ∈ digits, Text.isAsciiHexdigit digit = true := by
    rw [List.all_map, List.all_eq_true]
    simp only [Function.comp_apply, isAsciiHexdigit_toLower]
  have zero : (digits.map Char.toLower).all (· == '0') = false ↔
      ∃ digit ∈ digits, digit ≠ '0' := by
    rw [List.all_map, List.all_eq_false]
    simp only [Function.comp_apply, beq_iff_eq, toLower_eq_zero, ne_eq]
  rw [isValidId, Bool.and_eq_true, Bool.and_eq_true, beq_iff_eq, List.length_map,
    hex, Bool.not_eq_true', zero]
  constructor
  · rintro ⟨⟨length, digit⟩, nonzero⟩
    exact ⟨length, digit, nonzero⟩
  · intro id
    exact ⟨⟨id.length, id.hex⟩, id.nonzero⟩

/-- A hex digit is no whitespace. -/
theorem solid_of_hex {character : Char}
    (hex : Text.isAsciiHexdigit character = true) :
    Text.isWhitespace character = false := by
  simp only [Text.isAsciiHexdigit, Char.isDigit, Char.le_def, Bool.or_eq_true,
    Bool.and_eq_true, decide_eq_true_eq, UInt32.le_iff_toNat_le, ge_iff_le] at hex
  simp only [Text.isWhitespace, Bool.or_eq_false_iff, Bool.and_eq_false_iff,
    decide_eq_false_iff_not, beq_eq_false_iff_ne, UInt32.le_iff_toNat_le, ne_eq,
    ← UInt32.toNat_inj]
  simp at hex ⊢
  omega

private theorem hyphen_not_mem {digits : List Char}
    (hex : ∀ digit ∈ digits, Text.isAsciiHexdigit digit = true) :
    '-' ∉ digits := by
  intro member
  exact absurd (hex '-' member) (by decide)

theorem IsId.wire {width : Nat} {digits : List Char} (id : IsId width digits) :
    IsWireId width (lower digits) :=
  isWireId_of_valid ((isValidId_lower width digits).mpr id)

theorem IsCustomTrace.trim {trace : List Char} {value : String}
    (custom : IsCustomTrace trace value) : Text.trim value.toList = trace := by
  obtain ⟨before, after, text, opening, closing, traceId⟩ := custom
  rw [text]
  apply Text.trim_enclosed opening closing
  intro digit member
  exact solid_of_hex (traceId.hex digit member)

theorem IsTraceparent.ids {trace span : List Char} {value : String}
    (header : IsTraceparent trace span value) : IsId 32 trace ∧ IsId 16 span := by
  obtain ⟨_, _, _, _, _, _, traceId, spanId, _, _⟩ := header
  exact ⟨traceId, spanId⟩

/-- The four parts of a header in the grammar. -/
theorem IsTraceparent.split {trace span : List Char} {value : String}
    (header : IsTraceparent trace span value) :
    ∃ flags, flags.length = 2 ∧
      (∀ flag ∈ flags, Text.isAsciiHexdigit flag = true) ∧
      Text.split '-' (Text.trim value.toList) =
        [['0', '0'], trace, span, flags] := by
  obtain ⟨before, flags, after, text, opening, closing, traceId, spanId, pair,
    flagged⟩ := header
  have trimmed : Text.trim value.toList =
      ['0', '0'] ++ '-' :: (trace ++ '-' :: (span ++ '-' :: flags)) := by
    rw [text, Text.trim_enclosed opening closing]
    · simp
    · intro character member
      simp only [List.mem_append, List.mem_cons, List.not_mem_nil,
        or_false] at member
      rcases member with ((zeros | inTrace) | rfl | inSpan) | rfl | inFlags
      · rcases zeros with rfl | rfl | rfl <;> decide
      · exact solid_of_hex (traceId.hex character inTrace)
      · decide
      · exact solid_of_hex (spanId.hex character inSpan)
      · decide
      · exact solid_of_hex (flagged character inFlags)
  refine ⟨flags, pair, flagged, ?_⟩
  rw [trimmed, Text.split_append (by decide),
    Text.split_append (hyphen_not_mem traceId.hex),
    Text.split_append (hyphen_not_mem spanId.hex),
    Text.split_of_not_mem (hyphen_not_mem flagged)]

theorem parseTraceparent_of_grammar {trace span : List Char} {value : String}
    (header : IsTraceparent trace span value) :
    parseTraceparent value = some (lower trace, lower span) := by
  obtain ⟨flags, pair, flagged, parts⟩ := header.split
  obtain ⟨traceId, spanId⟩ := header.ids
  have traceValid : isValidTraceId (trace.map Char.toLower) = true :=
    (isValidId_lower 32 trace).mpr traceId
  have spanValid : isValidSpanId (span.map Char.toLower) = true :=
    (isValidId_lower 16 span).mpr spanId
  rw [parseTraceparent, parts]
  dsimp only
  rw [if_pos ⟨rfl, pair, traceValid, spanValid, List.all_eq_true.mpr flagged⟩]
  rfl

/-- Whatever is parsed is in the grammar. -/
theorem grammar_of_parseTraceparent {value : String} {ids : String × String}
    (parsed : parseTraceparent value = some ids) :
    ∃ trace span, IsTraceparent trace span value ∧
      ids = (lower trace, lower span) := by
  obtain ⟨before, after, opening, closing, text⟩ :=
    Text.exists_blanks value.toList
  have joined := Text.intercalate_split '-' (Text.trim value.toList)
  rw [parseTraceparent] at parsed
  split at parsed
  · rename_i version trace span flags parts
    dsimp only at parsed
    split at parsed
    · rename_i conditions
      obtain ⟨rfl, pair, traceValid, spanValid, flagged⟩ := conditions
      refine ⟨trace, span, ⟨before, flags, after, ?_, opening, closing,
        (isValidId_lower 32 trace).mp traceValid,
        (isValidId_lower 16 span).mp spanValid, pair,
        List.all_eq_true.mp flagged⟩, (Option.some.inj parsed).symm⟩
      rw [parts] at joined
      rw [text, ← joined]
      simp [List.intercalate_cons_cons]
    · cases parsed
  · cases parsed

/-- The custom headers are read in order. -/
theorem firstValidTrace_first (names : List String)
    (get : String → Option String) :
    FirstTrace get names (firstValidTrace names get) := by
  induction names with
  | nil => exact .none
  | cons name names induction =>
      rw [firstValidTrace, List.findSome?_cons]
      cases present : get name with
      | none =>
          apply FirstTrace.there
          · intro value other
            rw [present] at other
            cases other
          · exact induction
      | some value =>
          obtain ⟨before, after, opening, closing, text⟩ :=
            Text.exists_blanks value.toList
          rw [Option.bind_some]
          dsimp only
          by_cases valid : isValidTraceId
              ((Text.trim value.toList).map Char.toLower) = true
          · rw [if_pos valid]
            apply FirstTrace.here present
            exact ⟨before, after, text, opening, closing,
              (isValidId_lower 32 _).mp valid⟩
          · rw [if_neg valid]
            apply FirstTrace.there
            · intro other same trace custom
              rw [present] at same
              rw [Option.some.inj same, custom.trim] at valid
              obtain ⟨_, _, _, _, _, traceId⟩ := custom
              exact valid ((isValidId_lower 32 trace).mpr traceId)
            · exact induction

/-- What is read when the header is in the grammar. -/
theorem extract_of_grammar {get : String → Option String} {value : String}
    {trace span : List Char} (present : get TRACEPARENT = some value)
    (header : IsTraceparent trace span value) :
    (extract get).traceId = some (lower trace) ∧
      (extract get).parentSpanId = some (lower span) := by
  have parsed : (get TRACEPARENT).bind parseTraceparent =
      some (lower trace, lower span) := by
    rw [present]
    exact parseTraceparent_of_grammar header
  constructor
  · rw [extract, parsed]
    rfl
  · rw [extract, parsed]
    rfl

/-- No text of the header is in the grammar. -/
def Untraced (get : String → Option String) : Prop :=
  ∀ value, get TRACEPARENT = some value → ∀ trace span,
    ¬ IsTraceparent trace span value

/-- What is read when there is no such header. -/
theorem extract_of_untraced {get : String → Option String}
    (untraced : Untraced get) :
    (extract get).parentSpanId = none ∧
      FirstTrace get TRACE_ID_HEADERS (extract get).traceId := by
  have unparsed : (get TRACEPARENT).bind parseTraceparent = none := by
    apply Option.eq_none_iff_forall_ne_some.mpr
    intro ids parsed
    obtain ⟨value, present, parses⟩ := Option.bind_eq_some_iff.mp parsed
    obtain ⟨trace, span, header, _⟩ := grammar_of_parseTraceparent parses
    exact untraced value present trace span header
  constructor
  · rw [extract, unparsed]
    rfl
  · rw [extract, unparsed]
    exact firstValidTrace_first TRACE_ID_HEADERS get

/-- A parent span comes with the trace id of the same header. -/
theorem extract_parent {get : String → Option String} {id : String}
    (parent : (extract get).parentSpanId = some id) :
    ∃ value trace span, get TRACEPARENT = some value ∧
      IsTraceparent trace span value ∧ id = lower span ∧
      (extract get).traceId = some (lower trace) := by
  by_cases untraced : Untraced get
  · rw [(extract_of_untraced untraced).1] at parent
    cases parent
  · simp only [Untraced, not_forall, not_not] at untraced
    obtain ⟨value, present, trace, span, header⟩ := untraced
    obtain ⟨traced, parented⟩ := extract_of_grammar present header
    rw [parent] at parented
    exact ⟨value, trace, span, present, header, Option.some.inj parented, traced⟩

/-- Some header has a trace id in the grammar. -/
def Traced (get : String → Option String) : Prop :=
  (∃ value trace span, get TRACEPARENT = some value ∧
      IsTraceparent trace span value) ∨
    ∃ name ∈ TRACE_ID_HEADERS, ∃ value trace, get name = some value ∧
      IsCustomTrace trace value

theorem FirstTrace.exists_iff {get : String → Option String}
    {names : List String} {found : Option String}
    (first : FirstTrace get names found) :
    (∃ id, found = some id) ↔
      ∃ name ∈ names, ∃ value trace, get name = some value ∧
        IsCustomTrace trace value := by
  induction first with
  | none => simp
  | here present custom =>
      apply iff_of_true ⟨_, rfl⟩
      exact ⟨_, List.mem_cons_self, _, _, present, custom⟩
  | there other later induction =>
      rw [induction]
      constructor
      · rintro ⟨name, member, rest⟩
        exact ⟨name, List.mem_cons_of_mem _ member, rest⟩
      · rintro ⟨name, member, value, trace, present, custom⟩
        rcases List.mem_cons.mp member with rfl | later
        · exact absurd custom (other value present trace)
        · exact ⟨name, later, value, trace, present, custom⟩

/-- A trace id is read if and only if there is one. -/
theorem extract_traced_iff (get : String → Option String) :
    (∃ id, (extract get).traceId = some id) ↔ Traced get := by
  by_cases untraced : Untraced get
  · rw [(extract_of_untraced untraced).2.exists_iff, Traced, or_iff_right]
    rintro ⟨value, trace, span, present, header⟩
    exact untraced value present trace span header
  · simp only [Untraced, not_forall, not_not] at untraced
    obtain ⟨value, present, trace, span, header⟩ := untraced
    apply iff_of_true
    · exact ⟨_, (extract_of_grammar present header).1⟩
    · exact .inl ⟨value, trace, span, present, header⟩

/-- The ids are read from the W3C header where it is in the grammar, else the
trace id from the first custom header that has one.  Every id read is a valid
one in lower case, and a parent comes with its own trace. -/
theorem extract_iff_grammar (get : String → Option String) :
    (∀ value trace span, get TRACEPARENT = some value →
      IsTraceparent trace span value →
        (extract get).traceId = some (lower trace) ∧
          (extract get).parentSpanId = some (lower span)) ∧
      (Untraced get → (extract get).parentSpanId = none ∧
        FirstTrace get TRACE_ID_HEADERS (extract get).traceId) ∧
      (∀ id, (extract get).traceId = some id → IsWireId 32 id) ∧
      ∀ id, (extract get).parentSpanId = some id → IsWireId 16 id ∧
        ∃ value trace span, get TRACEPARENT = some value ∧
          IsTraceparent trace span value ∧ id = lower span ∧
          (extract get).traceId = some (lower trace) := by
  refine ⟨?_, extract_of_untraced, ?_, ?_⟩
  · intro value trace span present header
    exact extract_of_grammar present header
  · intro id traced
    exact extract_wire traced
  · intro id parent
    obtain ⟨value, trace, span, present, header, rfl, traced⟩ :=
      extract_parent parent
    exact ⟨header.ids.2.wire, value, trace, span, present, header, rfl, traced⟩

end Propagation

end Allstak
