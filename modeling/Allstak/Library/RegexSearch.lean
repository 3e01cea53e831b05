import Allstak.Library.Regex
import Mathlib.Algebra.Order.BigOperators.Group.List
import Mathlib.Algebra.Order.Group.Nat

/-!
# Searching with a pattern

A match reads a stretch of the text, and a pattern that never matches the empty
text advances.  The search with such a pattern is followed cursor by cursor; it
loses no character, so replacing is known from the matches alone.
-/

namespace Library

namespace Cursor

/-- Reading a text leads from one cursor to another. -/
structure Reads (start : Cursor) (text : List Char) (stop : Cursor) : Prop where
  rest : start.rest = text ++ stop.rest
  last : stop.last = text.getLast?.or start.last

theorem Reads.refl (cursor : Cursor) : cursor.Reads [] cursor :=
  ⟨rfl, rfl⟩

theorem Reads.head (last : Option Char) (head : Char) (rest : List Char) :
    Reads ⟨last, head :: rest⟩ [head] ⟨some head, rest⟩ :=
  ⟨rfl, rfl⟩

theorem Reads.trans {start middle stop : Cursor} {first second : List Char}
    (before : start.Reads first middle) (after : middle.Reads second stop) :
    start.Reads (first ++ second) stop where
  rest := by rw [before.rest, after.rest, List.append_assoc]
  last := by
    rw [after.last, before.last, List.getLast?_append, Option.or_assoc]

theorem Reads.length {start stop : Cursor} {text : List Char}
    (reads : start.Reads text stop) :
    start.rest.length = text.length + stop.rest.length := by
  rw [reads.rest, List.length_append]

/-- The text read is what the search reports as the match. -/
theorem Reads.take {start stop : Cursor} {text : List Char}
    (reads : start.Reads text stop) :
    start.rest.take (start.rest.length - stop.rest.length) = text := by
  rw [reads.length, Nat.add_sub_cancel, reads.rest, List.take_left]

/-- Reading a text of admitted characters leads from one cursor to another. -/
def Leads (admitted : Char → Bool) (start stop : Cursor) : Prop :=
  ∃ text, start.Reads text stop ∧
    ∀ character ∈ text, admitted character = true

theorem Leads.refl (admitted : Char → Bool) (cursor : Cursor) :
    cursor.Leads admitted cursor :=
  ⟨[], .refl cursor, by simp⟩

theorem Leads.trans {admitted : Char → Bool} {start middle stop : Cursor}
    (before : start.Leads admitted middle) (after : middle.Leads admitted stop) :
    start.Leads admitted stop := by
  obtain ⟨first, readsFirst, admitsFirst⟩ := before
  obtain ⟨second, readsSecond, admitsSecond⟩ := after
  refine ⟨first ++ second, readsFirst.trans readsSecond, ?_⟩
  intro character member
  rcases List.mem_append.mp member with left | right
  · exact admitsFirst character left
  · exact admitsSecond character right

theorem Leads.mono {admitted wider : Char → Bool} {start stop : Cursor}
    (leads : start.Leads admitted stop)
    (sub : ∀ character, admitted character = true → wider character = true) :
    start.Leads wider stop := by
  obtain ⟨text, reads, admits⟩ := leads
  exact ⟨text, reads, fun character member => sub _ (admits character member)⟩

theorem Leads.length_le {admitted : Char → Bool} {start stop : Cursor}
    (leads : start.Leads admitted stop) :
    stop.rest.length ≤ start.rest.length := by
  obtain ⟨text, reads, -⟩ := leads
  rw [reads.length]
  exact Nat.le_add_left _ _

end Cursor

namespace Pattern

/-- Whether some character class of the pattern accepts a character. -/
def accepts : Pattern → Char → Bool
  | .char accepts, character => accepts character
  | .boundary _, _ => false
  | .seq first second, character =>
      first.accepts character || second.accepts character
  | .many _ accepts, character => accepts character
  | .times _ pattern, character => pattern.accepts character
  | .upTo _ pattern, character => pattern.accepts character

theorem runEnds_leads {greedy : Bool} {accepts : Char → Bool}
    {last : Option Char} {rest : List Char} {after : Cursor}
    (member : after ∈ runEnds greedy accepts last rest) :
    Cursor.Leads accepts ⟨last, rest⟩ after := by
  induction rest generalizing last with
  | nil =>
      obtain rfl := List.mem_singleton.mp member
      exact .refl accepts _
  | cons head rest induction =>
      rw [runEnds] at member
      cases accepted : accepts head with
      | false =>
          rw [accepted, if_neg (by decide)] at member
          obtain rfl := List.mem_singleton.mp member
          exact .refl accepts _
      | true =>
          have here : Cursor.Leads accepts ⟨last, head :: rest⟩ ⟨some head, rest⟩ :=
            ⟨[head], .head last head rest, by simpa using accepted⟩
          have later (deeper : after ∈ runEnds greedy accepts (some head) rest) :
              Cursor.Leads accepts ⟨last, head :: rest⟩ after :=
            here.trans (induction deeper)
          rw [accepted, if_pos rfl] at member
          cases greedy with
          | true =>
              rcases List.mem_append.mp member with deeper | stays
              · exact later deeper
              · obtain rfl := List.mem_singleton.mp stays
                exact .refl accepts _
          | false =>
              rcases List.mem_cons.mp member with rfl | deeper
              · exact .refl accepts _
              · exact later deeper

section Repetition

variable {admitted : Char → Bool} {ends : Cursor → List Cursor}
  (leads : ∀ cursor, ∀ after ∈ ends cursor, cursor.Leads admitted after)

include leads

theorem timesEnds_leads (count : Nat) {cursor after : Cursor}
    (member : after ∈ timesEnds ends count cursor) :
    cursor.Leads admitted after := by
  induction count generalizing cursor with
  | zero =>
      obtain rfl := List.mem_singleton.mp member
      exact .refl admitted _
  | succ count induction =>
      obtain ⟨middle, first, later⟩ := List.mem_flatMap.mp member
      exact (leads cursor middle first).trans (induction later)

theorem upToEnds_leads (extra : Nat) {cursor after : Cursor}
    (member : after ∈ upToEnds ends extra cursor) :
    cursor.Leads admitted after := by
  induction extra generalizing cursor with
  | zero =>
      obtain rfl := List.mem_singleton.mp member
      exact .refl admitted _
  | succ extra induction =>
      rcases List.mem_append.mp member with more | stays
      · obtain ⟨middle, first, later⟩ := List.mem_flatMap.mp more
        exact (leads cursor middle first).trans (induction later)
      · obtain rfl := List.mem_singleton.mp stays
        exact .refl admitted _

end Repetition

theorem mem_ends_char {accepts : Char → Bool} {cursor after : Cursor}
    (member : after ∈ (char accepts).ends cursor) :
    ∃ last head rest, cursor = ⟨last, head :: rest⟩ ∧ accepts head = true ∧
      after = ⟨some head, rest⟩ := by
  obtain ⟨last, rest⟩ := cursor
  cases rest with
  | nil => cases member
  | cons head rest =>
      rw [ends] at member
      cases accepted : accepts head with
      | false => simp [accepted] at member
      | true =>
          have equal : after = ⟨some head, rest⟩ := by
            simpa [accepted] using member
          exact ⟨last, head, rest, rfl, accepted, equal⟩

/-- A match reads characters its pattern accepts. -/
theorem ends_leads (pattern : Pattern) {cursor after : Cursor}
    (member : after ∈ pattern.ends cursor) :
    cursor.Leads pattern.accepts after := by
  induction pattern generalizing cursor after with
  | char accepts =>
      obtain ⟨last, head, rest, rfl, accepted, rfl⟩ := mem_ends_char member
      refine ⟨[head], .head last head rest, ?_⟩
      intro character member
      rw [List.mem_singleton.mp member]
      exact accepted
  | boundary word =>
      rw [ends] at member
      split at member
      · obtain rfl := List.mem_singleton.mp member
        exact .refl _ _
      · cases member
  | seq first second firstLeads secondLeads =>
      obtain ⟨middle, early, late⟩ := List.mem_flatMap.mp member
      have before : cursor.Leads (seq first second).accepts middle :=
        (firstLeads early).mono (by simp +contextual [accepts])
      have later : middle.Leads (seq first second).accepts after :=
        (secondLeads late).mono (by simp +contextual [accepts])
      exact before.trans later
  | many greedy accepts => exact runEnds_leads member
  | times count pattern induction =>
      exact timesEnds_leads (fun _ _ => induction) count member
  | upTo extra pattern induction =>
      exact upToEnds_leads (fun _ _ => induction) extra member

theorem mem_ends_seq {first second : Pattern} {cursor after : Cursor}
    (member : after ∈ (seq first second).ends cursor) :
    ∃ middle, middle ∈ first.ends cursor ∧ after ∈ second.ends middle ∧
      middle.rest <:+ cursor.rest := by
  obtain ⟨middle, early, late⟩ := List.mem_flatMap.mp member
  obtain ⟨text, reads, -⟩ := first.ends_leads early
  exact ⟨middle, early, late, text, reads.rest.symm⟩

/-- No match is empty. -/
def Advances (pattern : Pattern) : Prop :=
  ∀ cursor, ∀ after ∈ pattern.ends cursor,
    after.rest.length < cursor.rest.length

theorem advances_char (accepts : Char → Bool) : (char accepts).Advances := by
  intro cursor after member
  obtain ⟨last, head, rest, rfl, -, rfl⟩ := mem_ends_char member
  exact Nat.lt_succ_self _

theorem Advances.seq_left {first : Pattern} (advances : first.Advances)
    (second : Pattern) : (seq first second).Advances := by
  intro cursor after member
  obtain ⟨middle, early, late⟩ := List.mem_flatMap.mp member
  exact Nat.lt_of_le_of_lt (second.ends_leads late).length_le
    (advances cursor middle early)

theorem Advances.seq_right {second : Pattern} (advances : second.Advances)
    (first : Pattern) : (seq first second).Advances := by
  intro cursor after member
  obtain ⟨middle, early, late⟩ := List.mem_flatMap.mp member
  exact Nat.lt_of_lt_of_le (advances middle after late)
    (first.ends_leads early).length_le

theorem Advances.times {pattern : Pattern} (advances : pattern.Advances)
    (count : Nat) : (times (count + 1) pattern).Advances := by
  intro cursor after member
  obtain ⟨middle, early, late⟩ := List.mem_flatMap.mp member
  have later := timesEnds_leads (fun _ _ => pattern.ends_leads) count late
  exact Nat.lt_of_le_of_lt later.length_le (advances cursor middle early)

def delimited (word : Char → Bool) (core : Pattern) : Pattern :=
  .seq (.boundary word) (.seq core (.boundary word))

theorem ends_delimited (word : Char → Bool) (core : Pattern) (cursor : Cursor) :
    (delimited word core).ends cursor =
      if atBoundary word cursor then (core.ends cursor).filter (atBoundary word)
      else [] := by
  have last (cursors : List Cursor) :
      cursors.flatMap (boundary word).ends = cursors.filter (atBoundary word) := by
    induction cursors with
    | nil => rfl
    | cons cursor cursors induction =>
        rw [List.flatMap_cons, induction, ends, List.filter_cons]
        split <;> rfl
  rw [delimited, ends, ends]
  split
  · rw [List.flatMap_cons, List.flatMap_nil, List.append_nil, ends, last]
  · rfl

theorem mem_ends_delimited {word : Char → Bool} {core : Pattern}
    {cursor after : Cursor} :
    after ∈ (delimited word core).ends cursor ↔
      atBoundary word cursor = true ∧ after ∈ core.ends cursor ∧
        atBoundary word after = true := by
  rw [ends_delimited]
  cases starts : atBoundary word cursor <;> simp [List.mem_filter]

/-- What a segment covers. -/
def Segment.text : Segment → List Char
  | .skipped character => [character]
  | .found text => text

/-- The search from a cursor on. -/
def scan (pattern : Pattern) (cursor : Cursor) : List Segment :=
  pattern.segments (cursor.rest.length + 1) cursor

theorem search_eq_scan (pattern : Pattern) (text : List Char) :
    pattern.search text = pattern.scan ⟨none, text⟩ := rfl

theorem scan_skipped {pattern : Pattern} {last : Option Char} {head : Char}
    {rest : List Char}
    (nowhere : pattern.ends ⟨last, head :: rest⟩ = []) :
    pattern.scan ⟨last, head :: rest⟩ =
      .skipped head :: pattern.scan ⟨some head, rest⟩ := by
  rw [scan, segments, nowhere]
  rfl

section Scan

variable {pattern : Pattern} (advances : pattern.Advances)

include advances

theorem ends_at_end (last : Option Char) : pattern.ends ⟨last, []⟩ = [] := by
  cases ends : pattern.ends ⟨last, []⟩ with
  | nil => rfl
  | cons after more =>
      have less := advances ⟨last, []⟩ after (by simp [ends])
      exact absurd less (Nat.not_lt_zero _)

/-- More fuel than characters makes no difference. -/
theorem segments_eq_segments {fuel other : Nat} {cursor : Cursor}
    (enough : cursor.rest.length < fuel)
    (enoughToo : cursor.rest.length < other) :
    pattern.segments fuel cursor = pattern.segments other cursor := by
  induction fuel generalizing other cursor with
  | zero => exact absurd enough (Nat.not_lt_zero _)
  | succ fuel induction =>
      cases other with
      | zero => exact absurd enoughToo (Nat.not_lt_zero _)
      | succ other =>
          rw [segments, segments]
          cases ends : pattern.ends cursor with
          | cons after more =>
              have less := advances cursor after (by simp [ends])
              have same := @induction other after (by omega) (by omega)
              simp only [same]
          | nil =>
              obtain ⟨last, rest⟩ := cursor
              cases rest with
              | nil => rfl
              | cons head rest =>
                  rw [List.length_cons] at enough enoughToo
                  have same := @induction other ⟨some head, rest⟩
                    (by simp only; omega) (by simp only; omega)
                  simp only [same]

theorem scan_found {cursor after : Cursor} {text : List Char}
    (first : (pattern.ends cursor).head? = some after)
    (reads : cursor.Reads text after) :
    pattern.scan cursor = .found text :: pattern.scan after := by
  obtain ⟨more, ends⟩ := List.head?_eq_some_iff.mp first
  have less := advances cursor after (by simp [ends])
  rw [scan, segments, ends]
  simp only [reads.take, scan]
  rw [segments_eq_segments advances less (Nat.lt_succ_self _)]

theorem scan_at_end (last : Option Char) : pattern.scan ⟨last, []⟩ = [] := by
  rw [scan, segments, ends_at_end advances]

/-- A fact about a search follows the places it stops at. -/
theorem scan_induction {motive : Cursor → List Segment → Prop}
    (stop : ∀ last, motive ⟨last, []⟩ [])
    (skip : ∀ last head rest, pattern.ends ⟨last, head :: rest⟩ = [] →
      motive ⟨some head, rest⟩ (pattern.scan ⟨some head, rest⟩) →
        motive ⟨last, head :: rest⟩
          (.skipped head :: pattern.scan ⟨some head, rest⟩))
    (found : ∀ cursor text after, (pattern.ends cursor).head? = some after →
      cursor.Reads text after →
        motive after (pattern.scan after) →
          motive cursor (.found text :: pattern.scan after))
    (cursor : Cursor) : motive cursor (pattern.scan cursor) := by
  induction length : cursor.rest.length using Nat.strongRecOn
    generalizing cursor with
  | ind size induction =>
      cases ends : pattern.ends cursor with
      | cons after more =>
          have member : after ∈ pattern.ends cursor := by simp [ends]
          obtain ⟨text, reads, -⟩ := pattern.ends_leads member
          have first : (pattern.ends cursor).head? = some after := by
            rw [ends, List.head?_cons]
          have less := advances cursor after member
          rw [scan_found advances first reads]
          exact found cursor text after first reads
            (induction _ (length ▸ less) after rfl)
      | nil =>
          obtain ⟨last, rest⟩ := cursor
          cases rest with
          | nil =>
              rw [scan_at_end advances]
              exact stop last
          | cons head rest =>
              have less : rest.length < size := by
                rw [← length]
                exact Nat.lt_succ_self _
              rw [scan_skipped ends]
              exact skip last head rest ends (induction _ less ⟨some head, rest⟩ rfl)

/-- Nothing is found where the pattern matches at no place of the text. -/
theorem findAll_eq_nil_of_places {text : List Char}
    (nowhere : ∀ before rest, before ++ rest = text →
      pattern.ends ⟨before.getLast?, rest⟩ = []) :
    pattern.findAll text = [] := by
  have skips := scan_induction advances
    (motive := fun cursor segments =>
      ∀ before, before ++ cursor.rest = text → before.getLast? = cursor.last →
        ∀ found, Segment.found found ∉ segments)
    (by
      intro last before _ _ found member
      cases member)
    (by
      intro last head rest _ later before spells _ found member
      rcases List.mem_cons.mp member with same | member
      · cases same
      · apply later (before ++ [head]) _ _ found member
        · rw [← spells, List.append_assoc]
          rfl
        · rw [List.getLast?_concat])
    (by
      intro cursor here after first _ _ before spells previous
      have none := nowhere before cursor.rest spells
      rw [previous] at none
      rw [none] at first
      cases first)
    ⟨none, text⟩
  rw [findAll, search_eq_scan, List.filterMap_eq_nil_iff]
  intro segment member
  cases segment with
  | skipped character => rfl
  | found found => exact absurd member (skips [] rfl rfl found)

/-- Where nothing is found the pattern matches at no place of the text. -/
theorem ends_eq_nil_of_findAll_nil {text : List Char}
    (none : pattern.findAll text = []) {before rest : List Char}
    (spelled : before ++ rest = text) :
    pattern.ends ⟨before.getLast?, rest⟩ = [] := by
  have along := scan_induction advances
    (motive := fun cursor segments =>
      (∀ found, Segment.found found ∉ segments) →
        ∀ before rest, before ++ rest = cursor.rest →
          pattern.ends ⟨before.getLast?.or cursor.last, rest⟩ = [])
    (by
      intro last _ before rest spelled
      obtain ⟨rfl, rfl⟩ := List.append_eq_nil_iff.mp spelled
      exact ends_at_end advances _)
    (by
      intro last head tail nowhere later skips before rest spelled
      have skipsLater : ∀ found,
          Segment.found found ∉ pattern.scan ⟨some head, tail⟩ :=
        fun found member => skips found (List.mem_cons_of_mem _ member)
      cases before with
      | nil =>
          rw [List.nil_append] at spelled
          rw [spelled]
          exact nowhere
      | cons first before =>
          rw [List.cons_append, List.cons.injEq] at spelled
          have here := later skipsLater before rest spelled.2
          rw [← spelled.1] at here
          rw [List.getLast?_cons]
          cases last' : before.getLast? with
          | none =>
              rw [last'] at here
              exact here
          | some character =>
              rw [last'] at here
              exact here)
    (by
      intro cursor found after _ _ _ skips
      exact absurd List.mem_cons_self (skips found))
    ⟨.none, text⟩
  have skips : ∀ found, Segment.found found ∉ pattern.scan ⟨.none, text⟩ := by
    rw [findAll, search_eq_scan, List.filterMap_eq_nil_iff] at none
    intro found member
    have lost := none _ member
    cases lost
  have here := along skips before rest spelled
  rw [Option.or_none] at here
  exact here

/-- The segments spell the text. -/
theorem scan_text (cursor : Cursor) :
    (pattern.scan cursor).flatMap Segment.text = cursor.rest := by
  apply scan_induction advances
    (motive := fun cursor segments => segments.flatMap Segment.text = cursor.rest)
  · intro last
    rfl
  · intro last head rest _ spells
    rw [List.flatMap_cons, spells]
    rfl
  · intro cursor text after _ reads spells
    rw [List.flatMap_cons, spells, reads.rest]
    rfl

end Scan

theorem mem_findAll {pattern : Pattern} {text found : List Char} :
    found ∈ pattern.findAll text ↔
      Segment.found found ∈ pattern.scan ⟨none, text⟩ := by
  rw [findAll, search_eq_scan, List.mem_filterMap]
  constructor
  · rintro ⟨segment, member, same⟩
    cases segment with
    | skipped character => cases same
    | found text =>
        cases same
        exact member
  · intro member
    exact ⟨_, member, rfl⟩

theorem isMatch_iff {pattern : Pattern} {text : List Char} :
    pattern.isMatch text = true ↔ ∃ found, found ∈ pattern.findAll text := by
  rw [isMatch, Bool.not_eq_true', List.isEmpty_eq_false_iff_exists_mem]

/-- What stands for a segment after a replacement. -/
def Segment.replaced (replacement : List Char → List Char) : Segment → List Char
  | .skipped character => [character]
  | .found text => replacement text

theorem replaceAll_eq (pattern : Pattern) (replacement : List Char → List Char)
    (text : List Char) :
    pattern.replaceAll replacement text =
      (pattern.scan ⟨none, text⟩).flatMap (Segment.replaced replacement) := by
  apply List.flatMap_congr
  intro segment _
  cases segment <;> rfl

section Replace

variable {pattern : Pattern} (advances : pattern.Advances)
  {replacement : List Char → List Char} {text : List Char}

include advances

theorem replaceAll_eq_self
    (keeps : ∀ found ∈ pattern.findAll text, replacement found = found) :
    pattern.replaceAll replacement text = text := by
  have spells := scan_text advances ⟨none, text⟩
  rw [replaceAll_eq]
  refine Eq.trans ?_ spells
  apply List.flatMap_congr
  intro segment member
  cases segment with
  | skipped character => rfl
  | found found => exact keeps found (mem_findAll.mpr member)

theorem accepts_of_mem_findAll {found : List Char}
    (member : found ∈ pattern.findAll text) :
    ∀ character ∈ found, pattern.accepts character = true := by
  have accepted := scan_induction advances
    (motive := fun _ segments => ∀ found, Segment.found found ∈ segments →
      ∀ character ∈ found, pattern.accepts character = true)
    (by
      intro last found none
      cases none)
    (by
      intro last head rest _ later found member
      rcases List.mem_cons.mp member with same | member
      · cases same
      · exact later found member)
    (by
      intro cursor here after first reads later found member
      rcases List.mem_cons.mp member with same | member
      · cases same
        obtain ⟨text, readsText, accepts⟩ :=
          pattern.ends_leads (List.mem_of_head? first)
        have equal : text = here := by
          rw [← readsText.take, reads.take]
        exact equal ▸ accepts
      · exact later found member)
    ⟨none, text⟩
  exact accepted found (mem_findAll.mp member)

/-- What a replacement does to the count of a character no match has. -/
theorem count_text_le_replaced {mark : Char}
    (refuses : pattern.accepts mark = false) :
    ∀ segment ∈ pattern.scan ⟨none, text⟩,
      segment.text.count mark ≤
        (segment.replaced replacement).count mark := by
  intro segment member
  cases segment with
  | skipped character => exact Nat.le_refl _
  | found found =>
      have accepted :=
        accepts_of_mem_findAll advances (mem_findAll.mpr member)
      have absent : mark ∉ found := by
        intro inside
        rw [accepted mark inside] at refuses
        cases refuses
      rw [Segment.text, List.count_eq_zero_of_not_mem absent]
      exact Nat.zero_le _

theorem count_le_replaceAll {mark : Char}
    (refuses : pattern.accepts mark = false) :
    text.count mark ≤ (pattern.replaceAll replacement text).count mark := by
  have spells := scan_text advances ⟨none, text⟩
  calc text.count mark
      = ((pattern.scan ⟨none, text⟩).flatMap Segment.text).count mark := by
        rw [spells]
    _ ≤ (pattern.replaceAll replacement text).count mark := by
        rw [replaceAll_eq, List.count_flatMap, List.count_flatMap]
        exact List.sum_le_sum (count_text_le_replaced advances refuses)

theorem count_lt_replaceAll {mark : Char} {found : List Char}
    (refuses : pattern.accepts mark = false)
    (member : found ∈ pattern.findAll text) (marks : mark ∈ replacement found) :
    text.count mark < (pattern.replaceAll replacement text).count mark := by
  have spells := scan_text advances ⟨none, text⟩
  have absent : mark ∉ found := by
    intro inside
    rw [accepts_of_mem_findAll advances member mark inside] at refuses
    cases refuses
  have more : (Segment.found found).text.count mark <
      ((Segment.found found).replaced replacement).count mark := by
    rw [Segment.text, List.count_eq_zero_of_not_mem absent]
    exact List.count_pos_iff.mpr marks
  calc text.count mark
      = ((pattern.scan ⟨none, text⟩).flatMap Segment.text).count mark := by
        rw [spells]
    _ < (pattern.replaceAll replacement text).count mark := by
        rw [replaceAll_eq, List.count_flatMap, List.count_flatMap]
        exact List.sum_lt_sum _ _ (count_text_le_replaced advances refuses)
          ⟨_, mem_findAll.mp member, more⟩

end Replace

end Pattern

end Library
