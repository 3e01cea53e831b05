import Allstak.Library.RegexContext

/-!
# What replacing matches leaves

The matches that count are replaced by a marker.  Where the marker is inert,
searching the result comes down to searching the parts between the markers.
-/

namespace Library

namespace Pattern

/-- Wherever the marker stands, nothing is found in it, and what is around it is
searched on its own. -/
def Inert (pattern : Pattern) (marker : List Char) : Prop :=
  ∀ before rest, pattern.search (before ++ (marker ++ rest)) =
    pattern.search before ++ (marker.map .skipped ++ pattern.search rest)

theorem segments_of_skips {segments : List Segment}
    (skips : ∀ found, Segment.found found ∉ segments) :
    segments = (segments.flatMap Segment.text).map .skipped := by
  induction segments with
  | nil => rfl
  | cons segment segments induction =>
      cases segment with
      | skipped character =>
          have later : ∀ found, Segment.found found ∉ segments :=
            fun found member => skips found (List.mem_cons_of_mem _ member)
          rw [List.flatMap_cons, List.map_append, ← induction later]
          rfl
      | found found => exact absurd List.mem_cons_self (skips found)

section

variable {pattern : Pattern} (advances : pattern.Advances)

include advances

theorem search_nil : pattern.search [] = [] := scan_at_end advances none

theorem search_of_findAll_nil {text : List Char}
    (none : pattern.findAll text = []) :
    pattern.search text = text.map .skipped := by
  have skips : ∀ found, Segment.found found ∉ pattern.scan ⟨.none, text⟩ := by
    intro found member
    rw [← mem_findAll, none] at member
    cases member
  have spelled := segments_of_skips skips
  rw [scan_text advances] at spelled
  exact spelled

/-- A marker between two refused characters is inert when nothing is found in
it. -/
theorem inert_of_refuses {opening closing : Char} {middle : List Char}
    (opens : pattern.Refuses opening) (closes : pattern.Refuses closing)
    (quiet : pattern.findAll (opening :: middle) = []) :
    pattern.Inert (opening :: middle ++ [closing]) := by
  intro before rest
  have refusedOpening (beyond : List Char) :
      pattern.Refused (opening :: beyond) := by
    intro head same
    cases same
    exact opens
  have refusedClosing : pattern.Refused (closing :: rest) := by
    intro head same
    cases same
    exact closes
  have refusedEnd : pattern.Refused [] := by
    intro head same
    cases same
  have reflexive : pattern.Alike none none := fun _ _ => rfl
  have after : pattern.scan ⟨some closing, rest⟩ = pattern.scan ⟨none, rest⟩ := by
    have same := scan_append advances refusedEnd rest closes.alike_none
    rw [scan_at_end advances, List.append_nil, List.append_nil] at same
    exact same
  have close : pattern.scan ⟨none, closing :: rest⟩ =
      .skipped closing :: pattern.search rest := by
    rw [scan_skipped (ends_refused advances refusedClosing none), after]
    rfl
  have inside : pattern.scan ⟨none, opening :: middle⟩ =
      (opening :: middle).map .skipped :=
    search_of_findAll_nil advances quiet
  calc pattern.search (before ++ (opening :: middle ++ [closing] ++ rest))
      = pattern.search before ++
          pattern.scan ⟨none, opening :: middle ++ closing :: rest⟩ := by
        rw [List.append_assoc]
        exact scan_append advances (refusedOpening _) before reflexive
    _ = pattern.search before ++
          ((opening :: middle).map .skipped ++
            (.skipped closing :: pattern.search rest)) := by
        rw [scan_append advances refusedClosing (opening :: middle) reflexive,
          inside, close]
    _ = _ := by simp

end

/-- Each part after the marker. -/
def marked (marker : List Char) (parts : List (List Char)) : List Char :=
  parts.flatMap fun part => marker ++ part

theorem marked_cons (marker part : List Char) (parts : List (List Char)) :
    marked marker (part :: parts) = marker ++ (part ++ marked marker parts) := by
  rw [marked, List.flatMap_cons, List.append_assoc]
  rfl

section

variable {pattern : Pattern} {marker : List Char}
  (advances : pattern.Advances) (inert : pattern.Inert marker)

include advances inert

theorem search_append_marked (part : List Char)
    (parts : List (List Char)) :
    pattern.search (part ++ marked marker parts) =
      pattern.search part ++ pattern.search (marked marker parts) := by
  cases parts with
  | nil =>
      rw [marked, List.flatMap_nil, List.append_nil, search_nil advances,
        List.append_nil]
  | cons next parts =>
      have alone := inert [] (next ++ marked marker parts)
      rw [List.nil_append, search_nil advances, List.nil_append] at alone
      rw [marked_cons, inert part, alone]

theorem search_marked (parts : List (List Char)) :
    pattern.search (marked marker parts) =
      parts.flatMap fun part => marker.map .skipped ++ pattern.search part := by
  induction parts with
  | nil => exact search_nil advances
  | cons part parts induction =>
      have first := inert [] (part ++ marked marker parts)
      rw [List.nil_append, search_nil advances, List.nil_append,
        search_append_marked advances inert, induction] at first
      rw [marked_cons, List.flatMap_cons, List.append_assoc]
      exact first

/-- What is found in the parts is what is found in the text. -/
theorem findAll_marked (parts : List (List Char)) :
    pattern.findAll (marked marker parts) = parts.flatMap pattern.findAll := by
  rw [findAll, search_marked advances inert, List.filterMap_flatMap]
  apply List.flatMap_congr
  intro part _
  rw [List.filterMap_append, List.filterMap_map, findAll]
  simp

/-- A replacement acts on the parts one by one. -/
theorem replaceAll_marked (replacement : List Char → List Char)
    (parts : List (List Char)) :
    pattern.replaceAll replacement (marked marker parts) =
      marked marker (parts.map (pattern.replaceAll replacement)) := by
  rw [replaceAll, search_marked advances inert, List.flatMap_assoc, marked,
    List.flatMap_map]
  apply List.flatMap_congr
  intro part _
  rw [List.flatMap_append, List.flatMap_map, replaceAll]
  simp

end

section Parts

variable (counts : List Char → Bool)

/-- The text up to the first match that counts, and the texts after each. -/
def splitParts : List Segment → List Char × List (List Char)
  | [] => ([], [])
  | .skipped character :: segments =>
      let (first, later) := splitParts segments
      (character :: first, later)
  | .found text :: segments =>
      let (first, later) := splitParts segments
      if counts text then ([], first :: later) else (text ++ first, later)

def partsOf (segments : List Segment) : List (List Char) :=
  (splitParts counts segments).1 :: (splitParts counts segments).2

/-- The parts of a text that lie between the matches that count. -/
def parts (pattern : Pattern) (text : List Char) : List (List Char) :=
  partsOf counts (pattern.search text)

theorem flatMap_replaced (marker : List Char) (segments : List Segment) :
    segments.flatMap (Segment.replaced fun found =>
        if counts found then marker else found) =
      (splitParts counts segments).1 ++
        marked marker (splitParts counts segments).2 := by
  induction segments with
  | nil => rfl
  | cons segment segments induction =>
      rw [List.flatMap_cons, induction]
      cases segment with
      | skipped character => rfl
      | found text =>
          cases counted : counts text with
          | true =>
              simp [Segment.replaced, splitParts, counted, marked_cons]
          | false => simp [Segment.replaced, splitParts, counted]

/-- A text in which nothing is found is one part. -/
theorem parts_of_findAll_nil {pattern : Pattern} (advances : pattern.Advances)
    {text : List Char} (none : pattern.findAll text = []) :
    parts counts pattern text = [text] := by
  have whole : ∀ text : List Char,
      splitParts counts (text.map Segment.skipped) = (text, []) := by
    intro text
    induction text with
    | nil => rfl
    | cons head text induction => rw [List.map_cons, splitParts, induction]
  rw [parts, search_of_findAll_nil advances none, partsOf, whole]

/-- Replacing puts the marker between the parts. -/
theorem replaceAll_eq_marked (pattern : Pattern) (marker text : List Char) :
    marker ++ pattern.replaceAll
        (fun found => if counts found then marker else found) text =
      marked marker (parts counts pattern text) := by
  rw [replaceAll_eq, flatMap_replaced, ← marked_cons]
  rfl

end Parts

section

variable {pattern : Pattern} {marker text : List Char}
  {texts : List (List Char)} (advances : pattern.Advances)
  (inert : pattern.Inert marker) (same : marker ++ text = marked marker texts)

include advances inert same

theorem search_of_marked :
    pattern.search (marked marker texts) =
      marker.map .skipped ++ pattern.search text := by
  have alone := inert [] text
  rw [List.nil_append, search_nil advances, List.nil_append, same] at alone
  exact alone

theorem findAll_of_marked :
    pattern.findAll text = texts.flatMap pattern.findAll := by
  rw [← findAll_marked advances inert, findAll, findAll,
    search_of_marked advances inert same, List.filterMap_append,
    List.filterMap_map]
  simp

/-- A further pass splits the parts further. -/
theorem replaceAll_of_marked (counts : List Char → Bool) :
    marker ++ pattern.replaceAll
        (fun found => if counts found then marker else found) text =
      marked marker (texts.flatMap (parts counts pattern)) := by
  have whole := replaceAll_marked advances inert
    (fun found => if counts found then marker else found) texts
  have front : pattern.replaceAll
        (fun found => if counts found then marker else found)
        (marked marker texts) =
      marker ++ pattern.replaceAll
        (fun found => if counts found then marker else found) text := by
    rw [replaceAll, search_of_marked advances inert same, List.flatMap_append,
      List.flatMap_map, replaceAll]
    simp
  rw [← front, whole, marked, List.flatMap_map, marked, List.flatMap_assoc]
  apply List.flatMap_congr
  intro part _
  exact replaceAll_eq_marked counts pattern marker part

end

/-- The search passes a part without a match that counts, and then stands at
such a match or at the end. -/
inductive Passes (pattern : Pattern) (counts : List Char → Bool) :
    Option Char → List Char → List Char → Prop where
  | stop {last : Option Char} {beyond : List Char}
      (stops : beyond = [] ∨ pattern.ends ⟨last, beyond⟩ ≠ []) :
      Passes pattern counts last [] beyond
  | skip {last : Option Char} {head : Char} {part beyond : List Char}
      (nowhere : pattern.ends ⟨last, head :: part ++ beyond⟩ = [])
      (passes : Passes pattern counts (some head) part beyond) :
      Passes pattern counts last (head :: part) beyond
  | found {last after : Option Char} {text part beyond : List Char}
      (first : (pattern.ends ⟨last, text ++ part ++ beyond⟩).head? =
        some ⟨after, part ++ beyond⟩)
      (reads : after = text.getLast?.or last) (other : counts text = false)
      (passes : Passes pattern counts after part beyond) :
      Passes pattern counts last (text ++ part) beyond

/-- A part stands at the start of the text or after a match. -/
structure PartAt (pattern : Pattern) (counts : List Char → Bool)
    (text before part beyond : List Char) : Prop where
  spelled : before ++ (part ++ beyond) = text
  passes : pattern.Passes counts before.getLast? part beyond
  follows : before = [] ∨ ∃ start,
    (pattern.ends start).head? = some ⟨before.getLast?, part ++ beyond⟩

/-- The part a search begins in starts here, and every later part has its
place in the text. -/
def Located (pattern : Pattern) (counts : List Char → Bool) (text : List Char)
    (cursor : Cursor) (segments : List Segment) : Prop :=
  ∀ before, before ++ cursor.rest = text → before.getLast? = cursor.last →
    (∃ beyond, (splitParts counts segments).1 ++ beyond = cursor.rest ∧
      pattern.Passes counts cursor.last (splitParts counts segments).1 beyond) ∧
    ∀ part ∈ (splitParts counts segments).2, ∃ before beyond,
      pattern.PartAt counts text before part beyond

section Located

variable {pattern : Pattern} {counts : List Char → Bool} {text : List Char}

theorem Located.stop (last : Option Char) :
    pattern.Located counts text ⟨last, []⟩ [] := by
  intro before _ _
  refine ⟨⟨[], rfl, .stop (.inl rfl)⟩, ?_⟩
  intro part member
  cases member

theorem Located.skip {last : Option Char} {head : Char} {rest : List Char}
    {segments : List Segment}
    (nowhere : pattern.ends ⟨last, head :: rest⟩ = [])
    (located : pattern.Located counts text ⟨some head, rest⟩ segments) :
    pattern.Located counts text ⟨last, head :: rest⟩
      (.skipped head :: segments) := by
  intro before whole reached
  have further : before ++ [head] ++ rest = text := by
    rw [← whole, List.append_assoc]
    rfl
  obtain ⟨⟨beyond, spelled, passes⟩, later⟩ :=
    located (before ++ [head]) further List.getLast?_concat
  simp only at spelled passes
  refine ⟨⟨beyond, congrArg (head :: ·) spelled, .skip ?_ passes⟩, later⟩
  rw [List.cons_append, spelled]
  exact nowhere

section Found

variable {cursor after : Cursor} {found : List Char} {segments : List Segment}
  (first : (pattern.ends cursor).head? = some after)
  (reads : cursor.Reads found after)
  (located : pattern.Located counts text after segments)

include first reads located

/-- A match that counts ends the part before it. -/
theorem Located.counted (counted : counts found = true) :
    pattern.Located counts text cursor (.found found :: segments) := by
  intro before whole reached
  have further : before ++ found ++ after.rest = text := by
    rw [← whole, reads.rest, List.append_assoc]
  have place : (before ++ found).getLast? = after.last := by
    rw [List.getLast?_append, reached, reads.last]
  obtain ⟨⟨beyond, spelled, passes⟩, later⟩ :=
    located (before ++ found) further place
  simp only [splitParts, counted, if_true]
  constructor
  · refine ⟨cursor.rest, rfl, .stop (.inr ?_)⟩
    intro none
    rw [none] at first
    cases first
  · rw [List.forall_mem_cons]
    refine ⟨⟨before ++ found, beyond, ?_, ?_, .inr ⟨cursor, ?_⟩⟩, later⟩
    · rw [spelled]
      exact further
    · rw [place]
      exact passes
    · rw [first, place, spelled]

/-- Any other match belongs to the part. -/
theorem Located.passedOver (other : counts found = false) :
    pattern.Located counts text cursor (.found found :: segments) := by
  intro before whole reached
  have further : before ++ found ++ after.rest = text := by
    rw [← whole, reads.rest, List.append_assoc]
  have place : (before ++ found).getLast? = after.last := by
    rw [List.getLast?_append, reached, reads.last]
  obtain ⟨⟨beyond, spelled, passes⟩, later⟩ :=
    located (before ++ found) further place
  have covers : found ++ (splitParts counts segments).1 ++ beyond =
      cursor.rest := by
    rw [List.append_assoc, spelled, reads.rest]
  simp only [splitParts, other, Bool.false_eq_true, if_false]
  refine ⟨⟨beyond, covers, .found ?_ reads.last other passes⟩, later⟩
  rw [covers, spelled]
  exact first

end Found

theorem located_scan (advances : pattern.Advances) (cursor : Cursor) :
    pattern.Located counts text cursor (pattern.scan cursor) := by
  apply scan_induction advances
  · exact Located.stop
  · intro last head rest nowhere located
    exact located.skip nowhere
  · intro cursor found after first reads located
    cases counted : counts found with
    | true => exact located.counted first reads counted
    | false => exact located.passedOver first reads counted

theorem partAt_of_mem_parts (advances : pattern.Advances) {part : List Char}
    (member : part ∈ parts counts pattern text) :
    ∃ before beyond, pattern.PartAt counts text before part beyond := by
  obtain ⟨⟨beyond, spelled, passes⟩, later⟩ :=
    @located_scan pattern counts text advances ⟨none, text⟩ [] rfl rfl
  rcases List.mem_cons.mp member with rfl | member
  · exact ⟨[], beyond, spelled, passes, .inl rfl⟩
  · exact later part member

end Located

theorem PartAt.isInfix {pattern : Pattern} {counts : List Char → Bool}
    {text before part beyond : List Char}
    (place : pattern.PartAt counts text before part beyond) : part <:+: text :=
  ⟨before, beyond, by rw [← place.spelled, List.append_assoc]⟩

/-- Where every match counts, the search misses the pattern at every place of a
part. -/
theorem Passes.missed {pattern : Pattern} {last : Option Char}
    {part beyond : List Char}
    (passes : pattern.Passes (fun _ => true) last part beyond)
    {before rest : List Char} (spelled : before ++ rest = part)
    (some : rest ≠ []) : ∃ last, pattern.ends ⟨last, rest ++ beyond⟩ = [] := by
  induction passes generalizing before with
  | stop stops =>
      exact absurd (List.append_eq_nil_iff.mp spelled).2 some
  | @skip last head part beyond nowhere passes induction =>
      cases before with
      | nil =>
          rw [List.nil_append] at spelled
          rw [spelled]
          exact ⟨last, nowhere⟩
      | cons first before =>
          rw [List.cons_append, List.cons.injEq] at spelled
          exact induction spelled.2
  | found first reads other passes induction => cases other

theorem findAll_eq_nil_of_mem_parts {pattern : Pattern}
    (advances : pattern.Advances) (free : pattern.boundaries = [])
    {text part piece : List Char}
    (member : part ∈ parts (fun _ => true) pattern text)
    (within : piece <:+: part) : pattern.findAll piece = [] := by
  obtain ⟨_, beyond, -, passes, -⟩ := partAt_of_mem_parts advances member
  obtain ⟨left, right, spelled⟩ := within
  apply findAll_eq_nil
  rintro cursor ⟨before, rfl⟩
  by_contra matching
  have some : cursor.rest ≠ [] := by
    intro none
    apply matching
    have place : cursor = ⟨cursor.last, []⟩ := by rw [← none]
    rw [place, ends_at_end advances]
  obtain ⟨other, nowhere⟩ := @Passes.missed _ _ _ _ passes (left ++ before)
    (cursor.rest ++ right) (by rw [← spelled]; simp) (by simp [some])
  rw [List.append_assoc] at nowhere
  exact ends_ne_nil_of_part free matching nowhere

theorem findAll_eq_nil_of_isInfix {pattern : Pattern}
    (advances : pattern.Advances) (free : pattern.boundaries = [])
    {text piece : List Char} (none : pattern.findAll text = [])
    (within : piece <:+: text) : pattern.findAll piece = [] := by
  obtain ⟨left, right, spelled⟩ := within
  apply findAll_eq_nil
  rintro cursor ⟨before, rfl⟩
  by_contra matching
  have nowhere := @ends_eq_nil_of_findAll_nil _ advances _ none (left ++ before)
    (cursor.rest ++ right) (by rw [← spelled]; simp)
  exact ends_ne_nil_of_part free matching nowhere

end Pattern

end Library
