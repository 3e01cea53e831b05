import Allstak.Library.RegexParts

/-!
# Patterns between word boundaries

When a pattern stands between two word boundaries, begins with a word character
and ends its preferred match with one, the parts its matches leave hold no match
that counts: a part does not end with a word character where a match follows.
-/

namespace Library

namespace Pattern

/-- The pattern is a core between two boundaries. -/
structure Enclosed (pattern : Pattern) (word : Char → Bool) (core : Pattern) :
    Prop where
  advances : pattern.Advances
  shape : ∀ cursor, pattern.ends cursor = (delimited word core).ends cursor
  free : core.boundaries = []
  opens : ∀ cursor, ∀ after ∈ core.ends cursor,
    cursor.rest.head?.any word = true
  closes : ∀ cursor after, (pattern.ends cursor).head? = some after →
    after.last.any word = true

theorem find?_filter_of_find? {α : Type} {keep accepts : α → Bool}
    {items : List α} {item : α} (found : items.find? accepts = some item)
    (kept : keep item = true) :
    (items.filter keep).find? accepts = some item := by
  induction items with
  | nil => cases found
  | cons head items induction =>
      rw [List.find?_cons] at found
      cases accepted : accepts head with
      | true =>
          rw [accepted] at found
          cases found
          rw [List.filter_cons_of_pos kept, List.find?_cons, accepted]
      | false =>
          rw [accepted] at found
          rw [List.filter_cons]
          split
          · rw [List.find?_cons, accepted]
            exact induction found
          · exact induction found

theorem exists_mem_of_paired {α : Type} {related : α → α → Prop}
    {inners outers : List α} (paired : List.Forall₂ related inners outers)
    {inner : α} (member : inner ∈ inners) :
    ∃ outer ∈ outers, related inner outer := by
  induction paired with
  | nil => cases member
  | @cons head outer inners outers here later induction =>
      rcases List.mem_cons.mp member with rfl | member
      · exact ⟨outer, List.mem_cons_self, here⟩
      · obtain ⟨found, among, same⟩ := induction member
        exact ⟨found, List.mem_cons_of_mem _ among, same⟩

section Paired

variable {α : Type} {related : α → α → Prop} {inside outside : α → Bool}
  {inners outers : List α} (paired : List.Forall₂ related inners outers)
  (back : ∀ inner ∈ inners, ∀ outer, related inner outer →
    inside inner = true → outside outer = true)

include paired back

theorem find?_eq_none_of_paired (none : outers.find? outside = none) :
    inners.find? inside = .none := by
  rw [List.find?_eq_none] at none ⊢
  induction paired with
  | nil =>
      intro inner member
      cases member
  | @cons inner outer inners outers here later induction =>
      rw [List.forall_mem_cons] at none back ⊢
      exact ⟨fun accepted => none.1 (back.1 outer here accepted),
        induction back.2 none.2⟩

theorem find?_of_paired {outer : α} (found : outers.find? outside = some outer)
    (forth : ∀ inner, related inner outer → inside inner = true) :
    ∃ inner, inners.find? inside = some inner ∧ related inner outer := by
  induction paired with
  | nil => cases found
  | @cons inner head inners outers here later induction =>
      rw [List.forall_mem_cons] at back
      rw [List.find?_cons] at found ⊢
      cases accepted : outside head with
      | true =>
          rw [accepted] at found
          cases found
          rw [forth inner here]
          exact ⟨inner, rfl, here⟩
      | false =>
          have refused : inside inner = false := by
            rw [Bool.eq_false_iff]
            intro accepts
            rw [back.1 head here accepts] at accepted
            cases accepted
          rw [accepted] at found
          rw [refused]
          exact induction back.2 found

end Paired

namespace Enclosed

variable {pattern core : Pattern} {word : Char → Bool}

/-- What follows a part that is not empty is not seen at its start. -/
theorem atBoundary_append {last : Option Char} {part beyond : List Char}
    (some : part ≠ []) :
    atBoundary word ⟨last, part ++ beyond⟩ = atBoundary word ⟨last, part⟩ := by
  cases part with
  | nil => exact absurd rfl some
  | cons head part => rfl

/-- A boundary of the part alone is one of the text, unless the part ends with a
word character and something follows. -/
theorem atBoundary_of_edge {last : Option Char} {part beyond : List Char}
    (edge : beyond = [] ∨ (part.getLast?.or last).any word = false)
    {inner outer : Cursor} (member : inner ∈ core.ends ⟨last, part⟩)
    (rest : outer.rest = inner.rest ++ beyond)
    (same : inner.last.any word = outer.last.any word)
    (boundary : atBoundary word inner = true) :
    atBoundary word outer = true := by
  rw [atBoundary] at boundary
  rw [atBoundary, ← same, rest]
  cases ended : inner.rest with
  | cons head rest =>
      rw [ended] at boundary
      exact boundary
  | nil =>
      rw [ended] at boundary
      rcases edge with rfl | plain
      · exact boundary
      · obtain ⟨text, reads, -⟩ := core.ends_leads member
        have whole : part = text ++ inner.rest := reads.rest
        have reached : inner.last = text.getLast?.or last := reads.last
        rw [whole, ended, List.append_nil, ← reached] at plain
        rw [plain] at boundary
        cases boundary

theorem stops_of_passes {counts : List Char → Bool} {last : Option Char}
    {part beyond : List Char} (passes : pattern.Passes counts last part beyond) :
    beyond = [] ∨ pattern.ends ⟨part.getLast?.or last, beyond⟩ ≠ [] := by
  induction passes with
  | stop stops => exact stops
  | @skip last head part beyond nowhere passes induction =>
      rw [List.getLast?_cons]
      cases ended : part.getLast? with
      | none =>
          rw [ended] at induction
          exact induction
      | some character =>
          rw [ended] at induction
          exact induction
  | @found last after text part beyond first reads other passes induction =>
      rw [List.getLast?_append, Option.or_assoc, ← reads]
      exact induction

variable (enclosed : pattern.Enclosed word core)

include enclosed

theorem mem_ends {cursor after : Cursor} :
    after ∈ pattern.ends cursor ↔
      atBoundary word cursor = true ∧ after ∈ core.ends cursor ∧
        atBoundary word after = true := by
  rw [enclosed.shape, mem_ends_delimited]

theorem head?_ends (cursor : Cursor) :
    (pattern.ends cursor).head? =
      if atBoundary word cursor then
        (core.ends cursor).find? (atBoundary word)
      else none := by
  rw [enclosed.shape, ends_delimited]
  split
  · exact List.head?_filter
  · rfl

/-- Before a match stands no word character. -/
theorem last_of_ends {last : Option Char} {beyond : List Char}
    (matching : pattern.ends ⟨last, beyond⟩ ≠ []) :
    last.any word = false ∧ beyond.head?.any word = true := by
  obtain ⟨after, member⟩ := List.exists_mem_of_ne_nil _ matching
  obtain ⟨starts, inside, -⟩ := enclosed.mem_ends.mp member
  have opens := enclosed.opens _ after inside
  rw [atBoundary, opens] at starts
  exact ⟨by simpa using starts, opens⟩

section Part

variable {last : Option Char} {part beyond : List Char}

theorem core_paired :
    List.Forall₂ (Cursor.Extends Eq beyond) (core.ends ⟨last, part⟩)
      ((core.ends ⟨last, part ++ beyond⟩).filter (Cursor.within beyond)) := by
  have extends_ : Cursor.Extends Eq beyond ⟨last, part⟩ ⟨last, part ++ beyond⟩ :=
    ⟨rfl, rfl⟩
  exact ends_extends (fun _ => rfl) core (by simp [enclosed.free]) extends_

variable (stops : beyond = [] ∨
  pattern.ends ⟨part.getLast?.or last, beyond⟩ ≠ [])

include stops

/-- A word character does not stand at the end of a part that a match
follows. -/
theorem edge_of_stops :
    beyond = [] ∨ (part.getLast?.or last).any word = false :=
  stops.imp_right fun matching => (enclosed.last_of_ends matching).1

theorem atBoundary_of_part {inner outer : Cursor}
    (member : inner ∈ core.ends ⟨last, part⟩)
    (extends_ : inner.Extends Eq beyond outer)
    (boundary : atBoundary word inner = true) :
    atBoundary word outer = true :=
  atBoundary_of_edge (enclosed.edge_of_stops stops) member extends_.rest
    (congrArg (Option.any word) extends_.last) boundary

theorem ends_part_eq_nil (some : part ≠ [])
    (nowhere : pattern.ends ⟨last, part ++ beyond⟩ = []) :
    pattern.ends ⟨last, part⟩ = [] := by
  have outside := enclosed.head?_ends ⟨last, part ++ beyond⟩
  have inside := enclosed.head?_ends ⟨last, part⟩
  rw [nowhere, atBoundary_append some] at outside
  rw [← List.head?_eq_none_iff, inside]
  split
  · rename_i starts
    rw [if_pos starts] at outside
    apply find?_eq_none_of_paired enclosed.core_paired
    · intro inner member outer extends_ boundary
      exact enclosed.atBoundary_of_part stops member extends_ boundary
    · rw [List.find?_eq_none]
      intro outer member
      exact List.find?_eq_none.mp outside.symm outer (List.mem_of_mem_filter member)
  · rfl

theorem head?_ends_part {after : Option Char} {rest : List Char}
    (some_ : part ≠ [])
    (first : (pattern.ends ⟨last, part ++ beyond⟩).head? =
      some ⟨after, rest ++ beyond⟩) :
    (pattern.ends ⟨last, part⟩).head? = some ⟨after, rest⟩ := by
  have closes := enclosed.closes _ _ first
  have outside := enclosed.head?_ends ⟨last, part ++ beyond⟩
  rw [first, atBoundary_append some_] at outside
  rw [enclosed.head?_ends]
  split
  · rename_i starts
    rw [if_pos starts] at outside
    have place : ∀ inner, Cursor.Extends Eq beyond inner
        ⟨after, rest ++ beyond⟩ → inner = ⟨after, rest⟩ := by
      rintro ⟨other, piece⟩ ⟨spelled, reached⟩
      rw [List.append_cancel_right spelled]
      exact congrArg (Cursor.mk · piece) reached
    have kept := find?_filter_of_find? outside.symm
      (show Cursor.within beyond ⟨after, rest ++ beyond⟩ = true by
        rw [Cursor.within, List.length_append]
        exact decide_eq_true (Nat.le_add_left _ _))
    have boundary := List.find?_some outside.symm
    obtain ⟨inner, found, extends_⟩ := find?_of_paired enclosed.core_paired
      (fun inner member outer extends_ boundary =>
        enclosed.atBoundary_of_part stops member extends_ boundary)
      kept
      (by
        intro inner extends_
        rw [place inner extends_]
        cases rest with
        | cons head rest => exact boundary
        | nil =>
            rw [atBoundary, closes]
            rfl)
    rw [found, place inner extends_]
  · rename_i stays
    rw [if_neg stays] at outside
    cases outside

end Part

section Quiet

variable {counts : List Char → Bool} {last : Option Char}
  {part beyond : List Char} (passes : pattern.Passes counts last part beyond)

include passes

/-- On its own, the part is searched as it was in the text. -/
theorem quiet_of_passes {found : List Char}
    (member : Segment.found found ∈ pattern.scan ⟨last, part⟩) :
    counts found = false := by
  induction passes with
  | stop stops =>
      rw [scan_at_end enclosed.advances] at member
      cases member
  | @skip last head part beyond nowhere passes induction =>
      have stops := stops_of_passes (.skip nowhere passes)
      rw [scan_skipped (enclosed.ends_part_eq_nil stops (by simp) nowhere)]
        at member
      rcases List.mem_cons.mp member with same | later
      · cases same
      · exact induction later
  | @found last after text part beyond first reads other passes induction =>
      have stops := stops_of_passes (.found first reads other passes)
      have some : text ++ part ≠ [] := by
        intro none
        have less := enclosed.advances _ _ (List.mem_of_head? first)
        rw [none] at less
        rw [(List.append_eq_nil_iff.mp none).2] at less
        exact absurd less (Nat.lt_irrefl _)
      have alone := enclosed.head?_ends_part stops some first
      rw [scan_found enclosed.advances alone ⟨rfl, reads⟩] at member
      rcases List.mem_cons.mp member with same | later
      · cases same
        exact other
      · exact induction later

end Quiet

/-- No match that counts is found in a part: after a match it begins with no word
character, so nothing is found at its start, whatever stands before it. -/
theorem quiet_of_mem_parts {counts : List Char → Bool}
    {text part found : List Char} (member : part ∈ parts counts pattern text)
    (within : found ∈ pattern.findAll part) : counts found = false := by
  obtain ⟨before, beyond, -, passes, follows⟩ :=
    partAt_of_mem_parts enclosed.advances member
  rw [mem_findAll] at within
  rcases follows with rfl | ⟨start, first⟩
  · exact enclosed.quiet_of_passes passes within
  · cases part with
    | nil =>
        rw [scan_at_end enclosed.advances] at within
        cases within
    | cons head part =>
        have boundary :=
          (enclosed.mem_ends.mp (List.mem_of_head? first)).2.2
        have closes := enclosed.closes _ _ first
        rw [atBoundary, closes] at boundary
        have plain : word head = false := by simpa using boundary
        have nowhere (other : Option Char) :
            pattern.ends ⟨other, head :: part⟩ = [] := by
          by_contra matching
          have opens := (enclosed.last_of_ends matching).2
          rw [List.head?_cons, Option.any_some, plain] at opens
          cases opens
        rw [scan_skipped (nowhere none),
          ← scan_skipped (nowhere before.getLast?)] at within
        exact enclosed.quiet_of_passes passes within

/-- At the start of a part no match of the pattern begins in the middle of a
word. -/
theorem last_of_partAt {counts : List Char → Bool}
    {text part before beyond left rest : List Char}
    (place : pattern.PartAt counts text before part beyond)
    (spelled : left ++ rest = part)
    (starts : left.getLast?.any word = false)
    (opens : rest.head?.any word = true) :
    (before ++ left).getLast?.any word = false := by
  rw [List.getLast?_append]
  cases last : left.getLast? with
  | some character =>
      rw [last] at starts
      exact starts
  | none =>
      obtain rfl := List.getLast?_eq_none_iff.mp last
      rw [List.nil_append] at spelled
      subst spelled
      rw [Option.none_or]
      rcases place.follows with rfl | ⟨start, first⟩
      · rfl
      · have boundary := (enclosed.mem_ends.mp (List.mem_of_head? first)).2.2
        have closes := enclosed.closes _ _ first
        cases rest with
        | nil => cases opens
        | cons head rest =>
            rw [List.head?_cons] at opens
            rw [atBoundary, closes, List.cons_append, List.head?_cons, opens]
              at boundary
            cases boundary

section Cut

variable {other otherCore : Pattern} (cutting : other.Enclosed word otherCore)
  {counts : List Char → Bool} {text part : List Char}

include cutting

/-- A pattern that is found nowhere in a text is found nowhere in its parts. -/
theorem findAll_part_eq_nil (none : pattern.findAll text = [])
    (member : part ∈ parts counts other text) : pattern.findAll part = [] := by
  obtain ⟨before, beyond, place⟩ := partAt_of_mem_parts cutting.advances member
  apply findAll_eq_nil_of_places enclosed.advances
  intro left rest spelled
  by_contra matching
  obtain ⟨starts, opens⟩ := enclosed.last_of_ends matching
  obtain ⟨after, member⟩ := List.exists_mem_of_ne_nil _ matching
  obtain ⟨-, inside, ends⟩ := enclosed.mem_ends.mp member
  have outerStarts := cutting.last_of_partAt place spelled starts opens
  have nowhere := @ends_eq_nil_of_findAll_nil _ enclosed.advances _ none
    (before ++ left) (rest ++ beyond)
    (by rw [← place.spelled, ← spelled]; simp)
  have alike : left.getLast?.any word = (before ++ left).getLast?.any word :=
    starts.trans outerStarts.symm
  have extends_ : Cursor.Extends
      (fun last other => last.any word = other.any word) beyond
      ⟨left.getLast?, rest⟩ ⟨(before ++ left).getLast?, rest ++ beyond⟩ :=
    ⟨rfl, alike⟩
  have paired := @ends_extends (fun last other => last.any word = other.any word)
    beyond (fun _ => rfl) core (by simp [enclosed.free]) _ _ extends_
  obtain ⟨outer, among, reached⟩ := exists_mem_of_paired paired inside
  have edge : beyond = [] ∨
      (rest.getLast?.or left.getLast?).any word = false := by
    have stops := cutting.edge_of_stops (stops_of_passes place.passes)
    rw [← spelled, List.getLast?_append] at stops
    cases last : rest.getLast? with
    | some character =>
        rw [last] at stops
        exact stops
    | none =>
        rw [List.getLast?_eq_none_iff.mp last] at opens
        cases opens
  have outerEnds := atBoundary_of_edge edge inside reached.rest reached.last ends
  have outerOpens : atBoundary word
      ⟨(before ++ left).getLast?, rest ++ beyond⟩ = true := by
    cases rest with
    | nil => cases opens
    | cons head rest =>
        rw [atBoundary, outerStarts, List.cons_append, List.head?_cons]
        rw [List.head?_cons] at opens
        rw [opens]
        rfl
  have found := enclosed.mem_ends.mpr
    ⟨outerOpens, List.mem_of_mem_filter among, outerEnds⟩
  rw [nowhere] at found
  cases found

end Cut

end Enclosed

end Pattern

end Library
