import Allstak.Library.RegexSearch
import Mathlib.Data.List.Forall2

/-!
# Patterns inside a longer text

A part of a text can be searched on its own or where it stands.  Until a match
reads past the part, the places it reaches are the same ones; only a word
boundary can tell the two apart.
-/

namespace Library

namespace Cursor

/-- The same place in a part and in a text in which more follows. -/
structure Extends (alike : Option Char → Option Char → Prop)
    (beyond : List Char) (inner outer : Cursor) : Prop where
  rest : outer.rest = inner.rest ++ beyond
  last : alike inner.last outer.last

/-- Whether a place lies before what is beyond. -/
def within (beyond : List Char) (cursor : Cursor) : Bool :=
  decide (beyond.length ≤ cursor.rest.length)

variable {alike : Option Char → Option Char → Prop} {beyond : List Char}

theorem Extends.within {inner outer : Cursor}
    (extends_ : inner.Extends alike beyond outer) :
    outer.within beyond = true := by
  rw [Cursor.within, extends_.rest, List.length_append]
  exact decide_eq_true (Nat.le_add_left _ _)

/-- The same match reads the same text. -/
theorem Extends.reads {inner outer after reached : Cursor}
    {before : Option Char → Option Char → Prop} {text other : List Char}
    (start : inner.Extends before beyond outer)
    (stop : after.Extends alike beyond reached) (reads : inner.Reads text after)
    (readsOther : outer.Reads other reached) : outer.Reads text reached := by
  have spelled : other ++ (after.rest ++ beyond) =
      text ++ (after.rest ++ beyond) := by
    rw [← stop.rest, ← readsOther.rest, start.rest, reads.rest,
      List.append_assoc, stop.rest]
  rw [← List.append_cancel_right spelled]
  exact readsOther

end Cursor

namespace Pattern

/-- The word classes of the boundaries of a pattern. -/
def boundaries : Pattern → List (Char → Bool)
  | .char _ => []
  | .boundary word => [word]
  | .seq first second => first.boundaries ++ second.boundaries
  | .many _ _ => []
  | .times _ pattern => pattern.boundaries
  | .upTo _ pattern => pattern.boundaries

section Extends

variable {alike : Option Char → Option Char → Prop} {beyond : List Char}

theorem flatMap_extends {admitted : Char → Bool} {ends : Cursor → List Cursor}
    (leads : ∀ cursor, ∀ after ∈ ends cursor, cursor.Leads admitted after)
    (each : ∀ inner outer, Cursor.Extends alike beyond inner outer →
      List.Forall₂ (Cursor.Extends alike beyond) (ends inner)
        ((ends outer).filter (Cursor.within beyond)))
    {inners outers : List Cursor}
    (all : List.Forall₂ (Cursor.Extends alike beyond) inners
      (outers.filter (Cursor.within beyond))) :
    List.Forall₂ (Cursor.Extends alike beyond) (inners.flatMap ends)
      ((outers.flatMap ends).filter (Cursor.within beyond)) := by
  have passed : ∀ outer ∈ outers, outer.within beyond = false →
      (ends outer).filter (Cursor.within beyond) = [] := by
    intro outer _ past
    rw [List.filter_eq_nil_iff]
    intro after member
    have shorter := (leads outer after member).length_le
    simp only [Cursor.within, decide_eq_true_eq, decide_eq_false_iff_not] at past ⊢
    omega
  have dropped : outers.flatMap
        (fun outer => (ends outer).filter (Cursor.within beyond)) =
      (outers.filter (Cursor.within beyond)).flatMap
        (fun outer => (ends outer).filter (Cursor.within beyond)) := by
    clear all
    induction outers with
    | nil => rfl
    | cons outer outers induction =>
        rw [List.forall_mem_cons] at passed
        rw [List.flatMap_cons, induction passed.2, List.filter_cons]
        cases inside : outer.within beyond with
        | true => rw [if_pos rfl, List.flatMap_cons]
        | false => rw [if_neg (by decide), passed.1 inside, List.nil_append]
  rw [List.filter_flatMap, dropped]
  exact List.rel_flatMap all @each

theorem runEnds_within (greedy : Bool) (accepts : Char → Bool)
    (last : Option Char) :
    (runEnds greedy accepts last beyond).filter (Cursor.within beyond) =
      [⟨last, beyond⟩] := by
  have stays : Cursor.within beyond ⟨last, beyond⟩ = true :=
    decide_eq_true (Nat.le_refl _)
  cases beyond with
  | nil => rw [runEnds, List.filter_cons_of_pos stays, List.filter_nil]
  | cons head rest =>
      have passed : (runEnds greedy accepts (some head) rest).filter
          (Cursor.within (head :: rest)) = [] := by
        rw [List.filter_eq_nil_iff]
        intro after member
        have shorter := (runEnds_leads member).length_le
        simp only [Cursor.within, decide_eq_true_eq, List.length_cons] at shorter ⊢
        omega
      rw [runEnds]
      split
      · split
        · rw [List.filter_append, passed, List.nil_append,
            List.filter_cons_of_pos stays, List.filter_nil]
        · rw [List.filter_cons_of_pos stays, passed]
      · rw [List.filter_cons_of_pos stays, List.filter_nil]

theorem extends_singleton {inner outer : Cursor}
    (extends_ : inner.Extends alike beyond outer) :
    List.Forall₂ (Cursor.Extends alike beyond) [inner]
      ([outer].filter (Cursor.within beyond)) := by
  rw [List.filter_cons_of_pos extends_.within, List.filter_nil]
  exact .cons extends_ .nil

section Repetition

variable {admitted : Char → Bool} {ends : Cursor → List Cursor}
  (leads : ∀ cursor, ∀ after ∈ ends cursor, cursor.Leads admitted after)
  (each : ∀ inner outer, Cursor.Extends alike beyond inner outer →
    List.Forall₂ (Cursor.Extends alike beyond) (ends inner)
      ((ends outer).filter (Cursor.within beyond)))

include leads each

theorem timesEnds_extends (count : Nat) {inner outer : Cursor}
    (extends_ : inner.Extends alike beyond outer) :
    List.Forall₂ (Cursor.Extends alike beyond) (timesEnds ends count inner)
      ((timesEnds ends count outer).filter (Cursor.within beyond)) := by
  induction count generalizing inner outer with
  | zero => exact extends_singleton extends_
  | succ count induction =>
      exact flatMap_extends
        (fun _ _ => timesEnds_leads leads count)
        (fun _ _ => induction) (each inner outer extends_)

theorem upToEnds_extends (extra : Nat) {inner outer : Cursor}
    (extends_ : inner.Extends alike beyond outer) :
    List.Forall₂ (Cursor.Extends alike beyond) (upToEnds ends extra inner)
      ((upToEnds ends extra outer).filter (Cursor.within beyond)) := by
  induction extra generalizing inner outer with
  | zero => exact extends_singleton extends_
  | succ extra induction =>
      rw [upToEnds, upToEnds, List.filter_append]
      apply List.rel_append _ (extends_singleton extends_)
      exact flatMap_extends
        (fun _ _ => upToEnds_leads leads extra)
        (fun _ _ => induction) (each inner outer extends_)

end Repetition

variable (refl : ∀ last, alike last last)

include refl

theorem runEnds_extends (greedy : Bool) (accepts : Char → Bool)
    {last other : Option Char} (same : alike last other) (part : List Char) :
    List.Forall₂ (Cursor.Extends alike beyond)
      (runEnds greedy accepts last part)
      ((runEnds greedy accepts other (part ++ beyond)).filter
        (Cursor.within beyond)) := by
  induction part generalizing last other with
  | nil =>
      rw [List.nil_append, runEnds_within, runEnds]
      exact .cons ⟨rfl, same⟩ .nil
  | cons head part induction =>
      have here : Cursor.Extends alike beyond ⟨last, head :: part⟩
          ⟨other, head :: (part ++ beyond)⟩ := ⟨rfl, same⟩
      have later := induction (refl (some head))
      rw [List.cons_append, runEnds, runEnds]
      split
      · split
        · rw [List.filter_append, List.filter_cons_of_pos here.within,
            List.filter_nil]
          exact List.rel_append later (.cons here .nil)
        · rw [List.filter_cons_of_pos here.within]
          exact .cons here later
      · rw [List.filter_cons_of_pos here.within, List.filter_nil]
        exact .cons here .nil

theorem char_extends (accepts : Char → Bool) {inner outer : Cursor}
    (extends_ : inner.Extends alike beyond outer) :
    List.Forall₂ (Cursor.Extends alike beyond) ((char accepts).ends inner)
      (((char accepts).ends outer).filter (Cursor.within beyond)) := by
  obtain ⟨last, part⟩ := inner
  obtain ⟨other, rest⟩ := outer
  obtain ⟨rfl, same⟩ := extends_
  cases part with
  | nil =>
      have passed : ((char accepts).ends ⟨other, beyond⟩).filter
          (Cursor.within beyond) = [] := by
        rw [List.filter_eq_nil_iff]
        intro after member
        have shorter := advances_char accepts _ after member
        simp only [Cursor.within, decide_eq_true_eq]
        exact Nat.not_le_of_lt shorter
      rw [List.nil_append, passed]
      exact .nil
  | cons head part =>
      rw [List.cons_append, ends, ends]
      simp only
      split
      · exact extends_singleton ⟨rfl, refl _⟩
      · exact .nil

/-- Where a pattern may end in a part, and where it may end before what is
beyond, unless a boundary can tell the difference. -/
theorem ends_extends (pattern : Pattern)
    (agree : ∀ word ∈ pattern.boundaries, ∀ inner outer,
      Cursor.Extends alike beyond inner outer →
        atBoundary word inner = atBoundary word outer)
    {inner outer : Cursor} (extends_ : inner.Extends alike beyond outer) :
    List.Forall₂ (Cursor.Extends alike beyond) (pattern.ends inner)
      ((pattern.ends outer).filter (Cursor.within beyond)) := by
  induction pattern generalizing inner outer with
  | char accepts => exact char_extends refl accepts extends_
  | boundary word =>
      rw [ends, ends, agree word List.mem_cons_self inner outer extends_]
      split
      · exact extends_singleton extends_
      · exact .nil
  | seq first second firstExtends secondExtends =>
      rw [boundaries, List.forall_mem_append] at agree
      exact flatMap_extends
        (fun _ _ => second.ends_leads)
        (fun _ _ => secondExtends agree.2) (firstExtends agree.1 extends_)
  | many greedy accepts =>
      obtain ⟨last, part⟩ := inner
      obtain ⟨other, rest⟩ := outer
      obtain ⟨rfl, same⟩ := extends_
      exact runEnds_extends refl greedy accepts same part
  | times count pattern induction =>
      exact timesEnds_extends
        (fun _ _ => pattern.ends_leads)
        (fun _ _ => induction agree) count extends_
  | upTo extra pattern induction =>
      exact upToEnds_extends
        (fun _ _ => pattern.ends_leads)
        (fun _ _ => induction agree) extra extends_

end Extends

/-- A pattern without boundaries matches in a part only where it matches in the
text. -/
theorem ends_ne_nil_of_part {pattern : Pattern} (free : pattern.boundaries = [])
    {last other : Option Char} {part beyond : List Char}
    (matching : pattern.ends ⟨last, part⟩ ≠ []) :
    pattern.ends ⟨other, part ++ beyond⟩ ≠ [] := by
  have extends_ : Cursor.Extends (fun _ _ => True) beyond ⟨last, part⟩
      ⟨other, part ++ beyond⟩ := ⟨rfl, trivial⟩
  have paired := ends_extends (fun _ => trivial) pattern
    (by simp [free]) extends_
  intro none
  rw [none, List.filter_nil, List.forall₂_nil_right_iff] at paired
  exact matching paired

/-- No class of the pattern accepts the character, and for its boundaries it is
no word character. -/
structure Refuses (pattern : Pattern) (character : Char) : Prop where
  accepts : pattern.accepts character = false
  word : ∀ word ∈ pattern.boundaries, word character = false

/-- What begins with a refused character, or is empty. -/
def Refused (pattern : Pattern) (beyond : List Char) : Prop :=
  ∀ head ∈ beyond.head?, pattern.Refuses head

/-- The boundaries of the pattern cannot tell two characters apart. -/
def Alike (pattern : Pattern) (last other : Option Char) : Prop :=
  ∀ word ∈ pattern.boundaries, last.any word = other.any word

theorem Refuses.alike_none {pattern : Pattern} {character : Char}
    (refuses : pattern.Refuses character) :
    pattern.Alike none (some character) :=
  fun word member => (refuses.word word member).symm

/-- No match reads into what the pattern refuses. -/
theorem within_of_refused {pattern : Pattern} {beyond : List Char}
    (refused : pattern.Refused beyond) {outer after : Cursor} {part : List Char}
    (rest : outer.rest = part ++ beyond) (member : after ∈ pattern.ends outer) :
    after.within beyond = true := by
  obtain ⟨text, reads, accepted⟩ := pattern.ends_leads member
  have spelled : part ++ beyond = text ++ after.rest := rest ▸ reads.rest
  rcases List.append_eq_append_iff.mp spelled with
    ⟨read, rfl, beyond_⟩ | ⟨left, -, after_⟩
  · cases read with
    | nil =>
        rw [List.nil_append] at beyond_
        rw [beyond_, Cursor.within, decide_eq_true_eq]
    | cons head read =>
        have refuses := refused head (by rw [beyond_]; rfl)
        have accepts := accepted head (by simp)
        rw [refuses.accepts] at accepts
        cases accepts
  · rw [Cursor.within, after_, List.length_append]
    exact decide_eq_true (Nat.le_add_left _ _)

theorem atBoundary_of_refused {pattern : Pattern} {beyond : List Char}
    (refused : pattern.Refused beyond) {word : Char → Bool}
    (member : word ∈ pattern.boundaries) {inner outer : Cursor}
    (extends_ : inner.Extends pattern.Alike beyond outer) :
    atBoundary word inner = atBoundary word outer := by
  have next : inner.rest.head?.any word = outer.rest.head?.any word := by
    rw [extends_.rest]
    cases inner.rest with
    | cons head rest => rfl
    | nil =>
        cases beyond with
        | nil => rfl
        | cons head rest => exact ((refused head rfl).word word member).symm
  rw [atBoundary, atBoundary, extends_.last word member, next]

theorem ends_of_refused {pattern : Pattern} {beyond : List Char}
    (refused : pattern.Refused beyond) {inner outer : Cursor}
    (extends_ : inner.Extends pattern.Alike beyond outer) :
    List.Forall₂ (Cursor.Extends pattern.Alike beyond) (pattern.ends inner)
      (pattern.ends outer) := by
  have stays : (pattern.ends outer).filter (Cursor.within beyond) =
      pattern.ends outer := by
    rw [List.filter_eq_self]
    intro after member
    exact within_of_refused refused extends_.rest member
  have agree : ∀ word ∈ pattern.boundaries, ∀ inner outer,
      Cursor.Extends pattern.Alike beyond inner outer →
        atBoundary word inner = atBoundary word outer :=
    fun word member inner outer => atBoundary_of_refused refused member
  rw [← stays]
  exact ends_extends (fun _ _ _ => rfl) pattern agree extends_

section Search

variable {pattern : Pattern} (advances : pattern.Advances)

include advances

theorem ends_refused {beyond : List Char} (refused : pattern.Refused beyond)
    (last : Option Char) : pattern.ends ⟨last, beyond⟩ = [] := by
  cases ends : pattern.ends ⟨last, beyond⟩ with
  | nil => rfl
  | cons after more =>
      have member : after ∈ pattern.ends ⟨last, beyond⟩ := by simp [ends]
      have inside := @within_of_refused _ _ refused _ after [] rfl member
      rw [Cursor.within, decide_eq_true_eq] at inside
      exact absurd (advances _ after member) (Nat.not_lt_of_le inside)

/-- What comes before a refused character is searched on its own. -/
theorem scan_append {beyond : List Char} (refused : pattern.Refused beyond)
    (part : List Char) {last other : Option Char}
    (alike : pattern.Alike last other) :
    pattern.scan ⟨other, part ++ beyond⟩ =
      pattern.scan ⟨last, part⟩ ++ pattern.scan ⟨none, beyond⟩ := by
  have along := scan_induction advances
    (motive := fun cursor segments => ∀ other, pattern.Alike cursor.last other →
      pattern.scan ⟨other, cursor.rest ++ beyond⟩ =
        segments ++ pattern.scan ⟨none, beyond⟩)
    (by
      intro last other _
      simp only [List.nil_append]
      cases beyond with
      | nil => rw [scan_at_end advances, scan_at_end advances]
      | cons head rest =>
          rw [scan_skipped (ends_refused advances refused other),
            scan_skipped (ends_refused advances refused none)])
    (by
      intro last head rest nowhere later other alike
      have paired := @ends_of_refused _ _ refused ⟨last, head :: rest⟩
        ⟨other, head :: rest ++ beyond⟩ ⟨rfl, alike⟩
      rw [nowhere, List.forall₂_nil_left_iff] at paired
      simp only [List.cons_append] at paired ⊢
      rw [scan_skipped paired, later (some head) fun _ _ => rfl])
    (by
      intro cursor text after first reads later other alike
      have paired := @ends_of_refused _ _ refused cursor
        ⟨other, cursor.rest ++ beyond⟩ ⟨rfl, alike⟩
      obtain ⟨more, ends⟩ := List.head?_eq_some_iff.mp first
      rw [ends, List.forall₂_cons_left_iff] at paired
      obtain ⟨reached, others, extends_, -, endsOuter⟩ := paired
      have firstOuter : (pattern.ends ⟨other, cursor.rest ++ beyond⟩).head? =
          some reached := by
        rw [endsOuter, List.head?_cons]
      obtain ⟨_, readsOther, -⟩ :=
        pattern.ends_leads (List.mem_of_head? firstOuter)
      have start : cursor.Extends pattern.Alike beyond
          ⟨other, cursor.rest ++ beyond⟩ := ⟨rfl, alike⟩
      have place : reached = ⟨reached.last, after.rest ++ beyond⟩ := by
        rw [← extends_.rest]
      rw [scan_found advances firstOuter
        (start.reads extends_ reads readsOther), List.cons_append, place,
        later reached.last extends_.last])
    ⟨last, part⟩
  exact along other alike

end Search

end Pattern

end Library
