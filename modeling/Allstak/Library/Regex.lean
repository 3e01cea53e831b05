import Mathlib.Data.List.Basic

/-!
# Backtracking patterns with leftmost-first search

A pattern maps a cursor to the cursors at which it may end, in the order in
which a backtracking engine tries them.  The first one is the match at that
cursor, and a search takes the leftmost cursor with a match and goes on after
its end.
-/

namespace Library

/-- A place in a text: the character just before it and what follows. -/
structure Cursor where
  last : Option Char
  rest : List Char

inductive Pattern where
  | char (accepts : Char → Bool)
  | boundary (word : Char → Bool)
  | seq (first second : Pattern)
  | many (greedy : Bool) (accepts : Char → Bool)
  | times (count : Nat) (pattern : Pattern)
  | upTo (extra : Nat) (pattern : Pattern)

namespace Pattern

/-- A word boundary lies between two characters of which exactly one is a
word character; the ends of the text count as no word character. -/
def atBoundary (word : Char → Bool) (cursor : Cursor) : Bool :=
  cursor.last.any word != cursor.rest.head?.any word

/-- The ends of an unbounded repetition of one character class. -/
def runEnds (greedy : Bool) (accepts : Char → Bool) :
    Option Char → List Char → List Cursor
  | last, [] => [⟨last, []⟩]
  | last, head :: rest =>
      if accepts head then
        if greedy then
          runEnds greedy accepts (some head) rest ++ [⟨last, head :: rest⟩]
        else
          ⟨last, head :: rest⟩ :: runEnds greedy accepts (some head) rest
      else
        [⟨last, head :: rest⟩]

/-- The ends of exactly `count` repetitions. -/
def timesEnds (ends : Cursor → List Cursor) : Nat → Cursor → List Cursor
  | 0, cursor => [cursor]
  | count + 1, cursor => (ends cursor).flatMap (timesEnds ends count)

/-- The ends of at most `extra` repetitions, the longest first. -/
def upToEnds (ends : Cursor → List Cursor) : Nat → Cursor → List Cursor
  | 0, cursor => [cursor]
  | extra + 1, cursor => (ends cursor).flatMap (upToEnds ends extra) ++ [cursor]

/-- Where a match starting at a cursor may end, in order of preference. -/
def ends : Pattern → Cursor → List Cursor
  | .char accepts, cursor =>
      match cursor.rest with
      | [] => []
      | head :: rest => if accepts head then [⟨some head, rest⟩] else []
  | .boundary word, cursor => if atBoundary word cursor then [cursor] else []
  | .seq first second, cursor => (first.ends cursor).flatMap second.ends
  | .many greedy accepts, cursor => runEnds greedy accepts cursor.last cursor.rest
  | .times count pattern, cursor => timesEnds pattern.ends count cursor
  | .upTo extra pattern, cursor => upToEnds pattern.ends extra cursor

/-- One character left alone, or one match. -/
inductive Segment where
  | skipped (character : Char)
  | found (text : List Char)

/-- Leftmost-first, non-overlapping search.  The fuel bounds the number of
segments and is at least the length of the remaining text. -/
def segments (pattern : Pattern) : Nat → Cursor → List Segment
  | 0, _ => []
  | fuel + 1, cursor =>
      match pattern.ends cursor with
      | after :: _ =>
          .found (cursor.rest.take (cursor.rest.length - after.rest.length)) ::
            segments pattern fuel after
      | [] =>
          match cursor.rest with
          | [] => []
          | head :: rest =>
              .skipped head :: segments pattern fuel ⟨some head, rest⟩

/-- The segments of a whole text. -/
def search (pattern : Pattern) (text : List Char) : List Segment :=
  pattern.segments (text.length + 1) ⟨none, text⟩

/-- The matches of a whole text, from left to right. -/
def findAll (pattern : Pattern) (text : List Char) : List (List Char) :=
  (pattern.search text).filterMap fun segment =>
    match segment with
    | .skipped _ => none
    | .found found => some found

def isMatch (pattern : Pattern) (text : List Char) : Bool :=
  !(pattern.findAll text).isEmpty

/-- Replace every match by a function of its text. -/
def replaceAll (pattern : Pattern) (replacement : List Char → List Char)
    (text : List Char) : List Char :=
  (pattern.search text).flatMap fun segment =>
    match segment with
    | .skipped character => [character]
    | .found found => replacement found

/-- A pattern that matches at no place of a text is found nowhere in it. -/
theorem findAll_eq_nil {pattern : Pattern} {text : List Char}
    (nowhere : ∀ cursor : Cursor, cursor.rest <:+ text →
      pattern.ends cursor = []) :
    pattern.findAll text = [] := by
  have skips : ∀ fuel cursor, cursor.rest <:+ text →
      ∀ segment ∈ pattern.segments fuel cursor,
        ∃ character, segment = .skipped character := by
    intro fuel
    induction fuel with
    | zero =>
        intro cursor _ segment member
        cases member
    | succ fuel induction =>
        intro cursor within segment member
        rw [segments, nowhere cursor within] at member
        cases rest : cursor.rest with
        | nil =>
            rw [rest] at member
            cases member
        | cons head rest' =>
            rw [rest] at member within
            rcases List.mem_cons.mp member with rfl | later
            · exact ⟨head, rfl⟩
            · exact induction _ ((List.suffix_cons head rest').trans within)
                segment later
  rw [findAll]
  apply List.filterMap_eq_nil_iff.mpr
  intro segment member
  obtain ⟨character, rfl⟩ := skips _ _ (List.suffix_refl text) segment member
  rfl

theorem ends_char_eq_nil {accepts : Char → Bool} {cursor : Cursor}
    (lacks : ∀ character ∈ cursor.rest, accepts character = false) :
    (char accepts).ends cursor = [] := by
  rw [ends]
  cases rest : cursor.rest with
  | nil => rfl
  | cons head rest' =>
      have refused := lacks head (rest ▸ List.mem_cons_self)
      simp [refused]

theorem ends_seq_eq_nil {first second : Pattern} {cursor : Cursor}
    (none : first.ends cursor = []) : (seq first second).ends cursor = [] := by
  rw [ends, none]
  rfl

theorem ends_times_eq_nil {pattern : Pattern} {count : Nat} {cursor : Cursor}
    (none : pattern.ends cursor = []) :
    (times (count + 1) pattern).ends cursor = [] := by
  rw [ends, timesEnds, none]
  rfl

/-- A boundary in front moves no cursor. -/
theorem ends_seq_boundary_eq_nil {word : Char → Bool} {second : Pattern}
    {cursor : Cursor} (none : second.ends cursor = []) :
    (seq (boundary word) second).ends cursor = [] := by
  rw [ends, ends]
  split
  · rw [List.flatMap_cons, none]
    rfl
  · rfl

end Pattern

end Library
