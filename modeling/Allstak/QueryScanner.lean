import Allstak.Db
import Allstak.Library.Transducer

/-!
# Normalization as a transducer

The loop of the normalization reads ahead inside literals and numbers and looks
back at what it has pushed.  The same text comes out of a machine that reads one
character at a time, with the last character pushed in its state.
-/

namespace Allstak

namespace Db

open Library (Transducer)

/-- Where the machine is: outside, in a number, in a literal, or behind a quote
in a literal, which closes it unless another follows. -/
inductive Mode where
  | plain
  | number
  | literal
  | quoted
  deriving DecidableEq

structure Scan where
  last : Option Char := none
  spaced : Bool := false
  mode : Mode := .plain
  deriving DecidableEq

theorem solid_of_digit {character : Char} (digit : character.isDigit = true) :
    Text.isWhitespace character = false := by
  simp only [Char.isDigit, Bool.and_eq_true, decide_eq_true_eq, ge_iff_le,
    UInt32.le_iff_toNat_le] at digit
  simp only [Text.isWhitespace, Bool.or_eq_false_iff, Bool.and_eq_false_iff,
    decide_eq_false_iff_not, beq_eq_false_iff_ne, UInt32.le_iff_toNat_le, ne_eq,
    ← UInt32.toNat_inj]
  simp at digit ⊢
  omega

theorem not_digit_of_white {character : Char}
    (white : Text.isWhitespace character = true) : character.isDigit = false := by
  by_contra digit
  rw [Bool.not_eq_false] at digit
  rw [solid_of_digit digit] at white
  cases white

theorem letter_plain {letter : Char} (alpha : letter.isAlpha = true) :
    letter ≠ '\'' ∧ letter.isDigit = false ∧
      Text.isWhitespace letter = false := by
  unfold Char.isAlpha Char.isUpper Char.isLower at alpha
  simp only [Bool.or_eq_true, Bool.and_eq_true, decide_eq_true_eq,
    UInt32.le_iff_toNat_le, ge_iff_le] at alpha
  refine ⟨?_, ?_, ?_⟩
  · rintro rfl
    revert alpha
    decide
  · simp only [Char.isDigit, Bool.and_eq_false_iff, decide_eq_false_iff_not,
      UInt32.le_iff_toNat_le, ge_iff_le]
    simp at alpha ⊢
    omega
  · simp only [Text.isWhitespace, Bool.or_eq_false_iff, Bool.and_eq_false_iff,
      decide_eq_false_iff_not, beq_eq_false_iff_ne, UInt32.le_iff_toNat_le, ne_eq,
      ← UInt32.toNat_inj]
    simp at alpha ⊢
    omega

private theorem isEmpty_eq (out : List Char) :
    (!out.isEmpty) = out.getLast?.isSome := by
  cases out with
  | nil => rfl
  | cons first rest => rw [List.getLast?_cons]; rfl

/-- The flag says that a blank came last, and every literal and number leaves
its mark. -/
structure Scan.Sound (scan : Scan) : Prop where
  spaced : scan.spaced = true ↔ scan.last = some ' '
  marked : scan.mode ≠ .plain → scan.last = some '?'

theorem Scan.sound_start : Scan.Sound {} := by
  constructor
  · decide
  · intro marked
    exact absurd rfl marked

/-- A sound state with a mark. -/
theorem Scan.Sound.eq_marked {scan : Scan} (sound : scan.Sound)
    (marked : scan.mode ≠ .plain) :
    scan = { last := some '?', spaced := false, mode := scan.mode } := by
  have last := sound.marked marked
  have spaced : scan.spaced = false := by
    rw [Bool.eq_false_iff, Ne, sound.spaced, last]
    decide
  obtain ⟨_, _, _⟩ := scan
  simp_all

theorem ascii_of_digit {digit : Char} (isDigit : digit.isDigit = true) :
    digit.val < 128 := by
  simp only [Char.isDigit, Bool.and_eq_true, decide_eq_true_eq, ge_iff_le,
    UInt32.le_iff_toNat_le] at isDigit
  rw [UInt32.lt_iff_toNat_lt]
  simp at isDigit ⊢
  omega

section

variable [AlphanumericTable]

/-- Whether a digit after this character starts a token. -/
def fresh : Option Char → Bool
  | none => true
  | some last => !AlphanumericTable.isAlphanumeric last && last != '_'

private theorem startsToken_eq_fresh (out : List Char) :
    startsToken out = fresh out.getLast? := by
  rw [startsToken]
  cases out.getLast? <;> rfl

namespace Scan

/-- A character outside. -/
def read (scan : Scan) (character : Char) : Scan × List Char :=
  if character = '\'' then
    ({ last := some '?', spaced := false, mode := .literal }, ['?'])
  else if character.isDigit && fresh scan.last then
    ({ last := some '?', spaced := false, mode := .number }, ['?'])
  else if Text.isWhitespace character then
    if !scan.spaced && scan.last.isSome then
      ({ last := some ' ', spaced := true, mode := .plain }, [' '])
    else ({ scan with mode := .plain }, [])
  else ({ last := some character, spaced := false, mode := .plain }, [character])

def step (scan : Scan) (character : Char) : Scan × List Char :=
  match scan.mode with
  | .plain => scan.read character
  | .number => if isNumberPart character then (scan, []) else scan.read character
  | .literal =>
      if character = '\'' then ({ scan with mode := .quoted }, []) else (scan, [])
  | .quoted =>
      if character = '\'' then ({ scan with mode := .literal }, [])
      else scan.read character

end Scan

def scanner : Transducer Scan Char Char where
  next scan character := (scan.step character).1
  emit scan character := (scan.step character).2

namespace Scan

variable {character : Char}

private theorem read_quote (scan : Scan) : scan.read '\'' =
    ({ last := some '?', spaced := false, mode := .literal }, ['?']) :=
  if_pos rfl

private theorem read_number (scan : Scan) (digit : character.isDigit = true)
    (starts : fresh scan.last = true) : scan.read character =
      ({ last := some '?', spaced := false, mode := .number }, ['?']) := by
  have plain : character ≠ '\'' := by
    rintro rfl
    exact absurd digit (by decide)
  rw [read, if_neg plain, if_pos (by rw [digit, starts]; rfl)]

theorem read_white (scan : Scan) (white : Text.isWhitespace character = true) :
    scan.read character =
      if !scan.spaced && scan.last.isSome then
        ({ last := some ' ', spaced := true, mode := .plain }, [' '])
      else ({ scan with mode := .plain }, []) := by
  have plain : character ≠ '\'' := by
    rintro rfl
    exact absurd white (by decide)
  rw [read, if_neg plain, not_digit_of_white white, Bool.false_and,
    if_neg Bool.false_ne_true, if_pos white]

theorem read_space (scan : Scan) (white : Text.isWhitespace character = true)
    (room : (!scan.spaced && scan.last.isSome) = true) :
    scan.read character =
      ({ last := some ' ', spaced := true, mode := .plain }, [' ']) := by
  rw [read_white scan white, if_pos room]

theorem read_blank (scan : Scan) (white : Text.isWhitespace character = true)
    (room : (!scan.spaced && scan.last.isSome) = false) :
    scan.read character = ({ scan with mode := .plain }, []) := by
  rw [read_white scan white, if_neg (by rw [room]; exact Bool.false_ne_true)]

theorem read_other (scan : Scan) (plain : character ≠ '\'')
    (unstarted : character.isDigit = true → fresh scan.last = false)
    (solid : Text.isWhitespace character = false) : scan.read character =
      ({ last := some character, spaced := false, mode := .plain },
        [character]) := by
  have inside : ¬ (character.isDigit && fresh scan.last) = true := by
    rw [Bool.and_eq_true, not_and, Bool.not_eq_true]
    exact unstarted
  rw [read, if_neg plain, if_neg inside, if_neg (by rw [solid]; decide)]

end Scan

/-- Behind an open literal the machine goes on where the loop goes on. -/
theorem output_literal (last : Option Char) (spaced : Bool) (text : List Char) :
    scanner.output { last, spaced, mode := .literal } text =
      scanner.output { last, spaced, mode := .plain } (skipLiteral text) := by
  fun_induction skipLiteral text with
  | case1 => rfl
  | case2 rest induction => exact induction
  | case3 rest single =>
      cases rest with
      | nil => rfl
      | cons character rest =>
          have other : character ≠ '\'' := by
            rintro rfl
            exact single rest rfl
          have quoted : Scan.step { last, spaced, mode := .quoted } character =
              Scan.step { last, spaced, mode := .plain } character :=
            if_neg other
          change scanner.output { last, spaced, mode := .quoted }
            (character :: rest) = _
          apply Transducer.output_cons_congr
          · exact congrArg Prod.fst quoted
          · exact congrArg Prod.snd quoted
  | case4 character rest _ other induction =>
      have plain : character ≠ '\'' := other
      have kept : Scan.step { last, spaced, mode := .literal } character =
          ({ last, spaced, mode := .literal }, []) :=
        if_neg plain
      have skips : scanner.Skips { last, spaced, mode := .literal } character :=
        ⟨congrArg Prod.fst kept, congrArg Prod.snd kept⟩
      rw [Transducer.output_cons, skips.1, skips.2, List.nil_append, induction]

/-- Digits and dots after a number are passed over. -/
theorem number_skips {last : Option Char} {spaced : Bool} {character : Char}
    (part : isNumberPart character = true) :
    scanner.Skips { last, spaced, mode := .number } character := by
  have kept : Scan.step { last, spaced, mode := .number } character =
      ({ last, spaced, mode := .number }, []) :=
    if_pos part
  exact ⟨congrArg Prod.fst kept, congrArg Prod.snd kept⟩

theorem output_number (last : Option Char) (spaced : Bool) (text : List Char) :
    scanner.output { last, spaced, mode := .number } text =
      scanner.output { last, spaced, mode := .plain }
        (text.dropWhile isNumberPart) := by
  induction text with
  | nil => rfl
  | cons character text induction =>
      by_cases part : isNumberPart character = true
      · obtain ⟨stays, silent⟩ := @number_skips _ last spaced _ part
        rw [Transducer.output_cons, stays, silent, List.nil_append, induction,
          List.dropWhile_cons_of_pos part]
      · rw [List.dropWhile_cons_of_neg part]
        have plain : Scan.step { last, spaced, mode := .number } character =
            Scan.step { last, spaced, mode := .plain } character :=
          if_neg part
        apply Transducer.output_cons_congr
        · exact congrArg Prod.fst plain
        · exact congrArg Prod.snd plain

theorem output_plain_cons {last : Option Char} {spaced : Bool} {character : Char}
    {next : Scan} {word : List Char}
    (reads : Scan.read { last, spaced } character = (next, word))
    (text : List Char) :
    scanner.output { last, spaced } (character :: text) =
      word ++ scanner.output next text := by
  have step : Scan.step { last, spaced } character = (next, word) := reads
  have moves : scanner.next { last, spaced } character = next :=
    congrArg Prod.fst step
  have emits : scanner.emit { last, spaced } character = word :=
    congrArg Prod.snd step
  rw [Transducer.output_cons, moves, emits]

/-- What the loop pushes. -/
theorem normalizeLoop_eq_output (out : List Char) (spaced : Bool)
    (text : List Char) :
    normalizeLoop out spaced text =
      out ++ scanner.output { last := out.getLast?, spaced } text := by
  fun_induction normalizeLoop out spaced text with
  | case1 out spaced => simp
  | case2 out spaced rest induction =>
      have reads := Scan.read_quote { last := out.getLast?, spaced }
      rw [induction, output_plain_cons reads, output_literal]
      simp
  | case3 out spaced character rest plain number induction =>
      rw [Bool.and_eq_true, startsToken_eq_fresh] at number
      have reads := Scan.read_number { last := out.getLast?, spaced } number.1
        number.2
      rw [induction, output_plain_cons reads, output_number]
      simp
  | case4 out spaced character rest plain number white room induction =>
      rw [isEmpty_eq] at room
      have reads := Scan.read_space { last := out.getLast?, spaced } white room
      rw [induction, output_plain_cons reads]
      simp
  | case5 out spaced character rest plain number white room induction =>
      rw [isEmpty_eq, Bool.not_eq_true] at room
      have reads := Scan.read_blank { last := out.getLast?, spaced } white room
      rw [induction, output_plain_cons reads]
      simp
  | case6 out spaced character rest plain number solid induction =>
      rw [Bool.not_eq_true, Bool.and_eq_false_imp, startsToken_eq_fresh] at number
      rw [Bool.not_eq_true] at solid
      have reads := Scan.read_other { last := out.getLast?, spaced } plain number
        solid
      rw [induction, output_plain_cons reads]
      simp

/-- A statement is normalized by trimming what the machine emits. -/
theorem normalizeQuery_eq_output (sql : String) :
    (normalizeQuery sql).toList = Text.trim (scanner.output {} sql.toList) := by
  rw [normalizeQuery, String.toList_ofList, normalizeLoop_eq_output,
    List.nil_append]
  rfl

/-- What reading a character outside comes to. -/
inductive Scan.Reads (scan : Scan) : Char → Scan × List Char → Prop
  | quote : Reads scan '\''
      ({ last := some '?', spaced := false, mode := .literal }, ['?'])
  | number {character : Char} (digit : character.isDigit = true)
      (starts : fresh scan.last = true) : Reads scan character
      ({ last := some '?', spaced := false, mode := .number }, ['?'])
  | space {character : Char} (white : Text.isWhitespace character = true)
      (room : (!scan.spaced && scan.last.isSome) = true) : Reads scan character
      ({ last := some ' ', spaced := true, mode := .plain }, [' '])
  | blank {character : Char} (white : Text.isWhitespace character = true)
      (room : (!scan.spaced && scan.last.isSome) = false) : Reads scan character
      ({ scan with mode := .plain }, [])
  | other {character : Char} (plain : character ≠ '\'')
      (unstarted : character.isDigit = true → fresh scan.last = false)
      (solid : Text.isWhitespace character = false) : Reads scan character
      ({ last := some character, spaced := false, mode := .plain }, [character])

theorem Scan.reads (scan : Scan) (character : Char) :
    scan.Reads character (scan.read character) := by
  by_cases quote : character = '\''
  · rw [quote, Scan.read_quote]
    exact .quote
  cases white : Text.isWhitespace character with
  | true =>
      cases room : !scan.spaced && scan.last.isSome with
      | true =>
          rw [Scan.read_space scan white room]
          exact .space white room
      | false =>
          rw [Scan.read_blank scan white room]
          exact .blank white room
  | false =>
      by_cases number : character.isDigit = true ∧ fresh scan.last = true
      · rw [Scan.read_number scan number.1 number.2]
        exact .number number.1 number.2
      · rw [not_and, Bool.not_eq_true] at number
        rw [Scan.read_other scan quote number white]
        exact .other quote number white

/-- What a step comes to, by the mode. -/
inductive Scan.Steps (scan : Scan) : Char → Scan × List Char → Prop
  | read {character : Char} {result : Scan × List Char}
      (outside : scan.mode ≠ .literal)
      (unpassed : scan.mode = .number → isNumberPart character = false)
      (reads : scan.Reads character result) : Steps scan character result
  | pass {character : Char} (number : scan.mode = .number)
      (part : isNumberPart character = true) : Steps scan character (scan, [])
  | inside {character : Char} (literal : scan.mode = .literal)
      (plain : character ≠ '\'') : Steps scan character (scan, [])
  | close (literal : scan.mode = .literal) :
      Steps scan '\'' ({ scan with mode := .quoted }, [])
  | reopen (quoted : scan.mode = .quoted) :
      Steps scan '\'' ({ scan with mode := .literal }, [])

theorem Scan.steps (scan : Scan) (character : Char) :
    scan.Steps character (scan.step character) := by
  have reads := scan.reads character
  cases mode : scan.mode with
  | plain =>
      rw [Scan.step, mode]
      exact .read (by rw [mode]; decide) (by rw [mode]; rintro ⟨⟩) reads
  | number =>
      rw [Scan.step, mode]
      dsimp only
      split
      · rename_i part
        exact .pass mode part
      · rename_i unpassed
        rw [Bool.not_eq_true] at unpassed
        exact .read (by rw [mode]; decide) (fun _ => unpassed) reads
  | literal =>
      rw [Scan.step, mode]
      dsimp only
      split
      · rename_i quote
        rw [quote]
        exact .close mode
      · rename_i plain
        exact .inside mode plain
  | quoted =>
      rw [Scan.step, mode]
      dsimp only
      split
      · rename_i quote
        rw [quote]
        exact .reopen mode
      · exact .read (by rw [mode]; decide) (by rw [mode]; rintro ⟨⟩) reads

theorem Scan.Sound.step {scan : Scan} (sound : scan.Sound) (character : Char) :
    (scan.step character).1.Sound := by
  have steps := scan.steps character
  generalize scan.step character = result at steps ⊢
  cases steps with
  | read outside unpassed reads =>
      cases reads with
      | quote => exact ⟨by decide, fun _ => rfl⟩
      | number digit starts => exact ⟨by decide, fun _ => rfl⟩
      | space white room => exact ⟨by decide, fun marked => absurd rfl marked⟩
      | blank white room =>
          exact ⟨sound.spaced, fun marked => absurd rfl marked⟩
      | other plain unstarted solid =>
          refine ⟨?_, fun marked => absurd rfl marked⟩
          constructor
          · rintro ⟨⟩
          · rintro ⟨⟩
            exact absurd solid (by decide)
  | pass number part => exact sound
  | inside literal plain => exact sound
  | close literal =>
      refine ⟨sound.spaced, fun _ => sound.marked ?_⟩
      rw [literal]
      decide
  | reopen quoted =>
      refine ⟨sound.spaced, fun _ => sound.marked ?_⟩
      rw [quoted]
      decide

theorem Scan.Sound.after {scan : Scan} (sound : scan.Sound) (text : List Char) :
    (scanner.after scan text).Sound :=
  Transducer.after_invariant (fun _ character holds => holds.step character) sound
    text

def isWordPart (character : Char) : Bool :=
  AlphanumericTable.isAlphanumeric character || character == '_'

theorem fresh_some (character : Char) :
    fresh (some character) = !isWordPart character := by
  rw [fresh, isWordPart, Bool.not_or]
  rfl

theorem fresh_mark : fresh (some '?') = true := by
  rw [fresh, AlphanumericTable.isAlphanumeric_ascii '?' (by decide)]
  decide

private theorem fresh_space : fresh (some ' ') = true := by
  rw [fresh, AlphanumericTable.isAlphanumeric_ascii ' ' (by decide)]
  decide

theorem isWordPart_of_digit {digit : Char} (isDigit : digit.isDigit = true) :
    isWordPart digit = true := by
  rw [isWordPart, AlphanumericTable.isAlphanumeric_ascii digit
    (ascii_of_digit isDigit), Char.isAlphanum, isDigit, Bool.or_true, Bool.true_or]

theorem not_isWordPart_quote : isWordPart '\'' = false := by
  rw [isWordPart, AlphanumericTable.isAlphanumeric_ascii '\'' (by decide)]
  decide

/-- A digit that comes now belongs to a number. -/
def Scan.Swallows (scan : Scan) : Prop :=
  scan.mode = .number ∨ fresh scan.last = true

theorem Scan.Sound.swallows_of_marked {scan : Scan} (sound : scan.Sound)
    (marked : scan.mode ≠ .plain) : scan.Swallows := by
  right
  rw [sound.marked marked]
  exact fresh_mark

/-- Outside it stays until a quote comes. -/
theorem Scan.outside_step {scan : Scan} (outside : scan.mode ≠ .literal)
    {character : Char} (plain : character ≠ '\'') :
    (scan.step character).1.mode ≠ .literal := by
  have steps := scan.steps character
  generalize scan.step character = result at steps ⊢
  cases steps with
  | read outside unpassed reads =>
      cases reads with
      | quote => exact absurd rfl plain
      | number digit starts => rintro ⟨⟩
      | space white room => rintro ⟨⟩
      | blank white room => rintro ⟨⟩
      | other plain unstarted solid => rintro ⟨⟩
  | pass number part => exact outside
  | inside literal plain => exact absurd literal outside
  | close literal => exact absurd rfl plain
  | reopen quoted => exact absurd rfl plain

/-- Outside, a digit after a character that is part of no word belongs to a
number. -/
theorem Scan.Sound.swallows_step {scan : Scan} (sound : scan.Sound)
    (outside : scan.mode ≠ .literal) {character : Char}
    (plain : character ≠ '\'') (apart : isWordPart character = false) :
    (scan.step character).1.Swallows := by
  have steps := scan.steps character
  generalize scan.step character = result at steps ⊢
  cases steps with
  | read outside unpassed reads =>
      cases reads with
      | quote => exact absurd rfl plain
      | number digit starts => exact .inl rfl
      | space white room => exact .inr fresh_space
      | blank white room =>
          right
          cases last : scan.last with
          | none => rfl
          | some before =>
              rw [last, Option.isSome_some, Bool.and_true, Bool.not_eq_false',
                sound.spaced, last] at room
              rw [Option.some.inj room]
              exact fresh_space
      | other plain unstarted solid =>
          right
          rw [fresh_some, apart]
          rfl
  | pass number part => exact .inl number
  | inside literal plain => exact absurd literal outside
  | close literal => exact absurd rfl plain
  | reopen quoted => exact absurd rfl plain

/-- Where a digit belongs to a number, it is replaced or passed over. -/
theorem Scan.Sound.open_number {scan : Scan} (sound : scan.Sound)
    (outside : scan.mode ≠ .literal) (swallows : scan.Swallows) {digit : Char}
    (isDigit : digit.isDigit = true) :
    scan.step digit = ({ last := some '?', mode := .number },
      if scan.mode = .number then [] else ['?']) := by
  have part : isNumberPart digit = true := by
    rw [isNumberPart, isDigit, Bool.true_or]
  have steps := scan.steps digit
  generalize scan.step digit = result at steps ⊢
  cases steps with
  | read outside unpassed reads =>
      have plain : scan.mode ≠ .number := by
        intro number
        rw [unpassed number] at part
        cases part
      have starts := swallows.resolve_left plain
      rw [if_neg plain]
      cases reads with
      | quote => exact absurd isDigit (by decide)
      | number digit starts => rfl
      | space white room =>
          rw [solid_of_digit isDigit] at white
          cases white
      | blank white room =>
          rw [solid_of_digit isDigit] at white
          cases white
      | other plain unstarted solid =>
          rw [unstarted isDigit] at starts
          cases starts
  | pass number part =>
      have marked : scan.mode ≠ .plain := by
        rw [number]
        decide
      rw [if_pos number]
      nth_rewrite 1 [sound.eq_marked marked]
      rw [number]
  | inside literal plain => exact absurd literal outside
  | close literal => exact absurd literal outside
  | reopen quoted => exact absurd isDigit (by decide)

end

end Db

end Allstak
