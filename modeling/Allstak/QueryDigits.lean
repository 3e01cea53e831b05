import Allstak.QueryScanner
import Mathlib.Data.List.DropRight

/-!
# Digits that are kept

A digit is replaced where it starts a token, and with it the digits and dots
that follow.  Letters end the number, so the digits behind them are kept, of
names, but also of numbers with an exponent or in hexadecimal.
-/

namespace Allstak

/-- The Unicode classes of `char::is_alphabetic` and `char::is_alphanumeric`. -/
class LetterTable extends AlphanumericTable where
  isAlphabetic : Char → Bool
  isAlphanumeric_of_isAlphabetic : ∀ character, isAlphabetic character = true →
    isAlphanumeric character = true
  isAlphabetic_ascii : ∀ character, character.val < 128 →
    isAlphabetic character = character.isAlpha
  isAlphanumeric_white : ∀ character, Text.isWhitespace character = true →
    isAlphanumeric character = false

/-- The tables restricted to ASCII. -/
@[reducible] def asciiLetters : LetterTable where
  toAlphanumericTable := asciiAlphanumeric
  isAlphabetic := Char.isAlpha
  isAlphanumeric_of_isAlphabetic := by
    intro character alpha
    change character.isAlphanum = true
    rw [Char.isAlphanum, alpha, Bool.true_or]
  isAlphabetic_ascii _ _ := rfl
  isAlphanumeric_white := by
    intro character white
    change character.isAlphanum = false
    cases alpha : character.isAlpha with
    | true =>
        rw [(Db.letter_plain alpha).2.2] at white
        cases white
    | false => rw [Char.isAlphanum, alpha, Db.not_digit_of_white white]; rfl

namespace Db

open Library (Transducer)

/-- Every literal that was opened is closed again. -/
def Outside (before : List Char) : Prop :=
  before.count '\'' % 2 = 0

private theorem outside_concat {before : List Char} {character : Char}
    (plain : character ≠ '\'') :
    Outside (before ++ [character]) ↔ Outside before := by
  rw [Outside, Outside, List.count_append, List.count_singleton,
    if_neg (by simpa using plain), Nat.add_zero]

private theorem filter_digits_blank {text : List Char}
    (blank : Text.IsBlank text) :
    text.filter Char.isDigit = [] := by
  apply List.filter_eq_nil_iff.mpr
  intro white member
  rw [not_digit_of_white (blank white member)]
  exact Bool.false_ne_true

section

variable [LetterTable]

/-- The characters a name starts with. -/
def opensName (character : Char) : Bool :=
  LetterTable.isAlphabetic character || character == '_'

/-- The letters, digits and underscores right before a place. -/
def run (before : List Char) : List Char :=
  before.rtakeWhile isWordPart

/-- The machine emits the digit as it reads it. -/
def keepsDigit (place : List Char × Char) : Bool :=
  place.2.isDigit &&
    scanner.emit (scanner.after {} place.1) place.2 == [place.2]

def keptDigits (sql : String) : List (List Char × Char) :=
  (Transducer.places sql.toList).filter keepsDigit

theorem Scan.quote_step (scan : Scan) :
    (scan.step '\'').1.mode ≠ .literal ↔ scan.mode = .literal := by
  have steps := scan.steps '\''
  generalize scan.step '\'' = result at steps ⊢
  cases steps with
  | read outside unpassed reads =>
      cases reads with
      | quote => simpa using outside
      | number digit starts => exact absurd digit (by decide)
      | space white room => exact absurd white (by decide)
      | blank white room => exact absurd white (by decide)
      | other plain unstarted solid => exact absurd rfl plain
  | pass number part => exact absurd part (by decide)
  | inside literal plain => exact absurd rfl plain
  | close literal => simp [literal]
  | reopen quoted => simp [quoted]

private theorem Scan.inside_step {scan : Scan} (literal : scan.mode = .literal)
    {character : Char} (plain : character ≠ '\'') :
    scan.step character = (scan, []) := by
  rw [Scan.step, literal]
  exact if_neg plain

/-- The machine is outside where every literal is closed. -/
theorem outside_iff (before : List Char) :
    (scanner.after {} before).mode ≠ .literal ↔ Outside before := by
  induction before using List.reverseRecOn with
  | nil => simp [Outside]
  | append_singleton before character induction =>
      rw [Transducer.after_concat]
      change ((scanner.after {} before).step character).1.mode ≠ _ ↔ _
      by_cases plain : character = '\''
      · rw [plain, Scan.quote_step, ← not_iff_not, ← Ne, induction, Outside,
          Outside, List.count_append, List.count_singleton_self]
        omega
      · rw [outside_concat plain, ← induction]
        constructor
        · intro outside literal
          rw [Scan.inside_step literal plain] at outside
          exact outside literal
        · intro outside
          exact Scan.outside_step outside plain

private theorem run_concat_word {before : List Char} {character : Char}
    (part : isWordPart character = true) :
    run (before ++ [character]) = run before ++ [character] :=
  List.rtakeWhile_concat_pos isWordPart before character part

private theorem run_concat_other {before : List Char} {character : Char}
    (apart : isWordPart character = false) : run (before ++ [character]) = [] :=
  List.rtakeWhile_concat_neg isWordPart before character
    (by rw [apart]; exact Bool.false_ne_true)

/-- A digit that belongs to no number is copied. -/
theorem Scan.step_digit {scan : Scan} (outside : scan.mode ≠ .literal)
    (apart : ¬ scan.Swallows) {digit : Char} (isDigit : digit.isDigit = true) :
    scan.step digit = ({ last := some digit }, [digit]) := by
  rw [Scan.Swallows, not_or, Bool.not_eq_true] at apart
  have steps := scan.steps digit
  generalize scan.step digit = result at steps ⊢
  cases steps with
  | read outside unpassed reads =>
      cases reads with
      | quote => exact absurd isDigit (by decide)
      | number digit starts =>
          rw [apart.2] at starts
          cases starts
      | space white room =>
          rw [solid_of_digit isDigit] at white
          cases white
      | blank white room =>
          rw [solid_of_digit isDigit] at white
          cases white
      | other plain unstarted solid => rfl
  | pass number part => exact absurd number apart.1
  | inside literal plain => exact absurd literal outside
  | close literal => exact absurd literal outside
  | reopen quoted => exact absurd isDigit (by decide)

private theorem not_swallows_behind {character : Char}
    (part : isWordPart character = true) :
    ¬ Scan.Swallows { last := some character } := by
  rintro (number | starts)
  · cases number
  · rw [fresh_some, part] at starts
    cases starts

private theorem Scan.Sound.swallows_digit {scan : Scan} (sound : scan.Sound)
    (outside : scan.mode ≠ .literal) {digit : Char}
    (isDigit : digit.isDigit = true) :
    (scan.step digit).1.Swallows ↔ scan.Swallows := by
  by_cases swallows : scan.Swallows
  · rw [sound.open_number outside swallows isDigit]
    exact iff_of_true (.inl rfl) swallows
  · rw [Scan.step_digit outside swallows isDigit]
    exact iff_of_false (not_swallows_behind (isWordPart_of_digit isDigit)) swallows

private theorem not_isWordPart_white {white : Char}
    (isWhite : Text.isWhitespace white = true) : isWordPart white = false := by
  have apart : white ≠ '_' := by
    rintro rfl
    exact absurd isWhite (by decide)
  rw [isWordPart, LetterTable.isAlphanumeric_white white isWhite, Bool.false_or,
    beq_eq_false_iff_ne]
  exact apart

private theorem not_isWordPart_dot : isWordPart '.' = false := by
  rw [isWordPart, AlphanumericTable.isAlphanumeric_ascii '.' (by decide)]
  decide

/-- A letter ends the number. -/
theorem Scan.letter_step {scan : Scan} (outside : scan.mode ≠ .literal)
    {character : Char} (part : isWordPart character = true)
    (letter : character.isDigit = false) :
    ¬ (scan.step character).1.Swallows := by
  have steps := scan.steps character
  generalize scan.step character = result at steps ⊢
  cases steps with
  | read outside unpassed reads =>
      cases reads with
      | quote =>
          rw [not_isWordPart_quote] at part
          cases part
      | number digit starts =>
          rw [letter] at digit
          cases digit
      | space white room =>
          rw [not_isWordPart_white white] at part
          cases part
      | blank white room =>
          rw [not_isWordPart_white white] at part
          cases part
      | other plain unstarted solid => exact not_swallows_behind part
  | pass number numberPart =>
      rw [isNumberPart, letter, Bool.false_or, beq_iff_eq] at numberPart
      rw [numberPart, not_isWordPart_dot] at part
      cases part
  | inside literal plain => exact absurd literal outside
  | close literal => exact absurd literal outside
  | reopen quoted =>
      rw [not_isWordPart_quote] at part
      cases part

/-- Outside, a digit belongs to a number while nothing but digits came before it
in its run. -/
theorem swallows_iff {before : List Char} (outside : Outside before) :
    (scanner.after {} before).Swallows ↔
      ∀ character ∈ run before, character.isDigit = true := by
  induction before using List.reverseRecOn with
  | nil => exact iff_of_true (.inr rfl) (by simp [run])
  | append_singleton before character induction =>
      have sound : (scanner.after {} before).Sound :=
        Scan.sound_start.after before
      have now := (outside_iff _).mpr outside
      rw [Transducer.after_concat] at now ⊢
      change ((scanner.after {} before).step character).1.mode ≠ _ at now
      change ((scanner.after {} before).step character).1.Swallows ↔ _
      by_cases plain : character = '\''
      · rw [plain, Scan.quote_step] at now
        have closed : (scanner.after {} before).step '\'' =
            ({ scanner.after {} before with mode := .quoted }, []) := by
          rw [Scan.step, now]
          rfl
        have marked : Scan.Sound { scanner.after {} before with mode := .quoted } := by
          have later := sound.step '\''
          rwa [closed] at later
        rw [plain, run_concat_other not_isWordPart_quote, closed]
        exact iff_of_true (marked.swallows_of_marked (by rintro ⟨⟩)) (by simp)
      · have earlier := (outside_concat plain).mp outside
        have before_ := (outside_iff before).mpr earlier
        cases part : isWordPart character with
        | false =>
            rw [run_concat_other part]
            exact iff_of_true (sound.swallows_step before_ plain part) (by simp)
        | true =>
            rw [run_concat_word part]
            cases digit : character.isDigit with
            | true =>
                rw [sound.swallows_digit before_ digit, induction earlier]
                simp [or_imp, forall_and, digit]
            | false =>
                apply iff_of_false (Scan.letter_step before_ part digit)
                intro digits
                rw [digits character (by simp)] at digit
                cases digit

/-- A digit is kept outside literals, when something else than digits comes
before it in its run. -/
theorem keepsDigit_iff {before : List Char} {digit : Char}
    (isDigit : digit.isDigit = true) :
    keepsDigit (before, digit) = true ↔ Outside before ∧
      ∃ character ∈ run before, character.isDigit = false := by
  have sound : (scanner.after {} before).Sound := Scan.sound_start.after before
  rw [keepsDigit, isDigit, Bool.true_and, beq_iff_eq]
  change ((scanner.after {} before).step digit).2 = [digit] ↔ _
  by_cases outside : Outside before
  · have now := (outside_iff before).mpr outside
    have split : (∃ character ∈ run before, character.isDigit = false) ↔
        ¬ (scanner.after {} before).Swallows := by
      rw [swallows_iff outside]
      simp
    rw [split, and_iff_right outside]
    by_cases swallows : (scanner.after {} before).Swallows
    · rw [sound.open_number now swallows isDigit]
      apply iff_of_false
      · intro same
        dsimp only at same
        split at same
        · cases same
        · rw [← (List.cons.inj same).1] at isDigit
          exact absurd isDigit (by decide)
      · exact not_not.mpr swallows
    · rw [Scan.step_digit now swallows isDigit]
      exact iff_of_true rfl swallows
  · have literal : (scanner.after {} before).mode = .literal := by
      by_contra now
      exact outside ((outside_iff before).mp now)
    have plain : digit ≠ '\'' := by
      rintro rfl
      exact absurd isDigit (by decide)
    rw [Scan.inside_step literal plain]
    apply iff_of_false
    · rintro ⟨⟩
    · exact fun ⟨now, _⟩ => outside now

/-- No step emits another digit than the one it reads. -/
theorem step_digits (scan : Scan) (character : Char) :
    (scan.step character).2.filter Char.isDigit =
      if character.isDigit && (scan.step character).2 == [character] then
        [character]
      else [] := by
  have mark : '?'.isDigit = false := by
    decide
  have blank : ' '.isDigit = false := by
    decide
  have steps := scan.steps character
  generalize scan.step character = result at steps ⊢
  cases steps with
  | read outside unpassed reads =>
      cases reads with
      | quote => decide
      | number digit starts =>
          have apart : (['?'] == [character]) = false := by
            rw [beq_eq_false_iff_ne]
            rintro ⟨⟩
            cases digit
          simp [mark, apart]
      | space white room => simp [blank, not_digit_of_white white]
      | blank white room => simp
      | other plain unstarted solid => simp [List.filter_cons]
  | pass number part => simp
  | inside literal plain => simp
  | close literal => simp
  | reopen quoted => simp

/-- The digits of the normal form are the digits kept, in order. -/
theorem digits_normalized (sql : String) :
    (normalizeQuery sql).toList.filter Char.isDigit =
      (keptDigits sql).map Prod.snd := by
  obtain ⟨before, after, opening, closing, split⟩ :=
    Text.exists_blanks (scanner.output {} sql.toList)
  have trimmed : (normalizeQuery sql).toList.filter Char.isDigit =
      (scanner.output {} sql.toList).filter Char.isDigit := by
    rw [normalizeQuery_eq_output]
    nth_rewrite 2 [split]
    rw [List.filter_append, List.filter_append, filter_digits_blank opening,
      filter_digits_blank closing, List.nil_append, List.append_nil]
  rw [trimmed, Transducer.output_eq_places, keptDigits]
  generalize Transducer.places sql.toList = places
  induction places with
  | nil => rfl
  | cons place places induction =>
      rw [List.flatMap_cons, List.filter_append, induction]
      change ((scanner.after {} place.1).step place.2).2.filter Char.isDigit ++ _ = _
      rw [step_digits, List.filter_cons]
      change (if keepsDigit place = true then [place.2] else []) ++ _ = _
      split
      · rfl
      · rfl

private theorem mem_keptDigits {sql : String} {before : List Char}
    {digit : Char} :
    (before, digit) ∈ keptDigits sql ↔
      (∃ rest, sql.toList = before ++ digit :: rest) ∧
        keepsDigit (before, digit) = true := by
  rw [keptDigits, List.mem_filter, Transducer.mem_places]

private theorem isDigit_of_keeps {before : List Char} {digit : Char}
    (keeps : keepsDigit (before, digit) = true) : digit.isDigit = true := by
  rw [keepsDigit, Bool.and_eq_true] at keeps
  exact keeps.1

end

structure IsDigits (text : List Char) : Prop where
  present : text ≠ []
  digits : ∀ digit ∈ text, digit.isDigit = true

inductive Mantissa : List Char → Prop
  | whole {digits : List Char} (isDigits : IsDigits digits) : Mantissa digits
  | pointed {digits fraction : List Char} (isDigits : IsDigits digits)
      (fractional : ∀ digit ∈ fraction, digit.isDigit = true) :
      Mantissa (digits ++ '.' :: fraction)
  | fraction {digits : List Char} (isDigits : IsDigits digits) :
      Mantissa ('.' :: digits)

/-- Decimal numbers, with an exponent or without, and hexadecimal ones. -/
inductive Numeral : List Char → Prop
  | decimal {mantissa : List Char} (decimal : Mantissa mantissa) :
      Numeral mantissa
  | exponent {mantissa digits : List Char} {mark : Char}
      (decimal : Mantissa mantissa) (marks : mark ∈ ['e', 'E'])
      (isDigits : IsDigits digits) : Numeral (mantissa ++ mark :: digits)
  | signed {mantissa digits : List Char} {mark sign : Char}
      (decimal : Mantissa mantissa) (marks : mark ∈ ['e', 'E'])
      (signs : sign ∈ ['+', '-']) (isDigits : IsDigits digits) :
      Numeral (mantissa ++ mark :: sign :: digits)
  | hexadecimal {digits : List Char} {mark : Char} (marks : mark ∈ ['x', 'X'])
      (present : digits ≠ [])
      (hex : ∀ digit ∈ digits, Text.isAsciiHexdigit digit = true) :
      Numeral ('0' :: mark :: digits)

theorem Mantissa.digit_or_dot {mantissa : List Char} (decimal : Mantissa mantissa) :
    ∀ character ∈ mantissa, character.isDigit = true ∨ character = '.' := by
  intro character member
  cases decimal with
  | whole isDigits => exact .inl (isDigits.digits character member)
  | pointed isDigits fractional =>
      rcases List.mem_append.mp member with front | back
      · exact .inl (isDigits.digits character front)
      · rcases List.mem_cons.mp back with dot | later
        · exact .inr dot
        · exact .inl (fractional character later)
  | fraction isDigits =>
      rcases List.mem_cons.mp member with dot | later
      · exact .inr dot
      · exact .inl (isDigits.digits character later)

private theorem mark_not_digit {mark : Char} (marks : mark ∈ ['e', 'E']) :
    ¬ mark.isDigit = true := by
  rcases List.mem_pair.mp marks with rfl | rfl <;> decide

private theorem outside_append {before text : List Char}
    (outside : Outside before)
    (unquoted : '\'' ∉ text) : Outside (before ++ text) := by
  rw [Outside, List.count_append, List.count_eq_zero_of_not_mem unquoted]
  exact outside

section

variable [LetterTable]

theorem run_append_word {before text : List Char}
    (parts : ∀ character ∈ text, isWordPart character = true) :
    run (before ++ text) = run before ++ text := by
  induction text using List.reverseRecOn with
  | nil => rw [List.append_nil, List.append_nil]
  | append_singleton text character induction =>
      rw [← List.append_assoc, run_concat_word (parts character (by simp)),
        induction, List.append_assoc]
      intro other member
      exact parts other (List.mem_append_left _ member)

/-- A run does not reach past a place where none ends. -/
theorem run_append {before : List Char} (opens : run before = [])
    (text : List Char) : run (before ++ text) = run text := by
  induction text using List.reverseRecOn with
  | nil => rw [List.append_nil, opens]; rfl
  | append_singleton text character induction =>
      rw [← List.append_assoc]
      cases part : isWordPart character with
      | true => rw [run_concat_word part, run_concat_word part, induction]
      | false => rw [run_concat_other part, run_concat_other part]

private theorem mem_run {before : List Char} {character : Char}
    (member : character ∈ run before) :
    character ∈ before ∧ isWordPart character = true := by
  refine ⟨(List.rtakeWhile_suffix isWordPart before).subset member, ?_⟩
  exact List.mem_takeWhile_imp (List.mem_reverse.mp member)

theorem not_opensName_digit {digit : Char} (isDigit : digit.isDigit = true) :
    opensName digit = false := by
  have apart : digit ≠ '_' := by
    rintro rfl
    exact absurd isDigit (by decide)
  have plain : digit.isAlpha = false := by
    by_contra alpha
    rw [Bool.not_eq_false] at alpha
    rw [(letter_plain alpha).2.1] at isDigit
    cases isDigit
  rw [opensName, LetterTable.isAlphabetic_ascii digit (ascii_of_digit isDigit),
    plain, Bool.false_or, beq_eq_false_iff_ne]
  exact apart

theorem isWordPart_of_hex {digit : Char}
    (hex : Text.isAsciiHexdigit digit = true) : isWordPart digit = true := by
  have ascii : digit.val < 128 ∧ digit.isAlphanum = true := by
    simp only [Text.isAsciiHexdigit, Char.isDigit, Char.le_def, Bool.or_eq_true,
      Bool.and_eq_true, decide_eq_true_eq, UInt32.le_iff_toNat_le,
      ge_iff_le] at hex
    unfold Char.isAlphanum Char.isAlpha Char.isUpper Char.isLower
    simp only [Char.isDigit, Bool.or_eq_true, Bool.and_eq_true, decide_eq_true_eq,
      UInt32.le_iff_toNat_le, UInt32.lt_iff_toNat_lt, ge_iff_le]
    simp at hex ⊢
    omega
  rw [isWordPart, AlphanumericTable.isAlphanumeric_ascii digit ascii.1, ascii.2,
    Bool.true_or]

private theorem isWordPart_mark {mark : Char} (marks : mark ∈ ['e', 'E']) :
    isWordPart mark = true := by
  rcases List.mem_pair.mp marks with rfl | rfl
  · exact isWordPart_of_hex (by decide)
  · exact isWordPart_of_hex (by decide)

private theorem isWordPart_hexMark {mark : Char} (marks : mark ∈ ['x', 'X']) :
    isWordPart mark = true := by
  have ascii : mark.val < 128 ∧ mark.isAlphanum = true := by
    rcases List.mem_pair.mp marks with rfl | rfl <;> decide
  rw [isWordPart, AlphanumericTable.isAlphanumeric_ascii mark ascii.1, ascii.2,
    Bool.true_or]

private theorem sign_apart {sign : Char} (signs : sign ∈ ['+', '-']) :
    ¬ sign.isDigit = true ∧ isWordPart sign = false := by
  have ascii : sign.val < 128 ∧ ¬ sign.isDigit = true ∧
      (sign.isAlphanum || sign == '_') = false := by
    rcases List.mem_pair.mp signs with rfl | rfl <;> decide
  refine ⟨ascii.2.1, ?_⟩
  rw [isWordPart, AlphanumericTable.isAlphanumeric_ascii sign ascii.1]
  exact ascii.2.2

/-- A mantissa ends with digits, or with the dot behind them. -/
theorem Mantissa.run_head {mantissa : List Char} (decimal : Mantissa mantissa) :
    (∃ digit rest, run mantissa = digit :: rest ∧ digit.isDigit = true) ∨
      ∃ whole, IsDigits whole ∧ mantissa = whole ++ ['.'] := by
  have ending : ∀ {before digits : List Char}, run before = [] →
      IsDigits digits → ∃ digit rest,
        run (before ++ digits) = digit :: rest ∧ digit.isDigit = true := by
    intro before digits opens isDigits
    obtain ⟨digit, rest, rfl⟩ := List.exists_cons_of_ne_nil isDigits.present
    refine ⟨digit, rest, ?_, isDigits.digits digit (List.mem_cons_self ..)⟩
    rw [run_append_word, opens, List.nil_append]
    intro character member
    exact isWordPart_of_digit (isDigits.digits character member)
  cases decimal with
  | whole isDigits => exact .inl (@ending [] _ rfl isDigits)
  | @pointed digits fraction isDigits fractional =>
      by_cases none_ : fraction = []
      · rw [none_]
        exact .inr ⟨digits, isDigits, rfl⟩
      · left
        have cut : digits ++ '.' :: fraction = (digits ++ ['.']) ++ fraction := by
          simp
        rw [cut]
        exact ending (run_concat_other not_isWordPart_dot) ⟨none_, fractional⟩
  | fraction isDigits =>
      exact .inl (@ending ['.'] _
        (@run_concat_other _ [] '.' not_isWordPart_dot) isDigits)

/-- No letter stands in a mantissa. -/
theorem Mantissa.isDigit_of_mem_run {front back : List Char} {character : Char}
    (decimal : Mantissa (front ++ back)) (member : character ∈ run front) :
    character.isDigit = true := by
  obtain ⟨inFront, part⟩ := mem_run member
  rcases decimal.digit_or_dot character (List.mem_append_left _ inFront) with
    isDigit | dot
  · exact isDigit
  · rw [dot, not_isWordPart_dot] at part
    cases part

/-- A letter in front of a digit has the mark of the exponent in front as
well. -/
theorem mark_in_front {mantissa more front rest : List Char}
    {mark digit letter : Char} (decimal : Mantissa mantissa)
    (apart : ¬ mark.isDigit = true) (isDigit : digit.isDigit = true)
    (member : letter ∈ run front) (noDigit : letter.isDigit = false)
    (split : front ++ digit :: rest = mantissa ++ mark :: more) :
    ∃ between, front = mantissa ++ mark :: between ∧
      more = between ++ digit :: rest := by
  rcases List.append_eq_append_iff.mp split with
    ⟨back, within, _⟩ | ⟨between, behind, later⟩
  · rw [within] at decimal
    rw [decimal.isDigit_of_mem_run member] at noDigit
    cases noDigit
  · cases between with
    | nil =>
        obtain ⟨rfl, _⟩ := List.cons.inj later
        exact absurd isDigit apart
    | cons first between =>
        obtain ⟨rfl, tail⟩ := List.cons.inj later
        exact ⟨between, behind, tail⟩

/-- The digits of a hexadecimal number are in the run of its first zero. -/
theorem run_hexadecimal {digits front rest : List Char} {mark digit : Char}
    (marks : mark ∈ ['x', 'X'])
    (hex : ∀ digit ∈ digits, Text.isAsciiHexdigit digit = true)
    (split : front ++ digit :: rest = mark :: digits) :
    run ('0' :: front) = '0' :: front := by
  have parts : ∀ character ∈ '0' :: front, isWordPart character = true := by
    intro character member
    rcases List.mem_cons.mp member with rfl | later
    · exact isWordPart_of_digit (by decide)
    · have inside : character ∈ mark :: digits := by
        rw [← split]
        exact List.mem_append_left _ later
      rcases List.mem_cons.mp inside with rfl | inDigits
      · exact isWordPart_hexMark marks
      · exact isWordPart_of_hex (hex character inDigits)
  exact @run_append_word _ [] _ parts

/-- Where a letter comes before a digit of a numeral, its run starts with a
digit, or with the exponent behind a final dot. -/
theorem Numeral.run_head {front rest : List Char} {digit : Char}
    (numeral : Numeral (front ++ digit :: rest)) (isDigit : digit.isDigit = true)
    (mixed : ∃ character ∈ run front, character.isDigit = false) :
    opensName ((run front).headD digit) = false ∨
      ∃ whole mark more, front ++ digit :: rest = whole ++ '.' :: mark :: more ∧
        IsDigits whole ∧ mark ∈ ['e', 'E'] ∧ IsDigits more := by
  obtain ⟨letter, member, noDigit⟩ := mixed
  generalize split : front ++ digit :: rest = text at numeral
  cases numeral with
  | decimal decimal =>
      rw [← split] at decimal
      rw [decimal.isDigit_of_mem_run member] at noDigit
      cases noDigit
  | @exponent mantissa digits mark decimal marks isDigits =>
      obtain ⟨between, behind, tail⟩ := mark_in_front decimal
        (mark_not_digit marks) isDigit member noDigit split
      rcases decimal.run_head with ⟨start, more, runs, startDigit⟩ |
        ⟨whole, wholeDigits, pointed⟩
      · left
        have word : run front = start :: (more ++ mark :: between) := by
          rw [behind, run_append_word, runs, List.cons_append]
          intro character member
          rcases List.mem_cons.mp member with rfl | inDigits
          · exact isWordPart_mark marks
          · apply isWordPart_of_digit
            apply isDigits.digits
            rw [tail]
            exact List.mem_append_left _ inDigits
        rw [word]
        exact not_opensName_digit startDigit
      · right
        refine ⟨whole, mark, digits, ?_, wholeDigits, marks, isDigits⟩
        rw [pointed, List.append_assoc]
        rfl
  | @signed mantissa digits mark sign decimal marks signs isDigits =>
      exfalso
      obtain ⟨between, behind, tail⟩ := mark_in_front decimal
        (mark_not_digit marks) isDigit member noDigit split
      cases between with
      | nil =>
          obtain ⟨rfl, _⟩ := List.cons.inj tail
          exact (sign_apart signs).1 isDigit
      | cons second between =>
          obtain ⟨rfl, last⟩ := List.cons.inj tail
          have cut : front = (mantissa ++ [mark] ++ [sign]) ++ between := by
            rw [behind]
            simp
          rw [cut, run_append (run_concat_other (sign_apart signs).2)]
            at member
          have inDigits : letter ∈ digits := by
            rw [last]
            exact List.mem_append_left _ (mem_run member).1
          rw [isDigits.digits letter inDigits] at noDigit
          cases noDigit
  | @hexadecimal digits mark marks present hex =>
      left
      cases front with
      | nil => cases (mem_run member).1
      | cons first front =>
          obtain ⟨rfl, tail⟩ := List.cons.inj split
          have start : opensName '0' = false := not_opensName_digit (by decide)
          rwa [run_hexadecimal marks hex tail]

/-- A text that stands in a statement by itself, outside literals. -/
structure StandsIn (sql : String) (before text after : List Char) : Prop where
  split : sql.toList = before ++ text ++ after
  outside : Outside before
  opens : run before = []
  closes : ∀ next ∈ after.head?, isWordPart next = false

/-- The digits kept are those of names, and none is a digit of a numeral. -/
structure DropsNumbers (sql : String) : Prop where
  names : ∀ place ∈ keptDigits sql, Outside place.1 ∧
    opensName ((run place.1).headD place.2) = true
  numerals : ∀ before numeral after, StandsIn sql before numeral after →
    Numeral numeral → ∀ front digit rest, numeral = front ++ digit :: rest →
      (before ++ front, digit) ∉ keptDigits sql

/-- In a run that starts with neither letter nor underscore only digits come
before a digit, and no exponent follows a final dot. -/
structure PlainNumbers (sql : String) : Prop where
  runs : ∀ before digit rest, sql.toList = before ++ digit :: rest →
    digit.isDigit = true → Outside before →
      opensName ((run before).headD digit) = false →
        ∀ character ∈ run before, character.isDigit = true
  exponents : ∀ before whole mark more after,
    StandsIn sql before (whole ++ '.' :: mark :: more) after → IsDigits whole →
      mark ∈ ['e', 'E'] → ¬ IsDigits more

/-- Digits are kept in names only, and of no numeral, if and only if numbers are
spelled plainly. -/
theorem dropsNumbers_iff (sql : String) : DropsNumbers sql ↔ PlainNumbers sql := by
  constructor
  · intro drops
    constructor
    · intro before digit rest split isDigit outside start
      by_contra letters
      have mixed : ∃ character ∈ run before, character.isDigit = false := by
        simpa using letters
      have kept : (before, digit) ∈ keptDigits sql :=
        mem_keptDigits.mpr
          ⟨⟨rest, split⟩, (keepsDigit_iff isDigit).mpr ⟨outside, mixed⟩⟩
      have named := (drops.names _ kept).2
      rw [start] at named
      cases named
    · intro before whole mark more after stands wholeDigits marks moreDigits
      obtain ⟨digit, rest, rfl⟩ := List.exists_cons_of_ne_nil moreDigits.present
      have isDigit := moreDigits.digits digit (List.mem_cons_self ..)
      have cut : whole ++ '.' :: mark :: digit :: rest =
          (whole ++ ['.'] ++ [mark]) ++ digit :: rest := by
        simp
      have numeral : Numeral (whole ++ '.' :: mark :: digit :: rest) := by
        have pointed : Mantissa (whole ++ '.' :: []) :=
          .pointed wholeDigits (by simp)
        have spelled := Numeral.exponent pointed marks moreDigits
        rwa [List.append_assoc] at spelled
      apply drops.numerals before _ after stands numeral _ digit rest cut
      apply mem_keptDigits.mpr
      refine ⟨⟨rest ++ after, ?_⟩, (keepsDigit_iff isDigit).mpr ⟨?_, ?_⟩⟩
      · rw [stands.split]
        simp
      · apply outside_append stands.outside
        intro member
        simp only [List.mem_append, List.mem_singleton] at member
        rcases member with (inWhole | dot) | last
        · exact absurd (wholeDigits.digits '\'' inWhole) (by decide)
        · exact absurd dot (by decide)
        · rw [← last] at marks
          exact absurd marks (by decide)
      · refine ⟨mark, ?_, ?_⟩
        · rw [run_append stands.opens, run_concat_word (isWordPart_mark marks)]
          simp
        · simpa using mark_not_digit marks
  · intro plain
    constructor
    · rintro ⟨before, digit⟩ kept
      obtain ⟨⟨rest, split⟩, keeps⟩ := mem_keptDigits.mp kept
      have isDigit := isDigit_of_keeps keeps
      obtain ⟨outside, letter, member, noDigit⟩ := (keepsDigit_iff isDigit).mp keeps
      refine ⟨outside, ?_⟩
      by_contra start
      rw [Bool.not_eq_true] at start
      rw [plain.runs before digit rest split isDigit outside start letter member]
        at noDigit
      cases noDigit
    · rintro before numeral after stands isNumeral front digit rest rfl kept
      obtain ⟨⟨tail, split⟩, keeps⟩ := mem_keptDigits.mp kept
      have isDigit := isDigit_of_keeps keeps
      obtain ⟨outside, mixed⟩ := (keepsDigit_iff isDigit).mp keeps
      rw [run_append stands.opens] at mixed
      rcases isNumeral.run_head isDigit mixed with
        start | ⟨whole, mark, more, spelled, wholeDigits, marks, moreDigits⟩
      · obtain ⟨letter, member, noDigit⟩ := mixed
        rw [← run_append stands.opens] at start member
        rw [plain.runs _ digit tail split isDigit outside start letter member]
          at noDigit
        cases noDigit
      · rw [spelled] at stands
        exact plain.exponents before whole mark more after stands wholeDigits marks
          moreDigits

end

/-- The digits behind the letters of a hexadecimal number and of an exponent are
stored. -/
theorem numerals_leak :
    @normalizeQuery asciiLetters.toAlphanumericTable
          "card = 0xFF4111 OR x > 1e5" =
        "card = ?xFF4111 OR x > ?e5" ∧
      ¬ @DropsNumbers asciiLetters "card = 0xFF4111 OR x > 1e5" := by
  constructor
  · apply String.toList_inj.mp
    rw [@normalizeQuery_eq_output asciiLetters.toAlphanumericTable]
    decide
  · intro drops
    let before := "card = 0xFF4111 OR x > 1e".toList
    have kept : (before, '5') ∈ @keptDigits asciiLetters
        "card = 0xFF4111 OR x > 1e5" := by
      apply (@mem_keptDigits asciiLetters _ _ _).mpr
      refine ⟨⟨[], ?_⟩, ?_⟩
      · decide
      · decide
    have named := (@DropsNumbers.names asciiLetters _ drops _ kept).2
    have start : @opensName asciiLetters
        ((@run asciiLetters before).headD '5') = false := by
      decide
    rw [start] at named
    cases named

end Db

end Allstak
