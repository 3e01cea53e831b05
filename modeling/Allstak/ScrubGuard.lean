import Allstak.Scrub
import Allstak.Library.RegexSearch

/-!
# The guard of the scrubber

`scrub_value` calls the scrubber on a string only where a pattern matches.  No
pattern accepts the opening bracket of the marker, so each replacement adds one
bracket and no later pass takes one away: a string that looks sensitive never
comes back unchanged.
-/

namespace Allstak

open Library

/-- The characters of a local part and of a domain. -/
def localPart (character : Char) : Bool :=
  letterOrDigit character || oneOf "._%+-" character

def domainPart (character : Char) : Bool :=
  letterOrDigit character || oneOf ".-" character

theorem EMAIL_eq :
    EMAIL = .seq (oneOrMore localPart) (.seq (.char (· == '@'))
      (.seq (oneOrMore domainPart) (.seq (.char (· == '.'))
        (.seq (.times 2 (.char letter)) (.many true letter))))) := rfl

theorem EMAIL_advances : EMAIL.Advances := by
  rw [EMAIL_eq]
  apply Pattern.Advances.seq_left
  apply Pattern.Advances.seq_left
  exact Pattern.advances_char _

/-- A bracket of the marker. -/
def IsBracket (character : Char) : Prop := character = '[' ∨ character = ']'

theorem EMAIL_refuses {character : Char} (bracket : IsBracket character) :
    EMAIL.accepts character = false := by
  rcases bracket with rfl | rfl <;> decide

/-- One pass: the matches that count become the marker. -/
def pass (pattern : Pattern) (counts : List Char → Bool) (text : List Char) :
    List Char :=
  pattern.replaceAll (fun found => if counts found then REDACTED.toList else found)
    text

section Pass

variable {pattern : Pattern} (advances : pattern.Advances)
  {counts : List Char → Bool} {text : List Char}

include advances

private theorem pass_eq_self
    (none : ∀ found ∈ pattern.findAll text, counts found = false) :
    pass pattern counts text = text := by
  apply Pattern.replaceAll_eq_self advances
  intro found member
  rw [none found member, if_neg (by decide)]

private theorem count_le_pass (refuses : pattern.accepts '[' = false) :
    text.count '[' ≤ (pass pattern counts text).count '[' :=
  Pattern.count_le_replaceAll advances refuses

/-- The marker brings a bracket that was not there. -/
theorem count_lt_pass (refuses : pattern.accepts '[' = false)
    {found : List Char} (member : found ∈ pattern.findAll text)
    (counted : counts found = true) :
    text.count '[' < (pass pattern counts text).count '[' := by
  apply Pattern.count_lt_replaceAll advances refuses member
  rw [counted, if_pos rfl]
  decide

end Pass

theorem pass_of_no_match {pattern : Pattern} (advances : pattern.Advances)
    {text : List Char} (none : pattern.isMatch text = false) :
    pass pattern (fun _ => true) text = text := by
  apply pass_eq_self advances
  intro found member
  rw [Pattern.isMatch_iff.mpr ⟨found, member⟩] at none
  cases none

section

variable [UnicodeTables]

/-- A digit and the separators after it. -/
def cardGroup : Pattern :=
  .seq (.char UnicodeTables.isDecimal) (.many false (oneOf " -"))

theorem CREDIT_CARD_eq :
    CREDIT_CARD = .seq (.boundary UnicodeTables.isWord) (.seq (.times 13 cardGroup)
      (.seq (.upTo 3 cardGroup) (.boundary UnicodeTables.isWord))) := rfl

theorem CREDIT_CARD_ends (cursor : Cursor) :
    CREDIT_CARD.ends cursor =
      (Pattern.delimited UnicodeTables.isWord
        (.seq (.times 13 cardGroup) (.upTo 3 cardGroup))).ends cursor := by
  simp only [CREDIT_CARD_eq, Pattern.delimited, Pattern.ends, List.flatMap_assoc]

def digits (length : Nat) : Pattern :=
  .times length (.char UnicodeTables.isDecimal)

theorem SSN_eq :
    SSN = .seq (.boundary UnicodeTables.isWord) (.seq (digits 3)
      (.seq (.char (oneOf "- ")) (.seq (digits 2) (.seq (.char (oneOf "- "))
        (.seq (digits 4) (.boundary UnicodeTables.isWord)))))) := rfl

theorem SSN_advances : SSN.Advances := by
  rw [SSN_eq]
  apply Pattern.Advances.seq_right
  apply Pattern.Advances.seq_left
  exact (Pattern.advances_char _).times 2

theorem CREDIT_CARD_advances : CREDIT_CARD.Advances := by
  rw [CREDIT_CARD_eq]
  apply Pattern.Advances.seq_right
  apply Pattern.Advances.seq_left
  apply Pattern.Advances.times
  apply Pattern.Advances.seq_left
  exact Pattern.advances_char _

private theorem isDecimal_bracket {character : Char}
    (bracket : IsBracket character) :
    UnicodeTables.isDecimal character = false := by
  rcases bracket with rfl | rfl <;>
    exact UnicodeTables.isDecimal_ascii _ (by decide)

theorem SSN_refuses {character : Char} (bracket : IsBracket character) :
    SSN.accepts character = false := by
  have separator : oneOf "- " character = false := by
    rcases bracket with rfl | rfl <;> decide
  simp [SSN_eq, digits, Pattern.accepts, isDecimal_bracket bracket, separator]

theorem CREDIT_CARD_refuses {character : Char} (bracket : IsBracket character) :
    CREDIT_CARD.accepts character = false := by
  have separator : oneOf " -" character = false := by
    rcases bracket with rfl | rfl <;> decide
  simp [CREDIT_CARD_eq, cardGroup, Pattern.accepts, isDecimal_bracket bracket,
    separator]

theorem scrubString_toList (text : String) :
    (scrubString text).toList =
      pass CREDIT_CARD cardDigits
        (pass EMAIL (fun _ => true) (pass SSN (fun _ => true) text.toList)) := by
  rw [scrubString, String.toList_ofList]
  rfl

/-- A sensitive text gains a bracket: in the first pass that finds something,
the text is still the original one. -/
theorem count_lt_scrubString {text : String}
    (sensitive : looksSensitive text = true) :
    text.toList.count '[' < (scrubString text).toList.count '[' := by
  have ssn := SSN_refuses (.inl rfl)
  have email := EMAIL_refuses (.inl rfl)
  have card := CREDIT_CARD_refuses (.inl rfl)
  have afterEmail (text : List Char) :
      text.count '[' ≤ (pass CREDIT_CARD cardDigits text).count '[' :=
    count_le_pass CREDIT_CARD_advances card
  have afterSsn (text : List Char) : text.count '[' ≤
      (pass CREDIT_CARD cardDigits (pass EMAIL (fun _ => true) text)).count '[' :=
    (count_le_pass EMAIL_advances email).trans (afterEmail _)
  rw [scrubString_toList]
  cases numbers : SSN.isMatch text.toList with
  | true =>
      obtain ⟨found, member⟩ := Pattern.isMatch_iff.mp numbers
      exact (count_lt_pass SSN_advances ssn member rfl).trans_le (afterSsn _)
  | false =>
      rw [pass_of_no_match SSN_advances numbers]
      cases addresses : EMAIL.isMatch text.toList with
      | true =>
          obtain ⟨found, member⟩ := Pattern.isMatch_iff.mp addresses
          exact (count_lt_pass EMAIL_advances email member rfl).trans_le
            (afterEmail _)
      | false =>
          rw [pass_of_no_match EMAIL_advances addresses]
          rw [looksSensitive, addresses, numbers, Bool.or_self, Bool.false_or,
            isCreditCard, List.any_eq_true] at sensitive
          obtain ⟨found, member, counted⟩ := sensitive
          exact count_lt_pass CREDIT_CARD_advances card member counted

theorem scrubString_of_harmless {text : String}
    (harmless : looksSensitive text = false) : scrubString text = text := by
  rw [looksSensitive, Bool.or_eq_false_iff, Bool.or_eq_false_iff,
    isCreditCard] at harmless
  obtain ⟨⟨addresses, numbers⟩, cards⟩ := harmless
  apply String.toList_inj.mp
  rw [scrubString_toList, pass_of_no_match SSN_advances numbers,
    pass_of_no_match EMAIL_advances addresses]
  apply pass_eq_self CREDIT_CARD_advances
  intro found member
  simpa using List.any_eq_false.mp cards found member

/-- A string looks sensitive exactly when scrubbing changes it, so the guard
makes no difference to what becomes of a string. -/
theorem looksSensitive_iff_scrubString_ne (text : String) :
    (looksSensitive text = true ↔ scrubString text ≠ text) ∧
      scrubValue (.string text) = .string (scrubString text) := by
  constructor
  · constructor
    · intro sensitive unchanged
      have more := count_lt_scrubString sensitive
      rw [unchanged] at more
      exact absurd more (Nat.lt_irrefl _)
    · intro changed
      by_contra harmless
      exact changed (scrubString_of_harmless (Bool.eq_false_of_not_eq_true harmless))
  · rw [scrubValue]
    cases sensitive : looksSensitive text with
    | true => rfl
    | false => rw [scrubString_of_harmless sensitive, if_neg (by decide)]

end

end Allstak
