import Allstak.Library.RegexEnclosed
import Allstak.ScrubGuard

/-!
# What the passes leave behind

No pattern sees the marker, so the result of the three passes is searched part
by part.  A part holds no e-mail address and no card; it can hold a social
security number whose boundary an e-mail address took away before.
-/

namespace Allstak

open Library

private theorem redacted_toList :
    REDACTED.toList = '[' :: "redacted".toList ++ [']'] := by
  decide

private theorem EMAIL_boundaries : EMAIL.boundaries = [] := rfl

private theorem EMAIL_inert : EMAIL.Inert REDACTED.toList := by
  have refuses {bracket : Char} (is : IsBracket bracket) :
      EMAIL.Refuses bracket :=
    ⟨EMAIL_refuses is, by simp [EMAIL_boundaries]⟩
  rw [redacted_toList]
  exact Pattern.inert_of_refuses EMAIL_advances (refuses (.inl rfl))
    (refuses (.inr rfl)) (by decide)

private theorem mem_upToEnds_self {ends : Cursor → List Cursor} (extra : Nat)
    (cursor : Cursor) : cursor ∈ Pattern.upToEnds ends extra cursor := by
  cases extra with
  | zero => exact List.mem_singleton_self _
  | succ extra => exact List.mem_append_right _ (List.mem_singleton_self _)

/-- A lazy repetition stays first, and goes on over accepted characters only. -/
theorem runEnds_lazy (accepts : Char → Bool) (last : Option Char)
    (rest : List Char) :
    ∃ more, Pattern.runEnds false accepts last rest = ⟨last, rest⟩ :: more ∧
      (rest.head?.any accepts = false → more = []) := by
  cases rest with
  | nil => exact ⟨[], rfl, fun _ => rfl⟩
  | cons head rest =>
      cases accepted : accepts head with
      | true => exact ⟨_, by simp [Pattern.runEnds, accepted]; rfl, by simp [accepted]⟩
      | false => exact ⟨[], by simp [Pattern.runEnds, accepted], fun _ => rfl⟩

theorem last_of_timesEnds {accepts : Char → Bool} {count : Nat}
    {cursor after : Cursor}
    (member : after ∈
      Pattern.timesEnds (Pattern.char accepts).ends (count + 1) cursor) :
    after.last.any accepts = true := by
  induction count generalizing cursor with
  | zero =>
      obtain ⟨middle, first, stays⟩ := List.mem_flatMap.mp member
      obtain ⟨last, head, rest, -, accepted, reached⟩ :=
        Pattern.mem_ends_char first
      rw [List.mem_singleton.mp stays, reached]
      exact accepted
  | succ count induction =>
      obtain ⟨middle, -, later⟩ := List.mem_flatMap.mp member
      exact induction later

section

variable [UnicodeTables]

private theorem isWord_bracket {character : Char}
    (bracket : IsBracket character) :
    UnicodeTables.isWord character = false := by
  rcases bracket with rfl | rfl <;>
    exact UnicodeTables.isWord_ascii _ (by decide)

private theorem isDecimal_redacted : ∀ character ∈ '[' :: "redacted".toList,
    UnicodeTables.isDecimal character = false := by
  have ascii : ('[' :: "redacted".toList).all (fun character =>
      decide (character.val < 128 ∧ character.isDigit = false)) = true := by
    decide
  intro character member
  have plain := of_decide_eq_true (List.all_eq_true.mp ascii character member)
  rw [UnicodeTables.isDecimal_ascii character plain.1]
  exact plain.2

private theorem SSN_inert : SSN.Inert REDACTED.toList := by
  have refuses {bracket : Char} (is : IsBracket bracket) :
      SSN.Refuses bracket :=
    ⟨SSN_refuses is, by simp [SSN_eq, digits, Pattern.boundaries, isWord_bracket is]⟩
  rw [redacted_toList]
  exact Pattern.inert_of_refuses SSN_advances (refuses (.inl rfl))
    (refuses (.inr rfl)) (SSN_findAll_of_no_decimal isDecimal_redacted)

private theorem CREDIT_CARD_inert : CREDIT_CARD.Inert REDACTED.toList := by
  have refuses {bracket : Char} (is : IsBracket bracket) :
      CREDIT_CARD.Refuses bracket :=
    ⟨CREDIT_CARD_refuses is, by
      simp [CREDIT_CARD_eq, cardGroup, Pattern.boundaries, isWord_bracket is]⟩
  rw [redacted_toList]
  exact Pattern.inert_of_refuses CREDIT_CARD_advances (refuses (.inl rfl))
    (refuses (.inr rfl)) (CREDIT_CARD_findAll_of_no_decimal isDecimal_redacted)

/-- The parts of a text that no pass replaces: it is cut at the social security
numbers, each part at its e-mail addresses, and each of those at its cards. -/
def leftovers (text : List Char) : List (List Char) :=
  ((SSN.parts (fun _ => true) text).flatMap (EMAIL.parts fun _ => true)).flatMap
    (CREDIT_CARD.parts cardDigits)

theorem marked_leftovers (text : String) :
    REDACTED.toList ++ (scrubString text).toList =
      Pattern.marked REDACTED.toList (leftovers text.toList) := by
  have first := Pattern.replaceAll_eq_marked (fun _ => true) SSN REDACTED.toList
    text.toList
  have second := Pattern.replaceAll_of_marked EMAIL_advances EMAIL_inert first
    (fun _ => true)
  rw [scrubString_toList]
  exact Pattern.replaceAll_of_marked CREDIT_CARD_advances CREDIT_CARD_inert
    second cardDigits

/-- The preferred boundary in a list of places comes after a word character. -/
def PrefersWord (cursors : List Cursor) : Prop :=
  ∀ after, cursors.find? (Pattern.atBoundary UnicodeTables.isWord) = some after →
    after.last.any UnicodeTables.isWord = true

theorem PrefersWord.flatMap {cursors : List Cursor} {ends : Cursor → List Cursor}
    (each : ∀ cursor ∈ cursors, PrefersWord (ends cursor)) :
    PrefersWord (cursors.flatMap ends) := by
  intro after found
  rw [List.find?_flatMap] at found
  obtain ⟨cursor, member, found⟩ := List.exists_of_findSome?_eq_some found
  exact each cursor member after found

private theorem isWord_separator {character : Char}
    (separator : oneOf " -" character = true) :
    UnicodeTables.isWord character = false := by
  have either : character = ' ' ∨ character = '-' := by
    simpa [oneOf] using separator
  rcases either with rfl | rfl <;>
    exact UnicodeTables.isWord_ascii _ (by decide)

private theorem mem_cardGroup_ends {last : Option Char} {digit : Char}
    {rest : List Char} (decimal : UnicodeTables.isDecimal digit = true) :
    cardGroup.ends ⟨last, digit :: rest⟩ =
      Pattern.runEnds false (oneOf " -") (some digit) rest := by
  simp [cardGroup, Pattern.ends, decimal]

/-- Separators after a digit are tried last: the place right after the digit is
a boundary if any follow, and it is preferred. -/
theorem PrefersWord.cardGroup {ends : Cursor → List Cursor}
    (self : ∀ cursor, cursor ∈ ends cursor)
    (prefers : ∀ cursor : Cursor,
      cursor.last.any UnicodeTables.isWord = true → PrefersWord (ends cursor))
    (cursor : Cursor) :
    PrefersWord ((cardGroup.ends cursor).flatMap ends) := by
  obtain ⟨last, rest⟩ := cursor
  intro after found
  cases rest with
  | nil => cases found
  | cons digit rest =>
      cases decimal : UnicodeTables.isDecimal digit with
      | false =>
          simp [Allstak.cardGroup, Pattern.ends, decimal] at found
      | true =>
          have word := UnicodeTables.isWord_of_isDecimal digit decimal
          obtain ⟨more, tried, only⟩ := runEnds_lazy (oneOf " -") (some digit) rest
          rw [mem_cardGroup_ends decimal, tried, List.flatMap_cons,
            List.find?_append] at found
          cases early : (ends ⟨some digit, rest⟩).find?
              (Pattern.atBoundary UnicodeTables.isWord) with
          | some first =>
              rw [early, Option.some_or, Option.some.injEq] at found
              rw [← found]
              exact prefers ⟨some digit, rest⟩ (by simpa using word) first early
          | none =>
              have stays := List.find?_eq_none.mp early _ (self _)
              have next : rest.head?.any UnicodeTables.isWord = true := by
                simpa [Pattern.atBoundary, word] using stays
              have noSeparator : rest.head?.any (oneOf " -") = false := by
                cases rest with
                | nil => rfl
                | cons head rest =>
                    by_contra separator
                    have plain := isWord_separator
                      (Bool.eq_true_of_not_eq_false separator)
                    rw [List.head?_cons, Option.any_some, plain] at next
                    cases next
              rw [early, only noSeparator] at found
              cases found

private theorem PrefersWord.singleton {cursor : Cursor}
    (word : cursor.last.any UnicodeTables.isWord = true) :
    PrefersWord [cursor] := by
  intro after found
  rw [List.mem_singleton.mp (List.mem_of_find?_eq_some found)]
  exact word

theorem PrefersWord.append {cursors others : List Cursor}
    (first : PrefersWord cursors) (second : PrefersWord others) :
    PrefersWord (cursors ++ others) := by
  intro after found
  rw [List.find?_append, Option.or_eq_some_iff] at found
  rcases found with found | ⟨-, found⟩
  · exact first after found
  · exact second after found

theorem PrefersWord.upTo (extra : Nat) {cursor : Cursor}
    (word : cursor.last.any UnicodeTables.isWord = true) :
    PrefersWord (Pattern.upToEnds Allstak.cardGroup.ends extra cursor) := by
  induction extra generalizing cursor with
  | zero => exact .singleton word
  | succ extra induction =>
      rw [Pattern.upToEnds]
      exact .append
        (.cardGroup (mem_upToEnds_self extra) (fun _ => induction) cursor)
        (.singleton word)

theorem PrefersWord.times (count extra : Nat) (cursor : Cursor) :
    PrefersWord ((Pattern.timesEnds Allstak.cardGroup.ends (count + 1)
      cursor).flatMap (Pattern.upToEnds Allstak.cardGroup.ends extra)) := by
  induction count generalizing cursor with
  | zero =>
      simp only [Pattern.timesEnds, List.flatMap_singleton']
      exact .cardGroup (mem_upToEnds_self extra) (fun _ => .upTo extra) cursor
  | succ count induction =>
      rw [Pattern.timesEnds, List.flatMap_assoc]
      exact .flatMap fun middle _ => induction middle

theorem CREDIT_CARD_enclosed :
    CREDIT_CARD.Enclosed UnicodeTables.isWord
      (.seq (.times 13 cardGroup) (.upTo 3 cardGroup)) where
  advances := CREDIT_CARD_advances
  shape := CREDIT_CARD_ends
  free := rfl
  opens := by
    intro cursor after member
    obtain ⟨_, member, -, -⟩ := Pattern.mem_ends_seq member
    obtain ⟨_, member, -⟩ := List.mem_flatMap.mp member
    obtain ⟨_, member, -, -⟩ := Pattern.mem_ends_seq member
    obtain ⟨last, head, rest, rfl, decimal, -⟩ := Pattern.mem_ends_char member
    exact UnicodeTables.isWord_of_isDecimal head decimal
  closes := by
    intro cursor after first
    rw [CREDIT_CARD_ends, Pattern.ends_delimited] at first
    split at first
    · rw [List.head?_filter] at first
      exact PrefersWord.times 12 3 cursor after first
    · cases first

/-- The digits and separators of a social security number. -/
def ssnCore : Pattern :=
  .seq (digits 3) (.seq (.char (oneOf "- ")) (.seq (digits 2)
    (.seq (.char (oneOf "- ")) (digits 4))))

private theorem SSN_ends (cursor : Cursor) :
    SSN.ends cursor =
      (Pattern.delimited UnicodeTables.isWord ssnCore).ends cursor := by
  simp only [SSN_eq, ssnCore, Pattern.delimited, Pattern.ends, List.flatMap_assoc]

theorem SSN_enclosed : SSN.Enclosed UnicodeTables.isWord ssnCore where
  advances := SSN_advances
  shape := SSN_ends
  free := rfl
  opens := by
    intro cursor after member
    obtain ⟨_, member, -, -⟩ := Pattern.mem_ends_seq member
    obtain ⟨_, member, -⟩ := List.mem_flatMap.mp member
    obtain ⟨last, head, rest, rfl, decimal, -⟩ := Pattern.mem_ends_char member
    exact UnicodeTables.isWord_of_isDecimal head decimal
  closes := by
    intro cursor after first
    have member := List.mem_of_head? first
    rw [SSN_ends, Pattern.mem_ends_delimited] at member
    obtain ⟨-, member, -⟩ := member
    obtain ⟨_, -, member, -⟩ := Pattern.mem_ends_seq member
    obtain ⟨_, -, member, -⟩ := Pattern.mem_ends_seq member
    obtain ⟨_, -, member, -⟩ := Pattern.mem_ends_seq member
    obtain ⟨_, -, member, -⟩ := Pattern.mem_ends_seq member
    have decimal := last_of_timesEnds member
    rw [Option.any_eq_true] at decimal ⊢
    obtain ⟨digit, last, accepted⟩ := decimal
    exact ⟨digit, last, UnicodeTables.isWord_of_isDecimal digit accepted⟩

theorem leftover_quiet {text part : List Char}
    (member : part ∈ leftovers text) :
    EMAIL.findAll part = [] ∧ isCreditCard part = false := by
  obtain ⟨between, outer, inner⟩ := List.mem_flatMap.mp member
  obtain ⟨rest, -, within⟩ := List.mem_flatMap.mp outer
  constructor
  · obtain ⟨before, beyond, place⟩ :=
      Pattern.partAt_of_mem_parts CREDIT_CARD_advances inner
    exact Pattern.findAll_eq_nil_of_mem_parts EMAIL_advances EMAIL_boundaries
      within place.isInfix
  · rw [isCreditCard, List.any_eq_false]
    intro found here
    rw [CREDIT_CARD_enclosed.quiet_of_mem_parts inner here]
    exact Bool.false_ne_true

/-- The result looks sensitive only by a social security number in a part. -/
theorem looksSensitive_scrubString (text : String) :
    looksSensitive (scrubString text) =
      (leftovers text.toList).any SSN.isMatch := by
  have same := marked_leftovers text
  have addresses : EMAIL.findAll (scrubString text).toList = [] := by
    rw [Pattern.findAll_of_marked EMAIL_advances EMAIL_inert same,
      List.flatMap_eq_nil_iff]
    exact fun part member => (leftover_quiet member).1
  have cards : isCreditCard (scrubString text).toList = false := by
    rw [isCreditCard,
      Pattern.findAll_of_marked CREDIT_CARD_advances CREDIT_CARD_inert same,
      List.any_flatMap, List.any_eq_false]
    intro part member
    have quiet := (leftover_quiet member).2
    rw [isCreditCard] at quiet
    rw [quiet]
    exact Bool.false_ne_true
  have numbers : SSN.isMatch (scrubString text).toList =
      (leftovers text.toList).any SSN.isMatch := by
    rw [Pattern.isMatch,
      Pattern.findAll_of_marked SSN_advances SSN_inert same]
    induction leftovers text.toList with
    | nil => rfl
    | cons part parts induction =>
        rw [List.flatMap_cons, List.any_cons, ← induction, Pattern.isMatch]
        cases SSN.findAll part <;> rfl
  rw [looksSensitive, Pattern.isMatch, addresses, numbers, cards]
  simp

private theorem harmless_scrubString_iff (text : String) :
    looksSensitive (scrubString text) = false ↔
      ∀ part ∈ leftovers text.toList, SSN.isMatch part = false := by
  rw [looksSensitive_scrubString, List.any_eq_false]
  simp only [Bool.not_eq_true]

/-- Scrubbing is complete, and so idempotent, exactly where no part that is left
between the markers holds a social security number on its own. -/
theorem scrubString_complete_iff (text : String) :
    (looksSensitive (scrubString text) = false ∧
      scrubString (scrubString text) = scrubString text) ↔
    ∀ part ∈ leftovers text.toList, SSN.isMatch part = false := by
  rw [← harmless_scrubString_iff]
  constructor
  · exact fun complete => complete.1
  · exact fun harmless => ⟨harmless, scrubString_of_harmless harmless⟩

/-- It takes an e-mail address to hide a social security number. -/
theorem scrubString_complete_of_no_email {text : String}
    (none : EMAIL.findAll text.toList = []) :
    looksSensitive (scrubString text) = false := by
  rw [harmless_scrubString_iff]
  intro part member
  obtain ⟨between, outer, inner⟩ := List.mem_flatMap.mp member
  obtain ⟨rest, first, within⟩ := List.mem_flatMap.mp outer
  obtain ⟨before, beyond, place⟩ := Pattern.partAt_of_mem_parts SSN_advances first
  have noEmail := Pattern.findAll_eq_nil_of_isInfix EMAIL_advances
    EMAIL_boundaries none place.isInfix
  rw [Pattern.parts_of_findAll_nil _ EMAIL_advances noEmail,
    List.mem_singleton] at within
  subst within
  have noNumber : SSN.findAll between = [] := by
    rw [List.eq_nil_iff_forall_not_mem]
    intro found here
    cases SSN_enclosed.quiet_of_mem_parts first here
  rw [Pattern.isMatch,
    SSN_enclosed.findAll_part_eq_nil CREDIT_CARD_enclosed noNumber inner]
  rfl

end

/-- An e-mail address that ends where a social security number begins. -/
theorem scrubString_leaves_number :
    @scrubString asciiTables "a@b.co123-45-6789" = "[redacted]123-45-6789" ∧
      @looksSensitive asciiTables (@scrubString asciiTables "a@b.co123-45-6789") =
        true := by
  decide

end Allstak
