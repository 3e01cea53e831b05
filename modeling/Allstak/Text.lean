import Mathlib.Data.List.Infix
import Mathlib.Data.List.TakeWhile

/-!
# Text functions of the standard library

The ASCII functions act on `A`-`Z` only and leave every other character alone.
The character classes that rest on the Unicode tables are a class, because the
tables belong to the standard library and the regex crate.
-/

namespace Allstak

/-- The Unicode classes the SDK's patterns refer to, `\d` and `\w`. -/
class UnicodeTables where
  isDecimal : Char → Bool
  isWord : Char → Bool
  isWord_of_isDecimal : ∀ character, isDecimal character = true →
    isWord character = true
  isDecimal_ascii : ∀ character, character.val < 128 →
    isDecimal character = character.isDigit
  isWord_ascii : ∀ character, character.val < 128 →
    isWord character = (character.isAlphanum || character == '_')

/-- The tables restricted to ASCII, enough for ASCII texts. -/
@[reducible] def asciiTables : UnicodeTables where
  isDecimal := Char.isDigit
  isWord character := character.isAlphanum || character == '_'
  isWord_of_isDecimal := by
    intro character digit
    simp [Char.isAlphanum, digit]
  isDecimal_ascii _ _ := rfl
  isWord_ascii _ _ := rfl

namespace Text

/-- `str::to_ascii_lowercase`. -/
def toAsciiLowercase (text : String) : String :=
  String.ofList (text.toList.map Char.toLower)

/-- `str::contains` for a string needle. -/
def contains (text needle : String) : Bool :=
  decide (needle.toList <:+: text.toList)

/-- The characters with the Unicode `White_Space` property. -/
def isWhitespace (character : Char) : Bool :=
  let code := character.val
  (9 ≤ code && code ≤ 13) || code == 0x20 || code == 0x85 || code == 0xA0 ||
    code == 0x1680 || (0x2000 ≤ code && code ≤ 0x200A) || code == 0x2028 ||
    code == 0x2029 || code == 0x202F || code == 0x205F || code == 0x3000

/-- `str::trim`, on the characters of the text. -/
def trim (text : List Char) : List Char :=
  ((text.dropWhile isWhitespace).reverse.dropWhile isWhitespace).reverse

/-- `str::split` at a character. -/
def split (separator : Char) : List Char → List (List Char)
  | [] => [[]]
  | character :: rest =>
      if character = separator then [] :: split separator rest
      else
        match split separator rest with
        | [] => [[character]]
        | part :: parts => (character :: part) :: parts

def isAsciiHexdigit (character : Char) : Bool :=
  character.isDigit || ('a' ≤ character && character ≤ 'f') ||
    ('A' ≤ character && character ≤ 'F')

/-- A shifted letter lies past `Z`. -/
theorem toLower_toLower (character : Char) :
    character.toLower.toLower = character.toLower := by
  unfold Char.toLower
  split
  · rename_i upper
    apply dif_neg
    rintro ⟨_, still⟩
    have low := UInt32.le_iff_toNat_le.mp upper.1
    have high := UInt32.le_iff_toNat_le.mp upper.2
    have shifted := UInt32.le_iff_toNat_le.mp still
    simp only [UInt32.toNat_add] at shifted
    simp at low high shifted
    omega
  · rfl

theorem split_of_not_mem {separator : Char} {part : List Char}
    (absent : separator ∉ part) : split separator part = [part] := by
  induction part with
  | nil => rfl
  | cons character part induction =>
      rw [List.mem_cons, not_or] at absent
      rw [split, if_neg (Ne.symm absent.1), induction absent.2]

/-- The text up to the first separator is the first part. -/
theorem split_append {separator : Char} {part rest : List Char}
    (absent : separator ∉ part) :
    split separator (part ++ separator :: rest) = part :: split separator rest := by
  induction part with
  | nil => rw [List.nil_append, split, if_pos rfl]
  | cons character part induction =>
      rw [List.mem_cons, not_or] at absent
      rw [List.cons_append, split, if_neg (Ne.symm absent.1), induction absent.2]

/-- A text that neither starts nor ends with whitespace. -/
theorem trim_eq_self {first last : Char} {middle : List Char}
    (starts : isWhitespace first = false) (ends : isWhitespace last = false) :
    trim (first :: middle ++ [last]) = first :: middle ++ [last] := by
  simp [trim, starts, ends]

/-- Whitespace only. -/
def IsBlank (text : List Char) : Prop :=
  ∀ character ∈ text, isWhitespace character = true

theorem dropWhile_blank {blank : List Char} (whites : IsBlank blank)
    (text : List Char) :
    (blank ++ text).dropWhile isWhitespace = text.dropWhile isWhitespace :=
  List.dropWhile_append_of_pos whites

/-- A text without whitespace is what is left of it between blanks. -/
theorem trim_enclosed {before core after : List Char} (opening : IsBlank before)
    (closing : IsBlank after)
    (solid : ∀ character ∈ core, isWhitespace character = false) :
    trim (before ++ core ++ after) = core := by
  have stops : ∀ text : List Char,
      (∀ character ∈ text, isWhitespace character = false) →
        text.dropWhile isWhitespace = text := by
    intro text solid
    apply List.dropWhile_eq_self_iff.mpr
    intro positive
    simp [solid _ (List.getElem_mem positive)]
  have reversed : IsBlank after.reverse := by
    intro character member
    exact closing character (List.mem_reverse.mp member)
  rw [trim, List.append_assoc, dropWhile_blank opening]
  by_cases empty : core = []
  · rw [empty, List.nil_append, List.dropWhile_eq_nil_iff.mpr closing]
    rfl
  · obtain ⟨first, rest, rfl⟩ := List.exists_cons_of_ne_nil empty
    have starts : (first :: rest ++ after).dropWhile isWhitespace =
        first :: rest ++ after := by
      simp [solid first (List.mem_cons_self ..)]
    rw [starts, List.reverse_append, dropWhile_blank reversed, stops,
      List.reverse_reverse]
    intro character member
    exact solid character (List.mem_reverse.mp member)

/-- A text is its trimmed form between blanks. -/
theorem exists_blanks (text : List Char) :
    ∃ before after, IsBlank before ∧ IsBlank after ∧
      text = before ++ trim text ++ after := by
  let rest := text.dropWhile isWhitespace
  refine ⟨text.takeWhile isWhitespace,
    (rest.reverse.takeWhile isWhitespace).reverse, ?_, ?_, ?_⟩
  · intro character member
    exact List.mem_takeWhile_imp member
  · intro character member
    exact List.mem_takeWhile_imp (List.mem_reverse.mp member)
  · have inner : rest =
        trim text ++ (rest.reverse.takeWhile isWhitespace).reverse := by
      rw [trim, ← List.reverse_append, List.takeWhile_append_dropWhile,
        List.reverse_reverse]
    rw [List.append_assoc, ← inner, List.takeWhile_append_dropWhile]

theorem dropWhile_head {test : Char → Bool} {text rest : List Char}
    {first : Char} (dropped : text.dropWhile test = first :: rest) :
    test first = false := by
  have stops := List.head_dropWhile_not test (l := text)
    (by rw [dropped]; exact List.cons_ne_nil first rest)
  simpa only [dropped, List.head_cons] using stops

/-- A trimmed text does not start with whitespace. -/
theorem trim_first {text rest : List Char} {first : Char}
    (trimmed : trim text = first :: rest) : isWhitespace first = false := by
  obtain ⟨front, split⟩ : ∃ back, text.dropWhile isWhitespace =
      trim text ++ back := by
    obtain ⟨dropped, same⟩ := List.dropWhile_suffix isWhitespace
      (l := (text.dropWhile isWhitespace).reverse)
    refine ⟨dropped.reverse, ?_⟩
    rw [trim, ← List.reverse_append, same, List.reverse_reverse]
  rw [trimmed] at split
  exact dropWhile_head split

/-- A trimmed text does not end with whitespace. -/
theorem trim_last {text front : List Char} {last : Char}
    (trimmed : trim text = front ++ [last]) : isWhitespace last = false := by
  have turned := congrArg List.reverse trimmed
  rw [trim, List.reverse_reverse, List.reverse_concat] at turned
  exact dropWhile_head turned

theorem trim_trim (text : List Char) : trim (trim text) = trim text := by
  cases trimmed : trim text with
  | nil => rfl
  | cons first rest =>
      have starts := trim_first trimmed
      rcases List.eq_nil_or_concat rest with rfl | ⟨middle, last, rfl⟩
      · simp [trim, starts]
      · rw [List.concat_eq_append, ← List.cons_append] at trimmed ⊢
        exact trim_eq_self starts (trim_last trimmed)

theorem exists_parts (separator : Char) (text : List Char) :
    ∃ part parts, split separator text = part :: parts := by
  cases text with
  | nil => exact ⟨_, _, rfl⟩
  | cons character text =>
      rw [split]
      split
      · exact ⟨_, _, rfl⟩
      · split
        · exact ⟨_, _, rfl⟩
        · exact ⟨_, _, rfl⟩

/-- The parts of a split text, joined again. -/
theorem intercalate_split (separator : Char) (text : List Char) :
    List.intercalate [separator] (split separator text) = text := by
  induction text with
  | nil => rfl
  | cons character text induction =>
      rw [split]
      split
      · rename_i separates
        obtain ⟨part, parts, cut⟩ := exists_parts separator text
        rw [cut, List.intercalate_cons_cons, ← cut, induction, separates]
        rfl
      · split
        · rename_i nothing
          rw [nothing] at induction
          rw [← induction]
          rfl
        · rename_i part parts cut
          rw [cut] at induction
          rw [← induction]
          cases parts with
          | nil => simp [List.intercalate_singleton]
          | cons next parts => simp [List.intercalate_cons_cons]

end Text

end Allstak
