import Allstak.QueryFingerprint

/-!
# The fields of sqlx events

A statement reaches the layer as a text, or as the `Debug` rendering of a text,
whose quotes and escapes are taken off again.  Which characters are rendered as
they are is a parameter, because the table belongs to the standard library.
-/

namespace Allstak

/-- The characters `Debug` renders as they are, outside the escapes it has names
for: those that are printable and extend no grapheme. -/
class PrintableTable where
  isPrinted : Char → Bool
  isPrinted_ascii : ∀ character, character.val < 128 →
    isPrinted character = (32 ≤ character.val && character.val != 127)

/-- The table restricted to ASCII. -/
@[reducible] def asciiPrintable : PrintableTable where
  isPrinted character :=
    character.val < 128 && 32 ≤ character.val && character.val != 127
  isPrinted_ascii := by
    intro character ascii
    simp [ascii]

namespace Text

/-- `str::replace`, for a needle of two characters and one in its place. -/
def replacePair (first second replacement : Char) : List Char → List Char
  | character :: next :: rest =>
      if character = first ∧ next = second then
        replacement :: replacePair first second replacement rest
      else character :: replacePair first second replacement (next :: rest)
  | text => text

section

variable {first second replacement : Char}

private theorem replacePair_pair (rest : List Char) :
    replacePair first second replacement (first :: second :: rest) =
      replacement :: replacePair first second replacement rest := by
  rw [replacePair, if_pos ⟨rfl, rfl⟩]

private theorem replacePair_of_ne {character : Char} (apart : character ≠ first)
    (rest : List Char) :
    replacePair first second replacement (character :: rest) =
      character :: replacePair first second replacement rest := by
  cases rest with
  | nil => rfl
  | cons next rest => rw [replacePair, if_neg fun same => apart same.1]

private theorem replacePair_of_next_ne {next : Char} (apart : next ≠ second)
    (rest : List Char) :
    replacePair first second replacement (first :: next :: rest) =
      first :: replacePair first second replacement (next :: rest) := by
  rw [replacePair, if_neg fun same => apart same.2]

end

/-- Every pair replaced takes one of its first characters and leaves one
replacement. -/
theorem count_replacePair {first second replacement : Char}
    (apart : first ≠ second) (other : replacement ≠ first)
    (inner : replacement ≠ second) (text : List Char) :
    (replacePair first second replacement text).count first +
        (replacePair first second replacement text).count replacement =
      text.count first + text.count replacement := by
  fun_induction replacePair first second replacement text with
  | case1 character next rest pair induction =>
      obtain ⟨rfl, rfl⟩ := pair
      simp [other, other.symm, apart.symm, inner.symm]
      omega
  | case2 character next rest different induction =>
      generalize next :: rest = tail at induction ⊢
      rw [List.count_cons, List.count_cons, List.count_cons, List.count_cons]
      omega
  | case3 text short => rfl

/-- Where the second character of a pair is left, only first ones go. -/
theorem count_replacePair_second {first second kept : Char}
    (apart : kept ≠ first) (text : List Char) :
    (replacePair first second second text).count kept = text.count kept := by
  fun_induction replacePair first second second text with
  | case1 character next rest pair induction =>
      obtain ⟨rfl, rfl⟩ := pair
      rw [List.count_cons_of_ne apart.symm, List.count_cons, List.count_cons,
        induction]
  | case2 character next rest different induction =>
      generalize next :: rest = tail at induction ⊢
      rw [List.count_cons, List.count_cons, induction]
  | case3 text short => rfl

/-- Not more first characters go than second ones are left. -/
theorem count_le_replacePair {first second : Char} (apart : first ≠ second)
    (text : List Char) :
    text.count first ≤ (replacePair first second second text).count first +
      (replacePair first second second text).count second := by
  fun_induction replacePair first second second text with
  | case1 character next rest pair induction =>
      obtain ⟨rfl, rfl⟩ := pair
      simp [apart.symm]
      omega
  | case2 character next rest different induction =>
      generalize next :: rest = tail at induction ⊢
      rw [List.count_cons, List.count_cons, List.count_cons]
      omega
  | case3 text short => exact Nat.le_add_right ..

end Text

section

variable [PrintableTable]

/-- What `Debug` makes of one character of a text. -/
def escapeDebug (character : Char) : List Char :=
  if character = '\x00' then ['\\', '0']
  else if character = '\t' then ['\\', 't']
  else if character = '\r' then ['\\', 'r']
  else if character = '\n' then ['\\', 'n']
  else if character = '\\' then ['\\', '\\']
  else if character = '"' then ['\\', '"']
  else if PrintableTable.isPrinted character then [character]
  else
    ['\\', 'u', '\x7b'] ++
      (Db.hexDigits 6 character.toNat).dropWhile (· == '0') ++ ['\x7d']

/-- The `Debug` rendering of a text. -/
def debug (text : String) : String :=
  String.ofList ('"' :: text.toList.flatMap escapeDebug ++ ['"'])

end

/-- Take the quotes off a `Debug` rendering. -/
def stripQuotes (text : String) : String :=
  let trimmed := Text.trim text.toList
  if 2 ≤ trimmed.length ∧ trimmed.head? = some '"' ∧
      trimmed.getLast? = some '"' then
    String.ofList (Text.replacePair '\\' '"' '"'
      (Text.replacePair '\\' 'n' '\n' (trimmed.drop 1).dropLast))
  else String.ofList trimmed

/-- The texts the layer reads from an event. -/
structure SqlxVisitor where
  summary : Option String := none
  statement : Option String := none
  message : Option String := none

namespace SqlxVisitor

/-- Keep the text of a field the layer reads. -/
def store (field text : String) (visitor : SqlxVisitor) : SqlxVisitor :=
  match field with
  | "summary" => { visitor with summary := some text }
  | "db.statement" => { visitor with statement := some text }
  | "message" => { visitor with message := some text }
  | _ => visitor

def recordStr (field value : String) : SqlxVisitor → SqlxVisitor :=
  store field value

/-- A value that comes as its `Debug` rendering. -/
def recordDebug (field rendering : String) : SqlxVisitor → SqlxVisitor :=
  store field (stripQuotes rendering)

end SqlxVisitor

section

variable [PrintableTable]

/-- What comes of a character, with what the escapes have in common. -/
inductive Escapes : Char → List Char → Prop
  | newline : Escapes '\n' ['\\', 'n']
  | backslash : Escapes '\\' ['\\', '\\']
  | quote : Escapes '"' ['\\', '"']
  | plain {character : Char} (newline : character ≠ '\n')
      (backslash : character ≠ '\\') (quote : character ≠ '"')
      (printed : PrintableTable.isPrinted character = true) :
      Escapes character [character]
  | other {character : Char} {rest : List Char} (newline : character ≠ '\n')
      (backslash : character ≠ '\\') (quote : character ≠ '"')
      (unprinted : PrintableTable.isPrinted character = false)
      (visible : '\n' ∉ rest) : Escapes character ('\\' :: rest)

private theorem isPrinted_control {character : Char}
    (control : character.val < 32) :
    PrintableTable.isPrinted character = false := by
  have ascii : character.val < 128 := Nat.lt_trans control (by decide)
  rw [PrintableTable.isPrinted_ascii character ascii, Bool.and_eq_false_iff]
  exact .inl (decide_eq_false (Nat.not_le.mpr control))

private theorem isPrinted_quote : PrintableTable.isPrinted '"' = true :=
  PrintableTable.isPrinted_ascii '"' (by decide)

theorem escapes (character : Char) :
    Escapes character (escapeDebug character) := by
  rw [escapeDebug]
  split
  · rename_i same
    rw [same]
    exact .other (by decide) (by decide) (by decide)
      (isPrinted_control (by decide)) (by decide)
  split
  · rename_i same
    rw [same]
    exact .other (by decide) (by decide) (by decide)
      (isPrinted_control (by decide)) (by decide)
  split
  · rename_i same
    rw [same]
    exact .other (by decide) (by decide) (by decide)
      (isPrinted_control (by decide)) (by decide)
  split
  · rename_i same
    rw [same]
    exact .newline
  split
  · rename_i same
    rw [same]
    exact .backslash
  split
  · rename_i same
    rw [same]
    exact .quote
  split
  · exact .plain ‹_› ‹_› ‹_› ‹_›
  · refine .other ‹_› ‹_› ‹_› (Bool.eq_false_iff.mpr ‹_›) ?_
    intro member
    rcases List.mem_append.mp member with digit | closing
    · rcases List.mem_append.mp digit with opening | digit
      · exact absurd opening (by decide)
      · have hex := (List.dropWhile_sublist _).subset digit
        have alphanumeric := Db.hexDigits_isAlphanumeric 6 _ '\n' hex
        exact absurd alphanumeric.2 (by decide)
    · exact absurd closing (by decide)

/-- The characters that come back from their rendering. -/
def ComesBack (character : Char) : Prop :=
  character = '\n' ∨
    character ≠ '\\' ∧ PrintableTable.isPrinted character = true

instance (character : Char) : Decidable (ComesBack character) :=
  inferInstanceAs (Decidable (_ ∨ _))

theorem newline_not_mem_escapeDebug (character : Char) :
    '\n' ∉ escapeDebug character := by
  have escape := escapes character
  generalize escapeDebug character = word at escape
  cases escape with
  | newline => decide
  | backslash => decide
  | quote => decide
  | plain newline backslash quote printed =>
      rw [List.mem_singleton]
      exact newline.symm
  | other newline backslash quote unprinted visible =>
      rw [List.mem_cons]
      rintro (escape | member)
      · exact absurd escape (by decide)
      · exact visible member

/-- A rendering has a backslash for each character it escapes, and one more for
a backslash. -/
theorem escapeDebug_backslashes (character : Char) :
    [character].count '\\' + [character].count '\n' + [character].count '"' ≤
        (escapeDebug character).count '\\' ∧
      (¬ ComesBack character →
        [character].count '\\' + [character].count '\n' +
            [character].count '"' + 1 ≤
          (escapeDebug character).count '\\') := by
  have escape := escapes character
  generalize escapeDebug character = word at escape ⊢
  cases escape with
  | newline => exact ⟨by decide, fun lost => absurd (.inl rfl) lost⟩
  | backslash => exact ⟨by decide, fun lost => by decide⟩
  | quote =>
      have back : ComesBack '"' := .inr ⟨by decide, isPrinted_quote⟩
      exact ⟨by decide, fun lost => absurd back lost⟩
  | plain newline backslash quote printed =>
      have back : ComesBack character := .inr ⟨backslash, printed⟩
      refine ⟨?_, fun lost => absurd back lost⟩
      simp [newline, backslash, quote]
  | other newline backslash quote unprinted visible =>
      simp [newline, backslash, quote]

theorem flatMap_backslashes (text : List Char) :
    text.count '\\' + text.count '\n' + text.count '"' +
        text.countP (fun character => ¬ ComesBack character) ≤
      (text.flatMap escapeDebug).count '\\' := by
  induction text with
  | nil => simp
  | cons character text induction =>
      obtain ⟨heavy, heavier⟩ := escapeDebug_backslashes character
      have apart : ∀ mark : Char, (character :: text).count mark =
          [character].count mark + text.count mark :=
        fun mark => by rw [← List.singleton_append, List.count_append]
      rw [List.flatMap_cons, List.count_append, apart, apart, apart]
      by_cases back : ComesBack character
      · rw [List.countP_cons_of_neg (by simpa using back)]
        omega
      · have heavier := heavier back
        rw [List.countP_cons_of_pos (by simpa using back)]
        omega

/-- What is left of a rendering, without its quotes. -/
def restored (text : List Char) : List Char :=
  Text.replacePair '\\' '"' '"'
    (Text.replacePair '\\' 'n' '\n' (text.flatMap escapeDebug))

theorem stripQuotes_debug (text : String) :
    stripQuotes (debug text) = String.ofList (restored text.toList) := by
  have quoted : Text.trim (debug text).toList =
      '"' :: text.toList.flatMap escapeDebug ++ ['"'] := by
    rw [debug, String.toList_ofList]
    exact Text.trim_eq_self (by decide) (by decide)
  have closing : ('"' :: text.toList.flatMap escapeDebug ++ ['"']).getLast? =
      some '"' := List.getLast?_concat
  have enough :
      2 ≤ ('"' :: text.toList.flatMap escapeDebug ++ ['"']).length := by
    simp
  rw [stripQuotes, quoted, restored, if_pos ⟨enough, rfl, closing⟩,
    List.cons_append, List.drop_succ_cons, List.drop_zero, List.dropLast_concat]

/-- Every backslash of a rendering pairs with at most one character of the text,
so a text that comes back whole has none left for other escapes. -/
theorem comesBack_of_restored {text : List Char} (same : restored text = text) :
    ∀ character ∈ text, ComesBack character := by
  let rendering := text.flatMap escapeDebug
  let unbroken := Text.replacePair '\\' 'n' '\n' rendering
  have first : unbroken.count '\\' + unbroken.count '\n' =
      rendering.count '\\' + rendering.count '\n' :=
    Text.count_replacePair (by decide) (by decide) (by decide) rendering
  have newlines : text.count '\n' = unbroken.count '\n' := by
    calc
      text.count '\n' =
          (Text.replacePair '\\' '"' '"' unbroken).count '\n' :=
        congrArg (List.count '\n') same.symm
      _ = unbroken.count '\n' :=
        Text.count_replacePair_second (by decide) unbroken
  have second : unbroken.count '\\' ≤ text.count '\\' + text.count '"' := by
    calc
      unbroken.count '\\' ≤
          (Text.replacePair '\\' '"' '"' unbroken).count '\\' +
            (Text.replacePair '\\' '"' '"' unbroken).count '"' :=
        Text.count_le_replacePair (by decide) unbroken
      _ = text.count '\\' + text.count '"' :=
        congrArg (fun left => left.count '\\' + left.count '"') same
  have heavy : text.count '\\' + text.count '\n' + text.count '"' +
      text.countP (fun character => ¬ ComesBack character) ≤
        rendering.count '\\' := flatMap_backslashes text
  have none : text.countP (fun character => ¬ ComesBack character) = 0 := by
    have visible : rendering.count '\n' = 0 := by
      rw [List.count_eq_zero, List.mem_flatMap]
      rintro ⟨character, member, escape⟩
      exact newline_not_mem_escapeDebug character escape
    omega
  intro character member
  simpa using List.countP_eq_zero.mp none character member

/-- A text after the first of the two passes. -/
def quotesEscaped (text : List Char) : List Char :=
  text.flatMap fun character =>
    if character = '"' then ['\\', '"'] else [character]

theorem ComesBack.plain {character : Char} (back : ComesBack character)
    (newline : character ≠ '\n') (quote : character ≠ '"') :
    escapeDebug character = [character] ∧ character ≠ '\\' := by
  obtain ⟨backslash, printed⟩ := back.resolve_left newline
  refine ⟨?_, backslash⟩
  have escape := escapes character
  generalize escapeDebug character = word at escape ⊢
  cases escape with
  | newline => exact absurd rfl newline
  | backslash => exact absurd rfl backslash
  | quote => exact absurd rfl quote
  | plain => rfl
  | other newline backslash quote unprinted visible =>
      rw [unprinted] at printed
      exact absurd printed (by decide)

theorem replaceNewlines_flatMap {text : List Char}
    (back : ∀ character ∈ text, ComesBack character) :
    Text.replacePair '\\' 'n' '\n' (text.flatMap escapeDebug) =
      quotesEscaped text := by
  induction text with
  | nil => rfl
  | cons character text induction =>
      obtain ⟨here, later⟩ := List.forall_mem_cons.mp back
      have induction := induction later
      rw [quotesEscaped, List.flatMap_cons, List.flatMap_cons, ← quotesEscaped,
        ← induction]
      by_cases newline : character = '\n'
      · rw [newline]
        exact Text.replacePair_pair _
      by_cases quote : character = '"'
      · rw [quote]
        calc
          Text.replacePair '\\' 'n' '\n'
              ('\\' :: '"' :: text.flatMap escapeDebug) =
              '\\' :: Text.replacePair '\\' 'n' '\n'
                ('"' :: text.flatMap escapeDebug) :=
            Text.replacePair_of_next_ne (by decide) _
          _ = '\\' :: '"' :: Text.replacePair '\\' 'n' '\n'
                (text.flatMap escapeDebug) := by
            rw [Text.replacePair_of_ne (by decide)]
      obtain ⟨same, backslash⟩ := here.plain newline quote
      rw [same, if_neg quote]
      exact Text.replacePair_of_ne backslash _

theorem replaceQuotes_quotesEscaped {text : List Char}
    (back : ∀ character ∈ text, ComesBack character) :
    Text.replacePair '\\' '"' '"' (quotesEscaped text) = text := by
  induction text with
  | nil => rfl
  | cons character text induction =>
      obtain ⟨here, later⟩ := List.forall_mem_cons.mp back
      have induction := induction later
      rw [quotesEscaped, List.flatMap_cons, ← quotesEscaped]
      by_cases quote : character = '"'
      · rw [if_pos quote, quote]
        exact (Text.replacePair_pair _).trans
          (congrArg (List.cons '"') induction)
      rw [if_neg quote]
      have backslash : character ≠ '\\' := by
        by_cases newline : character = '\n'
        · rw [newline]
          decide
        · exact (here.plain newline quote).2
      exact (Text.replacePair_of_ne backslash _).trans
        (congrArg (List.cons character) induction)

private theorem restored_of_comesBack {text : List Char}
    (back : ∀ character ∈ text, ComesBack character) :
    restored text = text := by
  rw [restored, replaceNewlines_flatMap back, replaceQuotes_quotesEscaped back]

/-- A statement handed on as its rendering is kept as it was exactly when
nothing but newlines and quotes is escaped in it. -/
theorem SqlxVisitor.recordDebug_eq_recordStr_iff (visitor : SqlxVisitor)
    (text : String) :
    (visitor.recordDebug "db.statement" (debug text)).statement =
        (visitor.recordStr "db.statement" text).statement ↔
      ∀ character ∈ text.toList, ComesBack character := by
  have stored : ∀ value : String,
      (visitor.recordStr "db.statement" value).statement = some value :=
    fun value => rfl
  have decoded : (visitor.recordDebug "db.statement" (debug text)).statement =
      some (String.ofList (restored text.toList)) := by
    rw [← stripQuotes_debug]
    rfl
  rw [stored, decoded, Option.some_inj]
  constructor
  · intro same
    apply comesBack_of_restored
    calc
      restored text.toList = (String.ofList (restored text.toList)).toList :=
        String.toList_ofList.symm
      _ = text.toList := congrArg String.toList same
  · intro back
    rw [restored_of_comesBack back, String.ofList_toList]

end

/-- A backslash comes back as two. -/
theorem SqlxVisitor.backslash_doubled :
    ¬ ∀ (visitor : SqlxVisitor) (text : String),
      (visitor.recordDebug "db.statement"
          (@debug asciiPrintable text)).statement =
        (visitor.recordStr "db.statement" text).statement := by
  intro agree
  have same := agree {} "\\"
  revert same
  decide

end Allstak
