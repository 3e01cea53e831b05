import Allstak.QueryScanner

/-!
# The normal form of statements

What the machine emits has no literals and no numbers left in it, and single
blanks between its words, so the machine copies it when it is read again.  The
leading keyword survives as it is.
-/

namespace Allstak

namespace Db

open Library (Transducer)

/-- There is room for a blank behind anything but a blank. -/
theorem Scan.Sound.room_iff {scan : Scan} (sound : scan.Sound) :
    (!scan.spaced && scan.last.isSome) = true ↔
      ∃ last, scan.last = some last ∧ last ≠ ' ' := by
  rw [Bool.and_eq_true, Bool.not_eq_true', Option.isSome_iff_exists]
  constructor
  · rintro ⟨apart, last, pushed⟩
    refine ⟨last, pushed, ?_⟩
    rintro rfl
    rw [sound.spaced.mpr pushed] at apart
    cases apart
  · rintro ⟨last, pushed, solid⟩
    refine ⟨?_, last, pushed⟩
    rw [Bool.eq_false_iff, Ne, sound.spaced, pushed, Option.some.injEq]
    exact solid

/-- The state outside after a character. -/
def Scan.behind (before : Option Char) : Scan :=
  { last := before, spaced := before == some ' ' }

private theorem Scan.sound_behind (before : Option Char) :
    (Scan.behind before).Sound := by
  refine ⟨beq_iff_eq, ?_⟩
  intro marked
  exact absurd rfl marked

section

variable [AlphanumericTable]

/-- What the machine may emit after a character. -/
structure MayFollow (before : Option Char) (character : Char) : Prop where
  unquoted : character ≠ '\''
  digit : character.isDigit = true → fresh before = false
  white : Text.isWhitespace character = true →
    character = ' ' ∧ ∃ last, before = some last ∧ last ≠ ' '

private theorem mayFollow_mark
    (before : Option Char) : MayFollow before '?' := by
  constructor
  · decide
  · intro digit
    exact absurd digit (by decide)
  · intro white
    exact absurd white (by decide)

theorem Scan.Sound.extends_ {scan : Scan} (sound : scan.Sound)
    (character : Char) :
    scanner.Extends Scan.last MayFollow scan character := by
  have steps := scan.steps character
  change (scan.step character).2 = [] ∧
      (scan.step character).1.last = scan.last ∨
    ∃ emitted, (scan.step character).2 = [emitted] ∧
      MayFollow scan.last emitted ∧
      (scan.step character).1.last = some emitted
  generalize scan.step character = result at steps ⊢
  cases steps with
  | read outside unpassed reads =>
      cases reads with
      | quote => exact .inr ⟨'?', rfl, mayFollow_mark scan.last, rfl⟩
      | number digit starts => exact .inr ⟨'?', rfl, mayFollow_mark scan.last, rfl⟩
      | space white room =>
          refine .inr ⟨' ', rfl, ⟨by decide, ?_, ?_⟩, rfl⟩
          · intro digit
            exact absurd digit (by decide)
          · intro _
            exact ⟨rfl, sound.room_iff.mp room⟩
      | blank white room => exact .inl ⟨rfl, rfl⟩
      | other plain unstarted solid =>
          refine .inr ⟨character, rfl, ⟨plain, unstarted, ?_⟩, rfl⟩
          intro white
          rw [solid] at white
          cases white
  | pass number part => exact .inl ⟨rfl, rfl⟩
  | inside literal plain => exact .inl ⟨rfl, rfl⟩
  | close literal => exact .inl ⟨rfl, rfl⟩
  | reopen quoted => exact .inl ⟨rfl, rfl⟩

/-- What may follow is copied. -/
theorem read_behind {before : Option Char} {character : Char}
    (follows : MayFollow before character) :
    scanner.emit (Scan.behind before) character = [character] ∧
      scanner.next (Scan.behind before) character =
        Scan.behind (some character) := by
  change ((Scan.behind before).read character).2 = [character] ∧
    ((Scan.behind before).read character).1 = Scan.behind (some character)
  cases white : Text.isWhitespace character with
  | true =>
      obtain ⟨rfl, last⟩ := follows.white white
      rw [Scan.read_space _ white ((Scan.sound_behind before).room_iff.mpr last)]
      exact ⟨rfl, rfl⟩
  | false =>
      have apart : (some character == some ' ') = false := by
        rw [beq_eq_false_iff_ne, Ne, Option.some.injEq]
        rintro rfl
        cases white
      rw [Scan.read_other _ follows.unquoted follows.digit white, Scan.behind, apart]
      exact ⟨rfl, rfl⟩

theorem Scan.Sound.output_chained {scan : Scan} (sound : scan.Sound)
    (text : List Char) :
    Transducer.Chained MayFollow scan.last (scanner.output scan text) := by
  have kept : ∀ (scan : Scan) (character : Char), scan.Sound →
      (scanner.next scan character).Sound := by
    intro scan character sound
    exact sound.step character
  have extending : ∀ (scan : Scan) (character : Char), scan.Sound →
      scanner.Extends Scan.last MayFollow scan character := by
    intro scan character sound
    exact sound.extends_ character
  exact Transducer.output_chained kept extending sound text

/-- Nothing is trimmed off the front. -/
theorem exists_trailing {text : List Char}
    (chained : Transducer.Chained MayFollow none text) :
    ∃ after, Text.IsBlank after ∧ text = Text.trim text ++ after := by
  obtain ⟨before, after, opening, closing, split⟩ := Text.exists_blanks text
  cases before with
  | nil => exact ⟨after, closing, split⟩
  | cons first rest =>
      rw [split] at chained
      have white := opening first (List.mem_cons_self ..)
      obtain ⟨_, last, nothing, _⟩ := chained.1.white white
      cases nothing

private theorem normalizeQuery_chained (sql : String) :
    Transducer.Chained MayFollow none (normalizeQuery sql).toList := by
  rw [normalizeQuery_eq_output]
  have chained := Scan.sound_start.output_chained sql.toList
  obtain ⟨after, _, split⟩ := exists_trailing chained
  rw [split] at chained
  exact chained.left

/-- A text without literals and numbers, its words apart by single blanks. -/
structure IsCanonical (text : List Char) : Prop where
  unquoted : '\'' ∉ text
  leading : ∀ first rest, text = first :: rest → Text.isWhitespace first = false
  trailing : ∀ front last, text = front ++ [last] →
    Text.isWhitespace last = false
  blanks : ∀ front white rest, text = front ++ white :: rest →
    Text.isWhitespace white = true →
      white = ' ' ∧ ∀ next ∈ rest.head?, Text.isWhitespace next = false
  digits : ∀ front digit rest, text = front ++ digit :: rest →
    digit.isDigit = true → ∃ before, front.getLast? = some before ∧
      isWordPart before = true

theorem isCanonical_of_chained {text : List Char}
    (chained : Transducer.Chained MayFollow none text)
    (trailing : ∀ front last, text = front ++ [last] →
      Text.isWhitespace last = false) : IsCanonical text := by
  have follows : ∀ front character rest, text = front ++ character :: rest →
      MayFollow front.getLast? character := by
    rintro front character rest rfl
    have behind := chained.follows
    rwa [Option.or_none] at behind
  constructor
  · intro member
    obtain ⟨front, rest, split⟩ := List.append_of_mem member
    exact (follows front _ rest split).unquoted rfl
  · intro first rest split
    by_contra white
    rw [Bool.not_eq_false] at white
    obtain ⟨_, last, nothing, _⟩ := (follows [] first rest split).white white
    cases nothing
  · exact trailing
  · intro front white rest split isWhite
    refine ⟨((follows front white rest split).white isWhite).1, ?_⟩
    intro next member
    by_contra nextWhite
    rw [Bool.not_eq_false] at nextWhite
    obtain ⟨tail, rfl⟩ := List.head?_eq_some_iff.mp member
    have later := follows (front ++ [white]) next tail (by rw [split]; simp)
    rw [List.getLast?_concat] at later
    obtain ⟨_, last, same, solid⟩ := later.white nextWhite
    rw [← Option.some.inj same] at solid
    exact solid ((follows front white _ split).white isWhite).1
  · intro front digit rest split isDigit
    have joined := (follows front digit rest split).digit isDigit
    cases before : front.getLast? with
    | none =>
        rw [before] at joined
        cases joined
    | some last =>
        rw [before, fresh_some, Bool.not_eq_false'] at joined
        exact ⟨last, rfl, joined⟩

/-- A normalized statement is in normal form, and normalized again it stays as it
is. -/
theorem normalizeQuery_canonical (sql : String) :
    normalizeQuery (normalizeQuery sql) = normalizeQuery sql ∧
      IsCanonical (normalizeQuery sql).toList := by
  have chained := normalizeQuery_chained sql
  constructor
  · apply String.toList_inj.mp
    have copied : scanner.output (Scan.behind none) (normalizeQuery sql).toList =
        (normalizeQuery sql).toList :=
      Transducer.output_copied (fun _ _ follows => read_behind follows) chained
    have start : Scan.behind none = {} := rfl
    rw [start] at copied
    rw [normalizeQuery_eq_output, copied, normalizeQuery_eq_output, Text.trim_trim]
  · apply isCanonical_of_chained chained
    intro front last split
    rw [normalizeQuery_eq_output] at split
    exact Text.trim_last split

end

private theorem leadingWord_blank {before : List Char}
    (opening : Text.IsBlank before)
    (text : List Char) : leadingWord (before ++ text) = leadingWord text := by
  rw [leadingWord, Text.dropWhile_blank opening]
  rfl

/-- The leading word of a text that starts like this. -/
theorem leadingWord_solid {word : List Char}
    (solid : ∀ character ∈ word, Text.isWhitespace character = false)
    (present : word ≠ []) (rest : List Char) :
    leadingWord (word ++ rest) =
      word ++ rest.takeWhile fun character => !Text.isWhitespace character := by
  obtain ⟨first, front, rfl⟩ := List.exists_cons_of_ne_nil present
  have starts : (first :: front ++ rest).dropWhile Text.isWhitespace =
      first :: front ++ rest := by
    simp [solid first (List.mem_cons_self ..)]
  rw [leadingWord, starts, List.takeWhile_append_of_pos]
  intro character member
  rw [solid character member]
  rfl

theorem leadingWord_trailing {after : List Char} (closing : Text.IsBlank after)
    (text : List Char) : leadingWord (text ++ after) = leadingWord text := by
  have split : text.takeWhile Text.isWhitespace ++
      text.dropWhile Text.isWhitespace = text :=
    List.takeWhile_append_dropWhile
  have opening : Text.IsBlank (text.takeWhile Text.isWhitespace) :=
    fun _ member => List.mem_takeWhile_imp member
  rw [← split, List.append_assoc, leadingWord_blank opening,
    leadingWord_blank opening]
  cases ended : text.dropWhile Text.isWhitespace with
  | nil =>
      rw [List.nil_append, leadingWord, List.dropWhile_eq_nil_iff.mpr closing]
      rfl
  | cons first rest =>
      have solid := Text.dropWhile_head ended
      have starts : (first :: rest ++ after).dropWhile Text.isWhitespace =
          first :: rest ++ after := by
        simp [solid]
      have stops : (first :: rest).dropWhile Text.isWhitespace =
          first :: rest := by
        simp [solid]
      have none_ : after.takeWhile (fun character =>
          !Text.isWhitespace character) = [] := by
        cases after with
        | nil => rfl
        | cons white after => simp [closing white (List.mem_cons_self ..)]
      rw [leadingWord, leadingWord, starts, stops, List.takeWhile_append]
      split
      · rename_i whole
        rw [none_, List.append_nil]
        exact ((List.takeWhile_prefix _).eq_of_length whole).symm
      · rfl

/-- The same words, or words that are no keywords. -/
def SameKeyword (word other : List Char) : Prop :=
  word = other ∨ (∃ character ∈ word, character.isAlpha = false) ∧
    ∃ character ∈ other, character.isAlpha = false

theorem sameKeyword_of_marks {word : List Char}
    (letters : ∀ character ∈ word, character.isAlpha = true)
    {mark other : Char} (apart : mark.isAlpha = false)
    (solid : Text.isWhitespace mark = false) (otherApart : other.isAlpha = false)
    (otherSolid : Text.isWhitespace other = false) (rest later : List Char) :
    SameKeyword (leadingWord (word ++ mark :: rest))
      (leadingWord (word ++ other :: later)) := by
  have started : ∀ {mark : Char}, Text.isWhitespace mark = false →
      ∀ rest, mark ∈ leadingWord (word ++ mark :: rest) := by
    intro mark solid rest
    have cut : word ++ mark :: rest = (word ++ [mark]) ++ rest := by simp
    rw [cut, leadingWord_solid]
    · simp
    · intro character member
      rcases List.mem_append.mp member with front | last
      · exact (letter_plain (letters character front)).2.2
      · rw [List.mem_singleton.mp last]
        exact solid
    · simp
  exact .inr ⟨⟨mark, started solid rest, apart⟩,
    ⟨other, started otherSolid later, otherApart⟩⟩

section

variable [AlphanumericTable]

theorem chained_letters {word : List Char}
    (letters : ∀ character ∈ word, character.isAlpha = true)
    (before : Option Char) : Transducer.Chained MayFollow before word := by
  induction word generalizing before with
  | nil => trivial
  | cons letter word induction =>
      rw [List.forall_mem_cons] at letters
      obtain ⟨unquoted, noDigit, solid⟩ := letter_plain letters.1
      refine ⟨⟨unquoted, ?_, ?_⟩, induction letters.2 (some letter)⟩
      · intro digit
        rw [noDigit] at digit
        cases digit
      · intro white
        rw [solid] at white
        cases white

/-- Letters are copied. -/
theorem output_letters {word : List Char}
    (letters : ∀ character ∈ word, character.isAlpha = true) (rest : List Char) :
    scanner.output {} (word ++ rest) =
      word ++ scanner.output (Scan.behind word.getLast?) rest := by
  have chained := chained_letters letters none
  have copies : ∀ before character, MayFollow before character →
      scanner.emit (Scan.behind before) character = [character] ∧
        scanner.next (Scan.behind before) character =
          Scan.behind (some character) :=
    fun _ _ follows => read_behind follows
  have start : Scan.behind none = {} := rfl
  rw [← start, Transducer.output_append, Transducer.output_copied copies chained,
    Transducer.after_copied copies chained, Option.or_none]

/-- Blanks in front are passed over. -/
theorem output_blank {before : List Char} (opening : Text.IsBlank before)
    (text : List Char) :
    scanner.output {} (before ++ text) = scanner.output {} text := by
  have skips : ∀ white ∈ before, scanner.Skips {} white := by
    intro white member
    have blank := Scan.read_blank {} (opening white member) rfl
    exact ⟨congrArg Prod.fst blank, congrArg Prod.snd blank⟩
  rw [Transducer.output_append, Transducer.output_skips skips,
    Transducer.after_skips skips, List.nil_append]

/-- A character that ends the letters and is no blank leaves such a one. -/
theorem exists_mark {scan : Scan} (plain : scan.mode = .plain) {character : Char}
    (apart : character.isAlpha = false)
    (solid : Text.isWhitespace character = false) (rest : List Char) :
    ∃ mark later, mark.isAlpha = false ∧ Text.isWhitespace mark = false ∧
      scanner.output scan (character :: rest) = mark :: later := by
  have reads := scan.reads character
  have step : scan.step character = scan.read character := by
    rw [Scan.step, plain]
  rw [Transducer.output_cons]
  change ∃ mark later, _ ∧ _ ∧ (scan.step character).2 ++
    scanner.output (scan.step character).1 rest = _
  rw [step]
  generalize scan.read character = result at reads ⊢
  cases reads with
  | quote => exact ⟨'?', _, by decide, by decide, rfl⟩
  | number digit starts => exact ⟨'?', _, by decide, by decide, rfl⟩
  | space white room =>
      rw [solid] at white
      cases white
  | blank white room =>
      rw [solid] at white
      cases white
  | other _ unstarted _ => exact ⟨character, _, apart, solid, rfl⟩

/-- A blank behind letters is kept. -/
theorem exists_space {word : List Char}
    (letters : ∀ character ∈ word, character.isAlpha = true)
    (present : word ≠ []) {white : Char}
    (isWhite : Text.isWhitespace white = true) (rest : List Char) :
    ∃ more, scanner.output (Scan.behind word.getLast?) (white :: rest) =
      ' ' :: more := by
  have last := List.getLast?_eq_some_getLast present
  have solid := (letter_plain (letters _ (List.getLast_mem present))).2.2
  have room := (Scan.sound_behind word.getLast?).room_iff.mpr
    ⟨_, last, by rintro same; rw [same] at solid; cases solid⟩
  have reads := Scan.read_space (Scan.behind word.getLast?) isWhite room
  have emits : scanner.emit (Scan.behind word.getLast?) white = [' '] :=
    congrArg Prod.snd reads
  rw [Transducer.output_cons, emits]
  exact ⟨_, rfl⟩

theorem leadingWord_output (text : List Char) :
    SameKeyword (leadingWord text) (leadingWord (scanner.output {} text)) := by
  let blanks := text.takeWhile Text.isWhitespace
  let core := text.dropWhile Text.isWhitespace
  let word := core.takeWhile Char.isAlpha
  let tail := core.dropWhile Char.isAlpha
  have split : text = blanks ++ (word ++ tail) := by
    rw [List.takeWhile_append_dropWhile, List.takeWhile_append_dropWhile]
  have opening : Text.IsBlank blanks :=
    fun _ member => List.mem_takeWhile_imp member
  have letters : ∀ character ∈ word, character.isAlpha = true :=
    fun _ member => List.mem_takeWhile_imp member
  have solid : ∀ character ∈ word, Text.isWhitespace character = false :=
    fun character member => (letter_plain (letters character member)).2.2
  rw [split, leadingWord_blank opening, output_blank opening,
    output_letters letters]
  cases ended : tail with
  | nil => exact .inl rfl
  | cons character rest =>
      have apart : character.isAlpha = false := Text.dropWhile_head ended
      cases white : Text.isWhitespace character with
      | false =>
          obtain ⟨mark, later, markApart, markSolid, emitted⟩ :=
            @exists_mark _ (Scan.behind word.getLast?) rfl _ apart white rest
          rw [emitted]
          exact sameKeyword_of_marks letters apart white markApart markSolid rest
            later
      | true =>
          have present : word ≠ [] := by
            intro empty
            have joined : word ++ tail = core := List.takeWhile_append_dropWhile
            rw [empty, ended] at joined
            rw [Text.dropWhile_head joined.symm] at white
            cases white
          obtain ⟨more, spaced⟩ := exists_space letters present white rest
          have stops : ∀ {first : Char}, Text.isWhitespace first = true →
              ∀ rest, leadingWord (word ++ first :: rest) = word := by
            intro first white rest
            rw [leadingWord_solid solid present, List.takeWhile_cons_of_neg,
              List.append_nil]
            rw [white]
            decide
          left
          rw [spaced, stops white rest, stops (by decide) more]

/-- Trimming the end leaves the leading word. -/
theorem leadingWord_normalized (sql : String) :
    leadingWord (normalizeQuery sql).toList =
      leadingWord (scanner.output {} sql.toList) := by
  obtain ⟨after, closing, split⟩ :=
    exists_trailing (Scan.sound_start.output_chained sql.toList)
  rw [normalizeQuery_eq_output]
  nth_rewrite 2 [split]
  exact (leadingWord_trailing closing _).symm

end

private theorem isAlpha_toUpper {character : Char}
    (alpha : character.toUpper.isAlpha = true) : character.isAlpha = true := by
  by_cases lower : character.isLower = true
  · exact Bool.or_eq_true_iff.mpr (.inr lower)
  · have kept : character.toUpper = character := by
      apply dif_neg
      unfold Char.isLower at lower
      simpa using lower
    rwa [kept] at alpha

/-- Keywords are made of letters. -/
theorem not_keyword {word : List Char} {character : Char}
    (member : character ∈ word) (apart : character.isAlpha = false) :
    QUERY_TYPES.contains (String.ofList (word.map Char.toUpper)) = false := by
  by_contra found
  rw [Bool.not_eq_false, List.contains_iff_mem] at found
  have letters : QUERY_TYPES.all (fun keyword =>
      keyword.toList.all Char.isAlpha) = true := by
    decide
  have upper := List.all_eq_true.mp letters _ found
  rw [String.toList_ofList] at upper
  have alpha := List.all_eq_true.mp upper _ (List.mem_map_of_mem member)
  rw [isAlpha_toUpper alpha] at apart
  cases apart

private theorem keyword_agrees {word other : List Char}
    (same : SameKeyword word other) :
    (if QUERY_TYPES.contains (String.ofList (word.map Char.toUpper)) then
        String.ofList (word.map Char.toUpper) else "OTHER") =
      if QUERY_TYPES.contains (String.ofList (other.map Char.toUpper)) then
        String.ofList (other.map Char.toUpper) else "OTHER" := by
  rcases same with rfl | ⟨⟨character, member, apart⟩, mark, otherMember, otherApart⟩
  · rfl
  · rw [not_keyword member apart, not_keyword otherMember otherApart]
    rfl

section

variable [AlphanumericTable]

/-- The class of a statement is the class of its normal form, so it is the same
for all statements with one normal form. -/
theorem queryType_normalized :
    (∀ sql, queryType sql = queryType (normalizeQuery sql)) ∧
      ∀ sql other, normalizeQuery sql = normalizeQuery other →
        queryType sql = queryType other := by
  have kept : ∀ sql, queryType sql = queryType (normalizeQuery sql) := by
    intro sql
    rw [queryType, queryType, leadingWord_normalized]
    exact keyword_agrees (leadingWord_output sql.toList)
  refine ⟨kept, ?_⟩
  intro sql other same
  rw [kept sql, kept other, same]

end

end Db

end Allstak
