import Allstak.QueryScanner

/-!
# Statements of one template

Statements that differ only in what fills the holes of a template are normalized
to one text.  The state of the machine after a hole does not depend on what
filled it.
-/

namespace Allstak

namespace Db

open Library (Transducer)

inductive Piece where
  | text (characters : List Char)
  | literal
  | number

/-- Inner quotes are doubled. -/
def double (content : List Char) : List Char :=
  content.flatMap fun character =>
    if character = '\'' then ['\'', '\''] else [character]

/-- A template with its holes filled. -/
inductive Fills : List Piece → List Char → Prop
  | nil : Fills [] []
  | text {pieces : List Piece} {rest : List Char} (characters : List Char)
      (later : Fills pieces rest) :
      Fills (.text characters :: pieces) (characters ++ rest)
  | literal {pieces : List Piece} {rest : List Char} (content : List Char)
      (later : Fills pieces rest) :
      Fills (.literal :: pieces) ('\'' :: double content ++ '\'' :: rest)
  | number {pieces : List Piece} {rest : List Char} {digit : Char}
      {more : List Char} (isDigit : digit.isDigit = true)
      (parts : ∀ part ∈ more, isNumberPart part = true)
      (later : Fills pieces rest) :
      Fills (.number :: pieces) (digit :: more ++ rest)

/-- What comes directly before a place in a template. -/
inductive Edge where
  | start
  | character (last : Char)
  | literal
  | number

def Edge.past (edge : Edge) : Piece → Edge
  | .text characters =>
      match characters.getLast? with
      | none => edge
      | some last => .character last
  | .literal => .literal
  | .number => .number

section

variable [AlphanumericTable]

/-- A number hole may come here. -/
def Edge.Admits : Edge → Prop
  | .start => True
  | .character last => isWordPart last = false
  | .literal => True
  | .number => False

def WellFormed : Edge → List Piece → Prop
  | _, [] => True
  | edge, piece :: pieces =>
      (match piece with
        | .text characters => '\'' ∉ characters
        | .literal => True
        | .number => edge.Admits) ∧
      WellFormed (edge.past piece) pieces

/-- The content of a literal is passed over. -/
theorem literal_double (content : List Char) :
    scanner.after { last := some '?', mode := .literal } (double content) =
        { last := some '?', mode := .literal } ∧
      scanner.output { last := some '?', mode := .literal } (double content) =
        [] := by
  induction content with
  | nil => exact ⟨rfl, rfl⟩
  | cons character content induction =>
      rw [double, List.flatMap_cons]
      split
      · exact induction
      · rename_i plain
        have kept : Scan.step { last := some '?', mode := .literal } character =
            ({ last := some '?', mode := .literal }, []) :=
          if_neg plain
        have stays : scanner.next { last := some '?', mode := .literal } character =
            { last := some '?', mode := .literal } :=
          congrArg Prod.fst kept
        have silent : scanner.emit { last := some '?', mode := .literal }
            character = [] :=
          congrArg Prod.snd kept
        rw [List.singleton_append, Transducer.after_cons, Transducer.output_cons,
          stays, silent, List.nil_append]
        exact induction

/-- Outside, a quote opens a literal, or goes on with the one just closed. -/
theorem Scan.Sound.open_literal {scan : Scan} (sound : scan.Sound)
    (outside : scan.mode ≠ .literal) :
    (scan.step '\'').1 = { last := some '?', mode := .literal } := by
  have steps := scan.steps '\''
  generalize scan.step '\'' = result at steps ⊢
  cases steps with
  | read outside unpassed reads =>
      cases reads with
      | quote => rfl
      | number digit starts => exact absurd digit (by decide)
      | space white room => exact absurd white (by decide)
      | blank white room => exact absurd white (by decide)
      | other plain unstarted solid => exact absurd rfl plain
  | pass number part => exact absurd part (by decide)
  | inside literal plain => exact absurd literal outside
  | close literal => exact absurd literal outside
  | reopen quoted =>
      have marked : scan.mode ≠ .plain := by
        rw [quoted]
        decide
      rw [sound.eq_marked marked]

/-- What a filled literal hole does depends on the state alone. -/
theorem Scan.Sound.filled_literal {scan : Scan} (sound : scan.Sound)
    (outside : scan.mode ≠ .literal) (content rest : List Char) :
    scanner.output scan ('\'' :: double content ++ '\'' :: rest) =
      (scan.step '\'').2 ++
        scanner.output { last := some '?', mode := .quoted } rest := by
  have opens : scanner.next scan '\'' = { last := some '?', mode := .literal } :=
    sound.open_literal outside
  obtain ⟨stays, silent⟩ := literal_double content
  rw [List.cons_append, Transducer.output_cons, opens, Transducer.output_append,
    stays, silent]
  rfl

theorem Scan.Sound.filled_number {scan : Scan} (sound : scan.Sound)
    (outside : scan.mode ≠ .literal) (swallows : scan.Swallows) {digit : Char}
    {more : List Char} (isDigit : digit.isDigit = true)
    (parts : ∀ part ∈ more, isNumberPart part = true) (rest : List Char) :
    scanner.output scan (digit :: more ++ rest) =
      (if scan.mode = .number then [] else ['?']) ++
        scanner.output { last := some '?', mode := .number } rest := by
  have opened := sound.open_number outside swallows isDigit
  have opens : scanner.next scan digit = { last := some '?', mode := .number } :=
    congrArg Prod.fst opened
  have emits : scanner.emit scan digit =
      if scan.mode = .number then [] else ['?'] :=
    congrArg Prod.snd opened
  have skips : ∀ part ∈ more,
      scanner.Skips { last := some '?', mode := .number } part :=
    fun part member => number_skips (parts part member)
  rw [List.cons_append, Transducer.output_cons, opens, emits,
    Transducer.output_append, Transducer.after_skips skips,
    Transducer.output_skips skips, List.nil_append]

/-- A text without quotes stays outside. -/
theorem outside_text {scan : Scan} (outside : scan.mode ≠ .literal)
    {characters : List Char} (unquoted : '\'' ∉ characters) :
    (scanner.after scan characters).mode ≠ .literal := by
  induction characters generalizing scan with
  | nil => exact outside
  | cons character characters induction =>
      rw [List.mem_cons, not_or] at unquoted
      rw [Transducer.after_cons]
      apply induction _ unquoted.2
      exact Scan.outside_step outside (Ne.symm unquoted.1)

/-- Where a template admits a number hole, the machine takes a digit for one. -/
theorem swallows_text {scan : Scan} (sound : scan.Sound)
    (outside : scan.mode ≠ .literal) {edge : Edge}
    (tracks : edge.Admits → scan.Swallows) {characters : List Char}
    (unquoted : '\'' ∉ characters)
    (admits : (edge.past (.text characters)).Admits) :
    (scanner.after scan characters).Swallows := by
  rcases List.eq_nil_or_concat characters with rfl | ⟨front, last, rfl⟩
  · exact tracks admits
  · rw [List.concat_eq_append] at unquoted admits ⊢
    rw [List.mem_append, List.mem_singleton, not_or] at unquoted
    rw [Edge.past, List.getLast?_concat] at admits
    rw [Transducer.after_append]
    apply (sound.after front).swallows_step (outside_text outside unquoted.1)
    · exact Ne.symm unquoted.2
    · exact admits

theorem fillings_agree {template : List Piece} {first second : List Char}
    (fills : Fills template first) (other : Fills template second) {edge : Edge}
    (formed : WellFormed edge template) {scan : Scan} (sound : scan.Sound)
    (outside : scan.mode ≠ .literal) (tracks : edge.Admits → scan.Swallows) :
    scanner.output scan first = scanner.output scan second := by
  induction fills generalizing second edge scan with
  | nil =>
      cases other
      rfl
  | @text pieces rest characters later induction =>
      cases other with
      | text _ otherLater =>
          obtain ⟨unquoted, formed⟩ := formed
          rw [Transducer.output_append, Transducer.output_append]
          congr 1
          apply induction otherLater formed (sound.after characters)
          · exact outside_text outside unquoted
          · exact swallows_text sound outside tracks unquoted
  | @literal pieces rest content later induction =>
      cases other with
      | literal otherContent otherLater =>
          have closed : Scan.Sound { last := some '?', mode := .quoted } :=
            ⟨by decide, fun _ => rfl⟩
          rw [sound.filled_literal outside, sound.filled_literal outside]
          congr 1
          apply induction otherLater formed.2 closed
          · rintro ⟨⟩
          · intro _
            exact .inr fresh_mark
  | @number pieces rest digit more isDigit parts later induction =>
      cases other with
      | number otherDigit otherParts otherLater =>
          obtain ⟨admits, formed⟩ := formed
          have swallows := tracks admits
          have ended : Scan.Sound { last := some '?', mode := .number } :=
            ⟨by decide, fun _ => rfl⟩
          rw [sound.filled_number outside swallows isDigit parts,
            sound.filled_number outside swallows otherDigit otherParts]
          congr 1
          apply induction otherLater formed ended
          · rintro ⟨⟩
          · intro _
            exact .inl rfl

/-- Whatever fills the holes, the statement is normalized to the same text, and
its record has the same fingerprint. -/
theorem fillings_hidden {template : List Piece} (formed : WellFormed .start template)
    {first second : String} (fills : Fills template first.toList)
    (other : Fills template second.toList) :
    normalizeQuery first = normalizeQuery second ∧
      ∀ (digest : String → UInt64) (world otherWorld : World)
        (hub otherHub : HubId) (durationMs otherDuration : UInt64)
        (error otherError type otherType : Option String)
        (timestamp otherTimestamp : UInt64),
        (world.buildRecord digest hub first durationMs error type
            timestamp).queryHash =
          (otherWorld.buildRecord digest otherHub second otherDuration otherError
            otherType otherTimestamp).queryHash := by
  have same : normalizeQuery first = normalizeQuery second := by
    apply String.toList_inj.mp
    rw [normalizeQuery_eq_output, normalizeQuery_eq_output]
    congr 1
    apply fillings_agree fills other formed Scan.sound_start
    · rintro ⟨⟩
    · intro _
      exact .inr rfl
  refine ⟨same, ?_⟩
  intro digest world otherWorld hub otherHub durationMs otherDuration error
    otherError type otherType timestamp otherTimestamp
  change queryHash digest (normalizeQuery first) =
    queryHash digest (normalizeQuery second)
  rw [same]

end

/-- Adjacent literals, a name with a digit and a number at the end. -/
def nameOrCount : List Piece :=
  [.text "name = ".toList, .literal, .literal, .text " OR c1 > ".toList, .number]

theorem fillings_hidden_queried :
    @normalizeQuery asciiAlphanumeric "name = 'it''s''' OR c1 > 4" =
      @normalizeQuery asciiAlphanumeric "name = '''7' OR c1 > 3.14" := by
  let front := "name = ".toList
  let middle := " OR c1 > ".toList
  have fills : Fills nameOrCount "name = 'it''s''' OR c1 > 4".toList := by
    have text : "name = 'it''s''' OR c1 > 4".toList =
        front ++ ('\'' :: double "it's".toList ++ '\'' ::
          ('\'' :: double [] ++ '\'' :: (middle ++ ('4' :: [] ++ [])))) := by
      decide
    rw [text]
    apply Fills.text
    apply Fills.literal
    apply Fills.literal
    apply Fills.text
    apply Fills.number
    · decide
    · simp
    · exact .nil
  have other : Fills nameOrCount "name = '''7' OR c1 > 3.14".toList := by
    have text : "name = '''7' OR c1 > 3.14".toList =
        front ++ ('\'' :: double [] ++ '\'' :: ('\'' :: double ['7'] ++ '\'' ::
          (middle ++ ('3' :: ['.', '1', '4'] ++ [])))) := by
      decide
    rw [text]
    apply Fills.text
    apply Fills.literal
    apply Fills.literal
    apply Fills.text
    apply Fills.number
    · decide
    · apply List.all_eq_true.mp
      decide
    · exact .nil
  have blank : @isWordPart asciiAlphanumeric ' ' = false := by
    decide
  have formed : @WellFormed asciiAlphanumeric .start nameOrCount :=
    ⟨by decide, trivial, trivial, by decide, blank, trivial⟩
  exact (@fillings_hidden asciiAlphanumeric nameOrCount formed _ _ fills other).1

end Db

end Allstak
