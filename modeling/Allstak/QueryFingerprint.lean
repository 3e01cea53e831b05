import Allstak.Db
import Allstak.ScrubGuard
import Allstak.WireSchema

/-!
# The delivered fingerprint

The fingerprint of a query has sixteen hexadecimal digits and its key has no
rule of its own, so it is scrubbed like any other text.  With a letter among the
digits no pattern matches; without one the digits are a card number.
-/

namespace Allstak

open Library

/-- ASCII letters and digits only. -/
def IsAlphanumeric (text : List Char) : Prop :=
  ∀ character ∈ text, character.val < 128 ∧ character.isAlphanum = true

theorem IsAlphanumeric.of_suffix {text rest : List Char}
    (plain : IsAlphanumeric text) (within : rest <:+ text) :
    IsAlphanumeric rest :=
  fun character member => plain character (within.subset member)

private theorem IsAlphanumeric.ne {text : List Char}
    (plain : IsAlphanumeric text)
    (mark : Char) (other : mark.isAlphanum = false) :
    ∀ character ∈ text, character ≠ mark := by
  rintro character member rfl
  rw [(plain _ member).2] at other
  cases other

theorem EMAIL_findAll_of_alphanumeric {text : List Char}
    (plain : IsAlphanumeric text) : EMAIL.findAll text = [] := by
  apply Pattern.findAll_eq_nil
  intro cursor within
  rw [List.eq_nil_iff_forall_not_mem]
  intro after member
  rw [EMAIL_eq] at member
  obtain ⟨middle, -, member, suffix⟩ := Pattern.mem_ends_seq member
  obtain ⟨_, member, -, -⟩ := Pattern.mem_ends_seq member
  have rest := plain.of_suffix (suffix.trans within)
  have lacks : ∀ character ∈ middle.rest, (character == '@') = false := by
    intro character inside
    exact beq_false_of_ne (rest.ne '@' (by decide) character inside)
  rw [Pattern.ends_char_eq_nil lacks] at member
  cases member

def AllDigits (text : List Char) : Prop :=
  ∀ character ∈ text, character.val < 128 ∧ character.isDigit = true

theorem AllDigits.isAlphanumeric {text : List Char} (digits : AllDigits text) :
    IsAlphanumeric text := by
  intro character member
  obtain ⟨ascii, digit⟩ := digits character member
  exact ⟨ascii, by rw [Char.isAlphanum, digit, Bool.or_true]⟩

private theorem cardDigits_digits {text : List Char} (digits : AllDigits text)
    (length : text.length = 16) : cardDigits text = true := by
  have all : text.filter Char.isDigit = text :=
    List.filter_eq_self.mpr fun character member => (digits character member).2
  rw [cardDigits, all, length]
  rfl

section

variable [UnicodeTables]

theorem SSN_findAll_of_alphanumeric {text : List Char}
    (plain : IsAlphanumeric text) : SSN.findAll text = [] := by
  apply Pattern.findAll_eq_nil
  intro cursor within
  rw [SSN_eq]
  apply Pattern.ends_seq_boundary_eq_nil
  rw [List.eq_nil_iff_forall_not_mem]
  intro after member
  obtain ⟨middle, -, member, suffix⟩ := Pattern.mem_ends_seq member
  obtain ⟨_, member, -, -⟩ := Pattern.mem_ends_seq member
  have rest := plain.of_suffix (suffix.trans within)
  have lacks : ∀ character ∈ middle.rest, oneOf "- " character = false := by
    intro character inside
    have dash := rest.ne '-' (by decide) character inside
    have space := rest.ne ' ' (by decide) character inside
    simp [oneOf, dash, space]
  rw [Pattern.ends_char_eq_nil lacks] at member
  cases member

private theorem isWord_of_alphanumeric {text : List Char}
    (plain : IsAlphanumeric text)
    {character : Char} (member : character ∈ text) :
    UnicodeTables.isWord character = true := by
  obtain ⟨ascii, alphanumeric⟩ := plain character member
  rw [UnicodeTables.isWord_ascii character ascii, alphanumeric, Bool.true_or]

private theorem CREDIT_CARD_accepts_of_alphanumeric {text : List Char}
    (plain : IsAlphanumeric text) {character : Char} (member : character ∈ text)
    (accepted : CREDIT_CARD.accepts character = true) :
    character.isDigit = true := by
  have dash := plain.ne '-' (by decide) character member
  have space := plain.ne ' ' (by decide) character member
  rw [← UnicodeTables.isDecimal_ascii character (plain character member).1]
  simpa [CREDIT_CARD_eq, cardGroup, Pattern.accepts, oneOf, dash, space]
    using accepted

/-- A place inside such a text is at a boundary only at either end of it. -/
theorem atBoundary_of_alphanumeric {before rest : List Char}
    (plain : IsAlphanumeric (before ++ rest)) :
    Pattern.atBoundary UnicodeTables.isWord ⟨before.getLast?, rest⟩ =
      (before.isEmpty != rest.isEmpty) := by
  have last : before.getLast?.any UnicodeTables.isWord = !before.isEmpty := by
    cases same : before.getLast? with
    | none => simp [List.getLast?_eq_none_iff.mp same]
    | some character =>
        have member := List.mem_of_getLast? same
        have word := isWord_of_alphanumeric plain
          (List.mem_append_left rest member)
        simp [word, List.ne_nil_of_mem member]
  have next : rest.head?.any UnicodeTables.isWord = !rest.isEmpty := by
    cases rest with
    | nil => rfl
    | cons head rest =>
        have word := isWord_of_alphanumeric plain
          (List.mem_append_right before List.mem_cons_self)
        simp [word]
  rw [Pattern.atBoundary, last, next]
  cases before.isEmpty <;> cases rest.isEmpty <;> rfl

/-- A card is delimited by word boundaries, so it is the whole text. -/
theorem CREDIT_CARD_findAll_of_letter {text : List Char}
    (plain : IsAlphanumeric text) {letter : Char} (within : letter ∈ text)
    (alpha : letter.isDigit = false) : CREDIT_CARD.findAll text = [] := by
  apply Pattern.findAll_eq_nil_of_places CREDIT_CARD_advances
  intro before rest spells
  rw [List.eq_nil_iff_forall_not_mem]
  intro after member
  have advances := CREDIT_CARD_advances _ after member
  obtain ⟨read, reads, accepted⟩ := CREDIT_CARD.ends_leads member
  rw [CREDIT_CARD_ends, Pattern.mem_ends_delimited] at member
  obtain ⟨starts, -, ends⟩ := member
  rw [← spells] at plain within
  have some : rest ≠ [] := by
    rintro rfl
    exact absurd advances (Nat.not_lt_zero _)
  have first : before = [] := by
    rw [atBoundary_of_alphanumeric plain,
      List.isEmpty_eq_false_iff.mpr some] at starts
    simpa using starts
  subst first
  have whole : rest = read ++ after.rest := reads.rest
  have nonempty : read ≠ [] := by
    rintro rfl
    rw [whole, List.nil_append] at advances
    exact absurd advances (Nat.lt_irrefl _)
  have place : after = ⟨read.getLast?, after.rest⟩ := by
    have last := reads.last
    rw [List.getLast?_nil, Option.or_none] at last
    rw [← last]
  rw [List.nil_append, whole] at plain within
  rw [place, atBoundary_of_alphanumeric plain,
    List.isEmpty_eq_false_iff.mpr nonempty] at ends
  have last : after.rest = [] := by simpa using ends
  rw [last, List.append_nil] at within
  have digit := CREDIT_CARD_accepts_of_alphanumeric plain
    (List.mem_append_left _ within) (accepted letter within)
  rw [digit] at alpha
  cases alpha

/-- With a letter among them, letters and digits look like nothing. -/
theorem looksSensitive_of_letter {text : String}
    (plain : IsAlphanumeric text.toList) {letter : Char}
    (within : letter ∈ text.toList) (alpha : letter.isDigit = false) :
    looksSensitive text = false := by
  simp [looksSensitive, isCreditCard, Pattern.isMatch,
    EMAIL_findAll_of_alphanumeric plain, SSN_findAll_of_alphanumeric plain,
    CREDIT_CARD_findAll_of_letter plain within alpha]

/-- Before a digit, a group of the card pattern is its digit only. -/
theorem cardGroup_ends {last : Option Char} {digit : Char} {rest : List Char}
    (digits : AllDigits (digit :: rest)) :
    cardGroup.ends ⟨last, digit :: rest⟩ = [⟨some digit, rest⟩] := by
  obtain ⟨⟨ascii, isDigit⟩, digits⟩ := List.forall_mem_cons.mp digits
  have decimal : UnicodeTables.isDecimal digit = true := by
    rw [UnicodeTables.isDecimal_ascii digit ascii, isDigit]
  have none : Pattern.runEnds false (oneOf " -") (some digit) rest =
      [⟨some digit, rest⟩] := by
    cases rest with
    | nil => rfl
    | cons head rest =>
        have plain := AllDigits.isAlphanumeric digits
        have dash := plain.ne '-' (by decide) head List.mem_cons_self
        have space := plain.ne ' ' (by decide) head List.mem_cons_self
        simp [Pattern.runEnds, oneOf, dash, space]
  simp [cardGroup, Pattern.ends, decimal, none]

theorem timesEnds_digits {first rest : List Char} {last : Option Char}
    (digits : AllDigits (first ++ rest)) :
    Pattern.timesEnds cardGroup.ends first.length ⟨last, first ++ rest⟩ =
      [⟨first.getLast?.or last, rest⟩] := by
  induction first generalizing last with
  | nil => rfl
  | cons digit first induction =>
      rw [List.cons_append] at digits
      rw [List.length_cons, Pattern.timesEnds, List.cons_append,
        cardGroup_ends digits, List.flatMap_cons, List.flatMap_nil,
        List.append_nil, induction (List.forall_mem_cons.mp digits).2,
        List.getLast?_cons]
      cases first.getLast? <;> rfl

theorem upToEnds_digits {text : List Char} {last : Option Char}
    (digits : AllDigits text) :
    (Pattern.upToEnds cardGroup.ends text.length ⟨last, text⟩).head? =
      some ⟨text.getLast?.or last, []⟩ := by
  induction text generalizing last with
  | nil => rfl
  | cons digit text induction =>
      rw [List.length_cons, Pattern.upToEnds, cardGroup_ends digits,
        List.flatMap_cons, List.flatMap_nil, List.append_nil, List.head?_append,
        induction (List.forall_mem_cons.mp digits).2, List.getLast?_cons]
      cases text.getLast? <;> rfl

/-- The preferred match takes all sixteen digits. -/
theorem CREDIT_CARD_ends_digits {text : List Char} (digits : AllDigits text)
    (length : text.length = 16) :
    (CREDIT_CARD.ends ⟨none, text⟩).head? = some ⟨text.getLast?, []⟩ := by
  have some : text.isEmpty = false := by
    rw [List.isEmpty_eq_false_iff]
    rintro rfl
    cases length
  have plain : IsAlphanumeric (text ++ []) := by
    rw [List.append_nil]
    exact digits.isAlphanumeric
  have starts : Pattern.atBoundary UnicodeTables.isWord ⟨none, text⟩ = true := by
    have place := @atBoundary_of_alphanumeric _ [] text digits.isAlphanumeric
    rw [List.getLast?_nil, some] at place
    exact place
  have stops : Pattern.atBoundary UnicodeTables.isWord ⟨text.getLast?, []⟩ =
      true := by
    rw [atBoundary_of_alphanumeric plain, some]
    rfl
  have parts := List.take_append_drop 13 text
  have first : (text.take 13).length = 13 := by
    rw [List.length_take, length]
    rfl
  have rest : (text.drop 13).length = 3 := by
    rw [List.length_drop, length]
  rw [← parts] at digits
  have thirteen := @timesEnds_digits _ _ _ none digits
  have three := @upToEnds_digits _ (text.drop 13)
    ((text.take 13).getLast?.or none)
    fun character member => digits character (List.mem_append_right _ member)
  rw [first, parts] at thirteen
  rw [rest, Option.or_none, ← List.getLast?_append, parts] at three
  obtain ⟨more, ends⟩ := List.head?_eq_some_iff.mp three
  rw [CREDIT_CARD_ends, Pattern.ends_delimited, if_pos starts, Pattern.ends,
    Pattern.ends, thirteen, List.flatMap_cons, List.flatMap_nil,
    List.append_nil, Pattern.ends, Option.or_none, ends,
    List.filter_cons_of_pos stops, List.head?_cons]

private theorem CREDIT_CARD_search_digits {text : List Char}
    (digits : AllDigits text) (length : text.length = 16) :
    CREDIT_CARD.search text = [.found text] := by
  have reads : Cursor.Reads ⟨none, text⟩ text ⟨text.getLast?, []⟩ :=
    ⟨(List.append_nil text).symm, (Option.or_none).symm⟩
  rw [Pattern.search_eq_scan,
    Pattern.scan_found CREDIT_CARD_advances
      (CREDIT_CARD_ends_digits digits length) reads,
    Pattern.scan_at_end CREDIT_CARD_advances]

/-- Sixteen digits are taken for a card. -/
theorem scrubString_digits {text : String} (digits : AllDigits text.toList)
    (length : text.toList.length = 16) :
    looksSensitive text = true ∧ scrubString text = REDACTED := by
  have plain := digits.isAlphanumeric
  have noEmail : EMAIL.isMatch text.toList = false := by
    rw [Pattern.isMatch, EMAIL_findAll_of_alphanumeric plain]
    rfl
  have noNumber : SSN.isMatch text.toList = false := by
    rw [Pattern.isMatch, SSN_findAll_of_alphanumeric plain]
    rfl
  have found := CREDIT_CARD_search_digits digits length
  have counted := cardDigits_digits digits length
  constructor
  · simp [looksSensitive, isCreditCard, Pattern.findAll, found, counted]
  · apply String.toList_inj.mp
    rw [scrubString_toList, pass_of_no_match SSN_advances noNumber,
      pass_of_no_match EMAIL_advances noEmail]
    simp [pass, Pattern.replaceAll, found, counted]

end

namespace Db

private theorem hexDigits_length (width number : Nat) :
    (hexDigits width number).length = width := by
  induction width generalizing number with
  | zero => rfl
  | succ width induction =>
      rw [hexDigits, List.length_append, induction]
      rfl

theorem hexDigits_isAlphanumeric (width number : Nat) :
    IsAlphanumeric (hexDigits width number) := by
  have digit : ∀ digit : Fin 16, (Nat.digitChar digit).val < 128 ∧
      (Nat.digitChar digit).isAlphanum = true := by
    decide
  induction width generalizing number with
  | zero =>
      intro character member
      cases member
  | succ width induction =>
      intro character member
      rcases List.mem_append.mp member with earlier | last
      · exact induction _ character earlier
      · rw [List.mem_singleton.mp last]
        exact digit ⟨number % 16, Nat.mod_lt number (by decide)⟩

end Db

/-- Some digit of the fingerprint is a letter. -/
def HasLetter (hash : String) : Prop :=
  ∃ letter ∈ hash.toList, letter.isDigit = false

instance (hash : String) : Decidable (HasLetter hash) :=
  decidable_of_iff (hash.toList.any fun letter => !letter.isDigit)
    (by simp [HasLetter])

section

variable [UnicodeTables]

/-- What is left of a fingerprint. -/
theorem scrubText_queryHash (digest : String → UInt64) (normalized : String) :
    let hash := Db.queryHash digest normalized
    (HasLetter hash → scrubText "queryHash" hash = hash) ∧
      (¬ HasLetter hash → scrubText "queryHash" hash = REDACTED) := by
  intro hash
  have characters : hash.toList = Db.hexDigits 16 (digest normalized).toNat :=
    String.toList_ofList
  have plain : IsAlphanumeric hash.toList := by
    rw [characters]
    exact Db.hexDigits_isAlphanumeric 16 _
  have noRule : isSensitiveKey "queryHash" = false ∧
      isIdentityKey "queryHash" = false := by
    decide
  constructor
  · rintro ⟨letter, member, alpha⟩
    simp [scrubText, noRule, looksSensitive_of_letter plain member alpha]
  · intro none
    have digits : AllDigits hash.toList := by
      intro character member
      refine ⟨(plain character member).1, ?_⟩
      by_contra other
      exact none ⟨character, member, Bool.eq_false_of_not_eq_true other⟩
    have length : hash.toList.length = 16 := by
      rw [characters, Db.hexDigits_length]
    obtain ⟨sensitive, scrubbed⟩ := scrubString_digits digits length
    simp [scrubText, noRule, sensitive, scrubbed]

end

namespace World

/-- The fingerprint of the record that went out between two worlds. -/
def sentQueryHash (before after : World) : Option String := do
  let sent ← (after.sent.drop before.sent.length).head?
  let records ← batchFromValue "queries" DbQueryRecord.fromValue sent.2.body
  records.head?.map DbQueryRecord.queryHash

theorem sentQueryHash_ingest [UnicodeTables] (world : World)
    {client : ClientId}
    (enabled : (world.clients client).client.isEnabled = true)
    (privateByDefault :
      (world.clients client).client.options.sendDefaultPii = false)
    (record : DbQueryRecord) :
    sentQueryHash world (world.ingest client fun client counters =>
        client.captureDbQueries [record] counters) =
      some (scrubText "queryHash" record.queryHash) := by
  have sent : (world.ingest client fun client counters =>
      client.captureDbQueries [record] counters).sent = world.sent ++
        [(client, ⟨"/ingest/v1/db", .db,
          scrubValue (batch "queries" ([record].map DbQueryRecord.toValue))⟩)] := by
    simp [ingest, Client.captureDbQueries, Client.captureBatch,
      Client.capturePayload, Client.deliver, enabled, privateByDefault]
  have plain : Plain "queries" := plain_field (by simp [PLAIN_KEYS])
  have reads := batch_reads_scrubbed plain DbQueryRecord.reads_scrubbed [record]
  simp only [sentQueryHash, sent, List.drop_left, List.head?_cons,
    Option.bind_eq_bind, Option.bind_some]
  rw [reads]
  rfl

section

variable [UnicodeTables] [AlphanumericTable] (digest : String → UInt64)
  (world : World) (hub : HubId) (sql : String) (durationMs : UInt64)
  (errorMessage databaseType : Option String) (timestampMillis : UInt64)

theorem sentQueryHash_captureQuery {client : ClientId}
    (bound : (world.hubs hub).client = some client)
    (enabled : (world.clients client).client.isEnabled = true)
    (privateByDefault :
      (world.clients client).client.options.sendDefaultPii = false) :
    sentQueryHash world (world.captureQuery digest hub sql durationMs
        errorMessage databaseType timestampMillis) =
      some (scrubText "queryHash"
        (Db.queryHash digest (Db.normalizeQuery sql))) := by
  unfold captureQuery
  rw [bound]
  exact sentQueryHash_ingest world enabled privateByDefault
    (world.buildRecord digest hub sql durationMs errorMessage databaseType
      timestampMillis)

/-- The fingerprint arrives exactly where its rendering has a letter.  The marker
itself has letters, so it is no fingerprint without one. -/
theorem captureQuery_keeps_hash_iff {client : ClientId}
    (bound : (world.hubs hub).client = some client)
    (enabled : (world.clients client).client.isEnabled = true)
    (privateByDefault :
      (world.clients client).client.options.sendDefaultPii = false) :
    sentQueryHash world (world.captureQuery digest hub sql durationMs
        errorMessage databaseType timestampMillis) =
      some (Db.queryHash digest (Db.normalizeQuery sql)) ↔
    HasLetter (Db.queryHash digest (Db.normalizeQuery sql)) := by
  obtain ⟨kept, lost⟩ := scrubText_queryHash digest (Db.normalizeQuery sql)
  rw [sentQueryHash_captureQuery digest world hub sql durationMs errorMessage
    databaseType timestampMillis bound enabled privateByDefault,
    Option.some.injEq]
  constructor
  · intro same
    by_contra none
    rw [lost none] at same
    apply none
    rw [← same]
    decide
  · exact kept

end

/-- The main hub with a client that has a transport. -/
def queryWorld : World :=
  (initial.newClient { apiKey := "key" }).2.onHub main (Hub.bindClient (some 0))

/-- Digests of the standard hasher for two statements, zero for any other. -/
def sampleDigest (normalized : String) : UInt64 :=
  if normalized = "SELECT email FROM users WHERE city = ?" then 0x9418621019688711
  else if normalized = "SELECT id FROM products WHERE name = ?" then
    0x4098010732714548
  else if normalized = "COMMIT" then 0xabc
  else 0

theorem captureQuery_keeps_hash_iff_commit :
    @sentQueryHash queryWorld
        (@captureQuery asciiAlphanumeric asciiTables sampleDigest main "COMMIT" 3
          none none 1 queryWorld) =
      some "0000000000000abc" := by
  have hash : Db.queryHash sampleDigest
      (@Db.normalizeQuery asciiAlphanumeric "COMMIT") = "0000000000000abc" := by
    decide +kernel
  have letter : HasLetter "0000000000000abc" := by decide +kernel
  have kept := (@captureQuery_keeps_hash_iff asciiTables asciiAlphanumeric
    sampleDigest queryWorld main "COMMIT" 3 none none 1 0 rfl (by decide)
    rfl).mpr
  rw [hash] at kept
  exact kept letter

/-- Two statements whose fingerprints are decimal reach the server as one. -/
theorem captureQuery_loses_hash :
    let send := fun sql => @sentQueryHash queryWorld
      (@captureQuery asciiAlphanumeric asciiTables sampleDigest main sql 3
        none none 1 queryWorld)
    let hash := fun sql => Db.queryHash sampleDigest
      (@Db.normalizeQuery asciiAlphanumeric sql)
    let first := "SELECT email FROM users WHERE city = 'Oslo'"
    let second := "SELECT id FROM products WHERE name = 'pen'"
    send first ≠ some (hash first) ∧ hash first ≠ hash second ∧
      send first = send second := by
  intro send hash first second
  have marked (sql : String) (none : ¬ HasLetter (hash sql)) :
      send sql = some REDACTED := by
    have sent := @sentQueryHash_captureQuery asciiTables asciiAlphanumeric
      sampleDigest queryWorld main sql 3 .none .none 1 0 rfl (by decide) rfl
    rw [(@scrubText_queryHash asciiTables sampleDigest _).2 none] at sent
    exact sent
  have lost := marked first (by decide +kernel)
  have lostToo := marked second (by decide +kernel)
  rw [lost, lostToo]
  decide +kernel

end World

end Allstak
