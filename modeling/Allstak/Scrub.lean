import Allstak.Json
import Allstak.Text
import Allstak.Library.Regex

/-!
# Value scrubbing

When `send_default_pii` is off, every outbound payload is walked.  The entry of
a sensitive key is replaced by the marker, the entry of an identity key is left
as it is, and any other string that matches a sensitive pattern is rewritten.
-/

namespace Allstak

open Library

def REDACTED : String := "[redacted]"

def SENSITIVE_KEY_TERMS : List String :=
  ["authorization", "proxy-authorization", "cookie", "set-cookie", "password",
    "passwd", "pwd", "api_key", "apikey", "x-api-key", "x-allstak-key",
    "x-auth-token", "x-access-token", "token", "bearer", "jwt", "secret",
    "credit_card", "card_number", "cvv", "ssn", "csrf"]

def IDENTITY_KEY_EXEMPTIONS : List String :=
  ["release", "environment", "sdkname", "sdkversion", "platform", "dist",
    "traceid", "spanid", "parentspanid", "requestid", "sessionid",
    "transactionid"]

def oneOf (characters : String) (character : Char) : Bool :=
  characters.toList.contains character

/-- `[a-z]` under the `i` flag: the ASCII letters and the two characters that
fold to one of them, long s and the Kelvin sign. -/
def letter (character : Char) : Bool :=
  character.isAlpha || character == '\u017F' || character == '\u212A'

def letterOrDigit (character : Char) : Bool :=
  letter character || character.isDigit

def oneOrMore (accepts : Char → Bool) : Pattern :=
  .seq (.char accepts) (.many true accepts)

def sequence : List Pattern → Pattern
  | [] => .times 0 (.char fun _ => true)
  | [pattern] => pattern
  | pattern :: patterns => .seq pattern (sequence patterns)

/-- `(?i)[a-z0-9._%+\-]+@[a-z0-9.\-]+\.[a-z]{2,}` -/
def EMAIL : Pattern :=
  sequence
    [oneOrMore fun character => letterOrDigit character || oneOf "._%+-" character,
      .char (· == '@'),
      oneOrMore fun character => letterOrDigit character || oneOf ".-" character,
      .char (· == '.'),
      .times 2 (.char letter),
      .many true letter]

section Tables

variable [UnicodeTables]

/-- `\b(?:\d[ -]*?){13,16}\b` -/
def CREDIT_CARD : Pattern :=
  let group : Pattern :=
    .seq (.char UnicodeTables.isDecimal) (.many false (oneOf " -"))
  sequence
    [.boundary UnicodeTables.isWord, .times 13 group, .upTo 3 group,
      .boundary UnicodeTables.isWord]

/-- `\b\d{3}[- ]\d{2}[- ]\d{4}\b` -/
def SSN : Pattern :=
  let digits (length : Nat) : Pattern :=
    .times length (.char UnicodeTables.isDecimal)
  sequence
    [.boundary UnicodeTables.isWord, digits 3, .char (oneOf "- "), digits 2,
      .char (oneOf "- "), digits 4, .boundary UnicodeTables.isWord]

/-- A match of the card pattern counts when it has 13 to 16 ASCII digits. -/
def cardDigits (found : List Char) : Bool :=
  let digits := (found.filter Char.isDigit).length
  13 ≤ digits && digits ≤ 16

def isCreditCard (text : List Char) : Bool :=
  (CREDIT_CARD.findAll text).any cardDigits

/-- Whether a string contains a sensitive pattern. -/
def looksSensitive (text : String) : Bool :=
  EMAIL.isMatch text.toList || SSN.isMatch text.toList || isCreditCard text.toList

/-- The three replacement passes, each over the result of the one before. -/
def scrubString (text : String) : String :=
  let marker := REDACTED.toList
  let out := SSN.replaceAll (fun _ => marker) text.toList
  let out := EMAIL.replaceAll (fun _ => marker) out
  let out := CREDIT_CARD.replaceAll
    (fun found => if cardDigits found then marker else found) out
  String.ofList out

section NoDecimal

variable {text : List Char} (lacks : ∀ character ∈ text,
  UnicodeTables.isDecimal character = false)

include lacks

theorem SSN_findAll_of_no_decimal : SSN.findAll text = [] := by
  apply Pattern.findAll_eq_nil
  intro cursor within
  apply Pattern.ends_seq_boundary_eq_nil
  apply Pattern.ends_seq_eq_nil
  apply Pattern.ends_times_eq_nil
  exact Pattern.ends_char_eq_nil fun character member =>
    lacks character (within.subset member)

theorem CREDIT_CARD_findAll_of_no_decimal : CREDIT_CARD.findAll text = [] := by
  apply Pattern.findAll_eq_nil
  intro cursor within
  apply Pattern.ends_seq_boundary_eq_nil
  apply Pattern.ends_seq_eq_nil
  apply Pattern.ends_times_eq_nil
  apply Pattern.ends_seq_eq_nil
  exact Pattern.ends_char_eq_nil fun character member =>
    lacks character (within.subset member)

end NoDecimal

/-- Without a digit of any script there is neither a card nor a social security
number. -/
theorem looksSensitive_of_no_decimal {text : String}
    (lacks : ∀ character ∈ text.toList,
      UnicodeTables.isDecimal character = false) :
    looksSensitive text = EMAIL.isMatch text.toList := by
  rw [looksSensitive, isCreditCard, Pattern.isMatch, Pattern.isMatch,
    SSN_findAll_of_no_decimal lacks, CREDIT_CARD_findAll_of_no_decimal lacks]
  simp

/-- An ASCII text without digits is sensitive only as an e-mail address. -/
theorem looksSensitive_of_ascii {text : String}
    (undigited : text.toList.all (fun character =>
      decide (character.val < 128 ∧ character.isDigit = false)) = true) :
    looksSensitive text = EMAIL.isMatch text.toList := by
  apply looksSensitive_of_no_decimal
  intro character member
  have ascii := of_decide_eq_true (List.all_eq_true.mp undigited character member)
  rw [UnicodeTables.isDecimal_ascii character ascii.1]
  exact ascii.2

end Tables

def isSensitiveKey (key : String) : Bool :=
  let lower := Text.toAsciiLowercase key
  SENSITIVE_KEY_TERMS.any (Text.contains lower)

def isIdentityKey (key : String) : Bool :=
  let compact := Text.toAsciiLowercase
    (String.ofList (key.toList.filter Char.isAlphanum))
  IDENTITY_KEY_EXEMPTIONS.any (compact == ·)

section Values

variable [UnicodeTables]

mutual

def scrubValue : Value → Value
  | .string text =>
      if looksSensitive text then .string (scrubString text) else .string text
  | .array items => .array (scrubItems items)
  | .object entries => .object (scrubEntries entries)
  | .null => .null
  | .bool value => .bool value
  | .number value => .number value

def scrubItems : List Value → List Value
  | [] => []
  | item :: items => scrubValue item :: scrubItems items

def scrubEntries : List (String × Value) → List (String × Value)
  | [] => []
  | (key, value) :: entries =>
      let scrubbed :=
        if isSensitiveKey key then .string REDACTED
        else if isIdentityKey key then value
        else scrubValue value
      (key, scrubbed) :: scrubEntries entries

end

/-- What scrubbing leaves at an entry. -/
def scrubEntry (key : String) (value : Value) : Value :=
  if isSensitiveKey key then .string REDACTED
  else if isIdentityKey key then value
  else scrubValue value

/-- Scrubbing keeps the keys and their order, so an entry is found where it
was. -/
theorem lookup_scrubEntries (key : String) (entries : List (String × Value)) :
    (scrubEntries entries).lookup key =
      (entries.lookup key).map (scrubEntry key) := by
  induction entries with
  | nil => rfl
  | cons entry entries induction =>
      obtain ⟨head, value⟩ := entry
      cases same : key == head with
      | true =>
          have equal : key = head := by simpa using same
          subst equal
          simp [scrubEntries, scrubEntry]
      | false => simp only [scrubEntries, List.lookup_cons, same, induction]

theorem get_scrubValue (value : Value) (key : String) :
    (scrubValue value).get key = (value.get key).map (scrubEntry key) := by
  cases value with
  | object entries => exact lookup_scrubEntries key entries
  | string text =>
      rw [scrubValue]
      split <;> rfl
  | null | bool | number | array => rfl

end Values

end Allstak
