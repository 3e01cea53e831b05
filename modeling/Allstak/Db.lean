import Allstak.Hub

/-!
# Database queries

A statement is stored normalized, with a fingerprint of the normalized text and
the class of its leading keyword, under the trace of the current scope.  The
standard hasher is a parameter, because its algorithm is not specified.
-/

namespace Allstak

/-- The Unicode class of `char::is_alphanumeric`. -/
class AlphanumericTable where
  isAlphanumeric : Char → Bool
  isAlphanumeric_ascii : ∀ character, character.val < 128 →
    isAlphanumeric character = character.isAlphanum

/-- The table restricted to ASCII. -/
@[reducible] def asciiAlphanumeric : AlphanumericTable where
  isAlphanumeric := Char.isAlphanum
  isAlphanumeric_ascii _ _ := rfl

namespace Db

/-- What follows a string literal whose opening quote is read; a doubled quote
stays inside, and an open literal takes the rest. -/
def skipLiteral : List Char → List Char
  | [] => []
  | '\'' :: '\'' :: rest => skipLiteral rest
  | '\'' :: rest => rest
  | _ :: rest => skipLiteral rest

private theorem skipLiteral_length_le (text : List Char) :
    (skipLiteral text).length ≤ text.length := by
  fun_induction skipLiteral text with
  | case1 => exact Nat.le_refl _
  | case2 rest induction =>
      simp only [List.length_cons]
      omega
  | case3 rest _ => exact Nat.le_succ _
  | case4 character rest _ _ induction => exact Nat.le_succ_of_le induction

def isNumberPart (character : Char) : Bool :=
  character.isDigit || character == '.'

section

variable [AlphanumericTable]

/-- Whether a digit after this output starts a token. -/
def startsToken (out : List Char) : Bool :=
  match out.getLast? with
  | none => true
  | some last => !AlphanumericTable.isAlphanumeric last && last != '_'

/-- The loop over the characters, with what it has pushed so far. -/
def normalizeLoop (out : List Char) (lastWasSpace : Bool) :
    List Char → List Char
  | [] => out
  | character :: rest =>
      if character = '\'' then
        normalizeLoop (out ++ ['?']) false (skipLiteral rest)
      else if character.isDigit && startsToken out then
        normalizeLoop (out ++ ['?']) false (rest.dropWhile isNumberPart)
      else if Text.isWhitespace character then
        if !lastWasSpace && !out.isEmpty then
          normalizeLoop (out ++ [' ']) true rest
        else normalizeLoop out lastWasSpace rest
      else normalizeLoop (out ++ [character]) false rest
termination_by text => text.length
decreasing_by
  · exact Nat.lt_succ_of_le (skipLiteral_length_le rest)
  · exact Nat.lt_succ_of_le (List.dropWhile_suffix _).length_le
  all_goals exact Nat.lt_succ_self _

def normalizeQuery (sql : String) : String :=
  String.ofList (Text.trim (normalizeLoop [] false sql.toList))

end

/-- The last hexadecimal digits of a number, in lower case. -/
def hexDigits : Nat → Nat → List Char
  | 0, _ => []
  | width + 1, number =>
      hexDigits width (number / 16) ++ [Nat.digitChar (number % 16)]

/-- `{:016x}` of the digest. -/
def queryHash (digest : String → UInt64) (normalized : String) : String :=
  String.ofList (hexDigits 16 (digest normalized).toNat)

def QUERY_TYPES : List String :=
  ["SELECT", "INSERT", "UPDATE", "DELETE", "BEGIN", "COMMIT", "ROLLBACK",
    "CREATE", "DROP", "ALTER", "WITH", "UPSERT", "MERGE", "CALL", "EXEC",
    "EXECUTE", "SET", "SAVEPOINT", "RELEASE"]

/-- The first part of `split_whitespace`, or nothing. -/
def leadingWord (text : List Char) : List Char :=
  (text.dropWhile Text.isWhitespace).takeWhile fun character =>
    !Text.isWhitespace character

def queryType (sql : String) : String :=
  let keyword := String.ofList ((leadingWord sql.toList).map Char.toUpper)
  if QUERY_TYPES.contains keyword then keyword else "OTHER"

end Db

namespace World

section

variable [AlphanumericTable]

/-- `build_record` on a thread whose current hub is the given one. -/
def buildRecord (digest : String → UInt64) (hub : HubId) (sql : String)
    (durationMs : UInt64) (errorMessage databaseType : Option String)
    (timestampMillis : UInt64) (world : World) : DbQueryRecord :=
  let normalized := Db.normalizeQuery sql
  let context := (world.hubs hub).currentTraceContext
  let options := (world.hubs hub).client.map fun client =>
    (world.clients client).client.options
  { normalizedQuery := normalized
    queryHash := Db.queryHash digest normalized
    queryType := Db.queryType sql
    durationMs
    timestampMillis
    status := if errorMessage.isSome then "error" else "ok"
    errorMessage
    databaseName := none
    databaseType
    service := options.bind ClientOptions.serverName
    environment := options.map ClientOptions.resolvedEnvironment
    traceId := context.traceId
    spanId := context.parentSpanId }

def captureQuery [UnicodeTables] (digest : String → UInt64) (hub : HubId)
    (sql : String) (durationMs : UInt64)
    (errorMessage databaseType : Option String) (timestampMillis : UInt64)
    (world : World) : World :=
  let record := world.buildRecord digest hub sql durationMs errorMessage
    databaseType timestampMillis
  match (world.hubs hub).client with
  | none => world
  | some client =>
      world.ingest client fun client counters =>
        client.captureDbQueries [record] counters

end

end World

end Allstak
