import Allstak.Db
import Allstak.Library.FoldHash
import Allstak.Transport.Spool

/-!
# The directory of the spool

Without a configured directory, the offline queue of a client lies in the
temporary directory under a hash of its api key.  The hash is FNV-1a with 64
bits, written with 16 hexadecimal digits.
-/

namespace Allstak

namespace SpoolDirectory

def OFFSET_BASIS : UInt64 := 0xcbf29ce484222325

def PRIME : UInt64 := 0x100000001b3

/-- The body of the loop. -/
def mix (hash : UInt64) (byte : UInt8) : UInt64 :=
  (hash ^^^ byte.toUInt64) * PRIME

def hashBytes (bytes : List UInt8) : UInt64 := bytes.foldl mix OFFSET_BASIS

def stableHashHex (bytes : List UInt8) : String :=
  String.ofList (Db.hexDigits 16 (hashBytes bytes).toNat)

/-- `tempDir` ends with a separator. -/
def defaultOfflineQueueDir (tempDir apiKey : String) : String :=
  tempDir ++ ("allstak-rust-spool-" ++ stableHashHex apiKey.toUTF8.data.toList)

/-- The options the spool is made from. -/
structure QueueOptions where
  apiKey : String
  enableOfflineQueue : Bool := true
  offlineQueueDir : Option String := none
  offlineQueueMaxEvents : Nat := 100
  offlineQueueMaxBytes : Nat := 5 * 1024 * 1024

/-- The directory and the limits; `ensureDir` says whether the directory could
be created. -/
def fromOptions (tempDir : String) (ensureDir : String → Bool)
    (options : QueueOptions) : Option (String × EventSpool) :=
  if !options.enableOfflineQueue then none
  else
    let dir := options.offlineQueueDir.getD
      (defaultOfflineQueueDir tempDir options.apiKey)
    if ensureDir dir then
      some (dir,
        EventSpool.fromOptions options.offlineQueueMaxEvents
          options.offlineQueueMaxBytes)
    else none

/-- The inverse of the prime modulo `2 ^ 64`. -/
def PRIME_INVERSE : UInt64 := 0xce965057aff6957b

private theorem mul_prime_injective : Function.Injective (· * PRIME) := by
  intro left right same
  have undone : ∀ hash : UInt64, hash * PRIME * PRIME_INVERSE = hash := by
    intro hash
    have inverse : PRIME * PRIME_INVERSE = 1 := by decide
    rw [UInt64.mul_assoc, inverse, UInt64.mul_one]
  rw [← undone left, ← undone right]
  exact congrArg (· * PRIME_INVERSE) same

private theorem mix_undo (byte : UInt8) : Function.Injective (mix · byte) := by
  intro left right same
  have mixed := mul_prime_injective same
  have undone : ∀ hash : UInt64,
      hash ^^^ byte.toUInt64 ^^^ byte.toUInt64 = hash := by
    intro hash
    rw [UInt64.xor_assoc, UInt64.xor_self, UInt64.xor_zero]
  rw [← undone left, ← undone right]
  exact congrArg (· ^^^ byte.toUInt64) mixed

theorem mix_separate (hash : UInt64) : Function.Injective (mix hash) := by
  intro left right same
  have mixed := mul_prime_injective same
  have undone : ∀ byte : UInt8,
      hash ^^^ (hash ^^^ byte.toUInt64) = byte.toUInt64 := by
    intro byte
    rw [← UInt64.xor_assoc, UInt64.xor_self, UInt64.zero_xor]
  apply UInt8.toUInt64_inj.mp
  rw [← undone left, ← undone right]
  exact congrArg (hash ^^^ ·) mixed

private theorem digitChar_injective {left right : Nat} (small : left < 16)
    (smaller : right < 16) (same : Nat.digitChar left = Nat.digitChar right) :
    left = right := by
  have digits : ∀ left right : Fin 16,
      Nat.digitChar left = Nat.digitChar right → left = right := by decide
  have equal := digits ⟨left, small⟩ ⟨right, smaller⟩ same
  exact congrArg Fin.val equal

/-- The digits of a number that fits determine it. -/
theorem hexDigits_injective {width left right : Nat} (fits : left < 16 ^ width)
    (alsoFits : right < 16 ^ width)
    (same : Db.hexDigits width left = Db.hexDigits width right) :
    left = right := by
  induction width generalizing left right with
  | zero => omega
  | succ width induction =>
      simp only [Db.hexDigits] at same
      obtain ⟨high, low⟩ := List.append_inj' same rfl
      have last := digitChar_injective (Nat.mod_lt left (by decide))
        (Nat.mod_lt right (by decide)) (List.singleton_inj.mp low)
      have rest := @induction (left / 16) (right / 16) (by omega) (by omega) high
      omega

theorem stableHashHex_inj {left right : List UInt8} :
    stableHashHex left = stableHashHex right ↔ hashBytes left = hashBytes right := by
  constructor
  · intro same
    have digits := congrArg String.toList same
    simp only [stableHashHex, String.toList_ofList] at digits
    apply UInt64.toNat.inj
    exact hexDigits_injective (hashBytes left).toNat_lt
      (hashBytes right).toNat_lt digits
  · intro same
    rw [stableHashHex, stableHashHex, same]

theorem defaultOfflineQueueDir_inj (tempDir : String) {left right : String} :
    defaultOfflineQueueDir tempDir left = defaultOfflineQueueDir tempDir right ↔
      hashBytes left.toUTF8.data.toList = hashBytes right.toUTF8.data.toList := by
  rw [defaultOfflineQueueDir, defaultOfflineQueueDir, ← stableHashHex_inj]
  constructor
  · intro same
    have texts := congrArg String.toList same
    simp only [String.toList_append] at texts
    exact String.toList_inj.mp
      (List.append_cancel_left (List.append_cancel_left texts))
  · intro same
    rw [same]

/-- Two clients that keep their queues in the default place, and whose api keys
have bytes that differ at one position at most, use one directory only when the
keys are equal. -/
theorem queues_apart (tempDir : String) (ensureDir : String → Bool)
    (first second : QueueOptions) (firstSpool secondSpool : String × EventSpool)
    (unplaced : first.offlineQueueDir = none ∧ second.offlineQueueDir = none)
    (before after : List UInt8) (one other : UInt8)
    (bytes : first.apiKey.toUTF8.data.toList = before ++ one :: after)
    (otherBytes : second.apiKey.toUTF8.data.toList = before ++ other :: after)
    (opened : fromOptions tempDir ensureDir first = some firstSpool)
    (alsoOpened : fromOptions tempDir ensureDir second = some secondSpool) :
    firstSpool.1 = secondSpool.1 ↔ first.apiKey = second.apiKey := by
  have placed {options : QueueOptions} {spool : String × EventSpool}
      (unplaced : options.offlineQueueDir = none)
      (opened : fromOptions tempDir ensureDir options = some spool) :
      spool.1 = defaultOfflineQueueDir tempDir options.apiKey := by
    rw [fromOptions, unplaced] at opened
    split at opened
    · cases opened
    · dsimp only [Option.getD_none] at opened
      split at opened
      · cases opened
        rfl
      · cases opened
  rw [placed unplaced.1 opened, placed unplaced.2 alsoOpened,
    defaultOfflineQueueDir_inj, bytes, otherBytes, hashBytes, hashBytes,
    Library.FoldHash.foldl_position_iff mix_undo mix_separate]
  constructor
  · intro same
    have equal : first.apiKey.toUTF8 = second.apiKey.toUTF8 := by
      apply ByteArray.ext
      apply Array.toList_inj.mp
      rw [bytes, otherBytes, same]
    exact String.toByteArray_inj.mp equal
  · intro same
    rw [same, otherBytes] at bytes
    have rest := List.append_cancel_left bytes
    exact (List.cons.inj rest).1.symm

theorem queues_apart_keys :
    ∃ first second : String × EventSpool,
      fromOptions "/tmp/" (fun _ => true) { apiKey := "ask_a1" } = some first ∧
        fromOptions "/tmp/" (fun _ => true) { apiKey := "ask_b1" } = some second ∧
        (first.1 = second.1 ↔ "ask_a1" = "ask_b1") := by
  refine ⟨_, _, rfl, rfl, ?_⟩
  apply queues_apart "/tmp/" (fun _ => true) { apiKey := "ask_a1" }
    { apiKey := "ask_b1" } _ _ ⟨rfl, rfl⟩ [97, 115, 107, 95] [49] 97 98
  · rfl
  · rfl
  · rfl
  · rfl

end SpoolDirectory

end Allstak
