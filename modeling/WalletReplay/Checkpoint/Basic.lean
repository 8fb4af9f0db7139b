import WalletReplay.Text.Decimal
import WalletReplay.Text.Hex

/-!
# Checkpoints

A checkpoint is a known-good block: its height, the time it was created and its hash. One checkpoint
has no hash, the genesis checkpoint, from which a replay starts when nothing better is known.

Heights are 32-bit. A time is kept to the nanosecond; a checkpoint file gives whole seconds, and
times are written as whole seconds, rounded down.
-/

namespace WalletReplay

/-- A block height, an unsigned 32-bit number. -/
abbrev Height := Fin 4294967296

/-- The height of the first block. -/
def Height.zero : Height := ⟨0, by decide⟩

/-- The height a natural number denotes, if it is below the limit. -/
def Height.ofNat? (n : Nat) : Option Height :=
  if h : n < 4294967296 then some ⟨n, h⟩ else none

/-- A point in time, in nanoseconds since the start of 1970 (UTC). -/
structure Timestamp where
  /-- Nanoseconds since the start of 1970, negative before it. -/
  nanoseconds : Int
  deriving DecidableEq, Repr

namespace Timestamp

instance : LT Timestamp := ⟨fun s t => s.nanoseconds < t.nanoseconds⟩
instance : LE Timestamp := ⟨fun s t => s.nanoseconds ≤ t.nanoseconds⟩
instance (s t : Timestamp) : Decidable (s < t) := Int.decLt ..
instance (s t : Timestamp) : Decidable (s ≤ t) := Int.decLe ..

/-- The time some seconds and nanoseconds after the start of 1970. -/
def ofParts (seconds : Int) (nanoseconds : Nat) : Timestamp :=
  ⟨seconds * 1000000000 + nanoseconds⟩

/-- A time of whole seconds. -/
def ofSeconds (seconds : Int) : Timestamp :=
  ofParts seconds 0

/-- The last whole second not after the time. -/
def seconds (t : Timestamp) : Int :=
  t.nanoseconds / 1000000000

/-- The nanoseconds since that second. -/
def subsecond (t : Timestamp) : Nat :=
  (t.nanoseconds % 1000000000).toNat

/-- The first second of the year -9999. -/
def minSeconds : Int := -377705116800

/-- The last second of the year 9999. -/
def maxSeconds : Int := 253402300799

/-- The time of whole seconds, if its year is in -9999 to 9999. -/
def ofSeconds? (seconds : Int) : Option Timestamp :=
  if minSeconds ≤ seconds ∧ seconds ≤ maxSeconds then some (ofSeconds seconds) else none

/-- A time of whole seconds keeps its seconds. -/
theorem seconds_ofSeconds (z : Int) : (ofSeconds z).seconds = z := by
  simp only [ofSeconds, ofParts, seconds]
  omega

end Timestamp

/-- The hash of a block: 32 bytes, in the order in which they are written. -/
structure BlockHash where
  /-- The bytes, first written first. -/
  bytes : List UInt8
  /-- There are 32 of them. -/
  length_eq : bytes.length = 32
  deriving DecidableEq

namespace BlockHash

/-- The hash that 64 hexadecimal digits denote. -/
def ofHex? (cs : List Char) : Option BlockHash :=
  match Text.Hex.decode cs with
  | none => none
  | some bytes => if h : bytes.length = 32 then some ⟨bytes, h⟩ else none

/-- The 64 lower-case hexadecimal digits of a hash. -/
def toHex (hash : BlockHash) : List Char :=
  Text.Hex.encode hash.bytes

/-- A written hash reads back. -/
theorem ofHex?_toHex (hash : BlockHash) : ofHex? hash.toHex = some hash := by
  simp [ofHex?, toHex, Text.Hex.decode_encode, hash.length_eq]

end BlockHash

/-- A known-good block from which a replay can start. -/
structure Checkpoint where
  /-- The height of the block. -/
  height : Height
  /-- When the block was created. -/
  time : Timestamp
  /-- The hash of the block; the genesis checkpoint has none. -/
  hash : Option BlockHash
  deriving DecidableEq

namespace Checkpoint

/-- Where a replay starts when nothing better is known: before the first block. -/
def genesis : Checkpoint :=
  { height := .zero, time := .ofSeconds 0, hash := none }

/-- Whether a replay from here covers the whole chain. -/
def isGenesis (c : Checkpoint) : Bool :=
  c.height = .zero

/-- A checkpoint as one line: height, seconds and hash, or the word `genesis` for want of a hash. -/
def line (c : Checkpoint) : List Char :=
  Text.Decimal.ofNat c.height.val ++ ' ' :: Text.Decimal.ofInt c.time.seconds ++ ' ' ::
    match c.hash with
    | some hash => hash.toHex
    | none => "genesis".toList

end Checkpoint

end WalletReplay
