import Refetch.Bytes
/-!
# Block hashes

A hash that works on blocks of a fixed size is an initial state, a step that takes in one block, and
a reading of the last state. The message is padded to whole blocks by a mark, zeros and its length
in bits.

1. `digest` is the hash of a whole message.
2. `Hasher` takes the message in any pieces; it keeps the bytes that do not yet fill a block.
-/

namespace Refetch.Digest

structure BlockHash where
  State : Type
  /-- The size of a block in bytes. -/
  blockSize : Nat
  /-- The size of the length field that ends the padding. -/
  lengthSize : Nat
  initial : State
  step : State → Bytes → State
  output : State → Bytes
  blockSize_pos : 0 < blockSize

/-- The `k` low bytes of a number, the highest of them first. -/
def bigEndian (k n : Nat) : Bytes :=
  (List.range k).reverse.map fun i => UInt8.ofNat (n >>> (8 * i))

namespace BlockHash

variable (h : BlockHash)

/-- The bytes that follow a message of so many bytes. -/
def padding (length : Nat) : Bytes :=
  let used := (length + 1 + h.lengthSize) % h.blockSize
  0x80 :: List.replicate (if used = 0 then 0 else h.blockSize - used) 0 ++
    bigEndian h.lengthSize (8 * length)

/-- There is no whole block among the bytes. -/
def isShort (bs : Bytes) : Bool := (bs.drop (h.blockSize - 1)).isEmpty

theorem isShort_iff (bs : Bytes) : h.isShort bs = true ↔ bs.length < h.blockSize := by
  have := h.blockSize_pos
  simp only [isShort, List.isEmpty_iff, List.drop_eq_nil_iff]
  omega

/-- Takes in all whole blocks; gives the state and the bytes left over. -/
def absorb (s : h.State) (bs : Bytes) : h.State × Bytes :=
  if h.isShort bs then (s, bs)
  else absorb (h.step s (bs.take h.blockSize)) (bs.drop h.blockSize)
termination_by bs.length
decreasing_by
  rename_i hs
  rw [isShort_iff] at hs
  have := h.blockSize_pos
  simp only [List.length_drop]
  omega

/-- The hash of a whole message. -/
def digest (message : Bytes) : Bytes :=
  h.output (h.absorb h.initial (message ++ h.padding message.length)).1

end BlockHash

/-- A hash under way. -/
structure Hasher (h : BlockHash) where
  state : h.State
  /-- The bytes that do not yet fill a block. -/
  pending : Bytes
  /-- The number of bytes taken in. -/
  length : Nat

namespace Hasher

variable {h : BlockHash}

def new : Hasher h := ⟨h.initial, [], 0⟩

def update (a : Hasher h) (bs : Bytes) : Hasher h :=
  let r := h.absorb a.state (a.pending ++ bs)
  ⟨r.1, r.2, a.length + bs.length⟩

def finish (a : Hasher h) : Bytes :=
  h.output (h.absorb a.state (a.pending ++ h.padding a.length)).1

end Hasher

end Refetch.Digest
