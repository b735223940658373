/-
# ControlLink.Wire.Block — payloads in blocks

A payload travels in blocks of 64 bytes, of which the last is filled up with zeros. A configuration
carries no length: its reader stops at the first byte that is zero or above 0xF4 (`payloadEnd`),
so its writer refuses a payload that holds such a byte (`checkPayload`). `Assembler` puts the
received blocks together again.
-/
import ControlLink.Wire.Command

namespace ControlLink.Wire

set_option autoImplicit false

/-- A byte that ends a payload. UTF-8 text without NUL holds none. -/
def isSentinel (b : UInt8) : Bool := b == 0 || 0xF5 ≤ b

/-- Where the payload ends inside the bytes of its blocks. -/
def payloadEnd (bytes : Bytes) : Nat := (bytes.takeWhile (!isSentinel ·)).length

/-- The payload inside the bytes of its blocks. -/
def payloadOf (bytes : Bytes) : Bytes := bytes.takeWhile (!isSentinel ·)

/-- The first byte that ends a payload, with its place. -/
def firstSentinel? (payload : Bytes) : Option (UInt8 × Nat) :=
  match payload.dropWhile (!isSentinel ·) with
  | byte :: _ => some (byte, payloadEnd payload)
  | [] => none

/-- The blocks of a payload that fits one transfer and comes out of it whole. -/
def checkPayload (payload : Bytes) : Except WireError BlockCount :=
  if payloadLimit < payload.length then .error (.payloadTooLarge payloadLimit payload.length)
  else
    match firstSentinel? payload with
    | some (byte, offset) => .error (.unrepresentableByte byte offset)
    | none => BlockCount.forLength payload.length

/-- A frame of exactly `blockSize` bytes. -/
structure Block where
  bytes : Bytes
  size_eq : bytes.length = blockSize
deriving DecidableEq

namespace Block

/-- The first `blockSize` bytes of a byte string, filled up with zeros. -/
def ofBytes (bytes : Bytes) : Block where
  bytes := Bytes.padTo blockSize (bytes.take blockSize)
  size_eq := by
    rw [Bytes.length_padTo, List.length_take]
    exact Nat.max_eq_left (Nat.min_le_left _ _)

end Block

/-- The blocks of a payload, if it fits one transfer. -/
def splitBlocks (payload : Bytes) : Except WireError (List Block) :=
  (BlockCount.forLength payload.length).map fun _ =>
    (Bytes.pieces blockSize payload).map Block.ofBytes

/-- Received blocks in order. -/
structure Assembler where
  expected : BlockCount
  blocks : List Block := []
  length_le : blocks.length ≤ expected.val := by exact Nat.zero_le _

namespace Assembler

def received (assembler : Assembler) : Nat := assembler.blocks.length

def remaining (assembler : Assembler) : Nat := assembler.expected.val - assembler.received

def isComplete (assembler : Assembler) : Bool := assembler.received == assembler.expected.val

/-- The bytes received so far, with the filling of each block. -/
def bytes (assembler : Assembler) : Bytes := assembler.blocks.flatMap Block.bytes

/-- Takes the next block. A short one is filled up, so that later ones stay in place. -/
def push (assembler : Assembler) (block : Bytes) : Except WireError Assembler :=
  if room : assembler.received < assembler.expected.val then
    if blockSize < block.length then .error (.frameTooLong blockSize block.length)
    else .ok {
      expected := assembler.expected
      blocks := assembler.blocks ++ [Block.ofBytes block]
      length_le := by rw [List.length_append]; exact room }
  else
    .error (.invalidData (.surplusBlock (assembler.received + 1) assembler.expected.val))

/-- The payload, once every block is there. -/
def finish (assembler : Assembler) : Except WireError Bytes :=
  if assembler.isComplete then .ok (payloadOf assembler.bytes)
  else .error (.invalidData (.missingBlocks assembler.received assembler.expected.val))

end Assembler

end ControlLink.Wire
