/-
# ControlLink.Bytes — byte strings

Frames, payloads and firmware images are byte strings. A number travels as its bytes from the
least significant up (`littleEndian`, read back by `toNat`); a byte string travels in pieces of a
fixed size (`pieces`), of which the last is filled up with zeros (`padTo`).
-/

namespace ControlLink

set_option autoImplicit false

abbrev Bytes := List UInt8

namespace Bytes

/-- The `width` low bytes of a number, the least significant first. -/
def littleEndian : Nat → Nat → Bytes
  | 0, _ => []
  | width + 1, value => UInt8.ofNat value :: littleEndian width (value / 256)

/-- The number whose bytes these are, the least significant first. -/
def toNat : Bytes → Nat
  | [] => 0
  | b :: rest => b.toNat + 256 * toNat rest

/-- Zeros are added at the end until there are at least `size` bytes. -/
def padTo (size : Nat) (bytes : Bytes) : Bytes :=
  bytes ++ List.replicate (size - bytes.length) 0

/-- The first `count` pieces of `size` bytes. -/
def takePieces (size : Nat) : Nat → Bytes → List Bytes
  | 0, _ => []
  | count + 1, bytes => bytes.take size :: takePieces size count (bytes.drop size)

/-- How many pieces of `size` bytes it takes to hold `length` bytes. -/
def pieceCount (size length : Nat) : Nat :=
  (length + (size - 1)) / size

/-- The consecutive pieces of `size` bytes, of which only the last may be shorter. -/
def pieces (size : Nat) (bytes : Bytes) : List Bytes :=
  takePieces size (pieceCount size bytes.length) bytes

@[simp] theorem length_littleEndian (width value : Nat) :
    (littleEndian width value).length = width := by
  induction width generalizing value with
  | zero => rfl
  | succ width ih => simp [littleEndian, ih]

theorem toNat_littleEndian (width value : Nat) :
    toNat (littleEndian width value) = value % Nat.pow 256 width := by
  induction width generalizing value with
  | zero => simp [littleEndian, toNat, Nat.mod_one]
  | succ width ih =>
    have low : (UInt8.ofNat value).toNat = value % 256 := by simp
    rw [littleEndian, toNat, ih, low]
    show _ = value % (Nat.pow 256 width * 256)
    rw [Nat.mul_comm (Nat.pow 256 width) 256, Nat.mod_mul]

@[simp] theorem length_padTo (size : Nat) (bytes : Bytes) :
    (padTo size bytes).length = max size bytes.length := by
  rw [padTo, List.length_append, List.length_replicate]
  omega

end Bytes

end ControlLink
