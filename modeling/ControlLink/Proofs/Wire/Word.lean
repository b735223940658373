/-
# ControlLink.Proofs.Wire.Word — numbers in the fields of a frame

A number that fits its bytes comes back out of them (`toNat_littleEndian_of_lt`), and the bytes come
back out of the number that they make up (`littleEndian_toNat`). So a field of four bytes and a word
of 32 bits are the same thing, and so are two bytes and a word of 16 bits; what is left of a frame
once its words are read can be written again.
-/
import ControlLink.Bytes

namespace ControlLink.Bytes

set_option autoImplicit false

theorem toNat_littleEndian_of_lt {width value : Nat} (fits : value < Nat.pow 256 width) :
    toNat (littleEndian width value) = value := by
  rw [toNat_littleEndian, Nat.mod_eq_of_lt fits]

theorem toNat_lt (bytes : Bytes) : toNat bytes < Nat.pow 256 bytes.length := by
  induction bytes with
  | nil => decide
  | cons byte rest ih =>
      have small := byte.toNat_lt
      show byte.toNat + 256 * toNat rest < Nat.pow 256 rest.length * 256
      omega

/-- **Bytes are written as they were read.** -/
theorem littleEndian_toNat (bytes : Bytes) : littleEndian bytes.length (toNat bytes) = bytes := by
  induction bytes with
  | nil => rfl
  | cons byte rest ih =>
      have small := byte.toNat_lt
      have low : UInt8.ofNat (byte.toNat + 256 * toNat rest) = byte := by
        apply UInt8.toNat_inj.1
        rw [UInt8.toNat_ofNat']
        omega
      have high : (byte.toNat + 256 * toNat rest) / 256 = toNat rest := by omega
      rw [List.length_cons, toNat, littleEndian, low, high, ih]

theorem ofNat_toNat_littleEndian (value : UInt32) :
    UInt32.ofNat (toNat (littleEndian 4 value.toNat)) = value := by
  rw [toNat_littleEndian_of_lt value.toNat_lt, UInt32.ofNat_toNat]

theorem ofNat_toNat_littleEndian_two (value : UInt16) :
    UInt16.ofNat (toNat (littleEndian 2 value.toNat)) = value := by
  rw [toNat_littleEndian_of_lt value.toNat_lt, UInt16.ofNat_toNat]

theorem littleEndian_ofNat_toNat (b0 b1 b2 b3 : UInt8) :
    littleEndian 4 (UInt32.ofNat (toNat [b0, b1, b2, b3])).toNat = [b0, b1, b2, b3] := by
  have fits : toNat [b0, b1, b2, b3] < 2 ^ 32 := by simpa using toNat_lt [b0, b1, b2, b3]
  rw [UInt32.toNat_ofNat', Nat.mod_eq_of_lt fits]
  exact littleEndian_toNat [b0, b1, b2, b3]

theorem littleEndian_ofNat_toNat_two (b0 b1 : UInt8) :
    littleEndian 2 (UInt16.ofNat (toNat [b0, b1])).toNat = [b0, b1] := by
  have fits : toNat [b0, b1] < 2 ^ 16 := by simpa using toNat_lt [b0, b1]
  rw [UInt16.toNat_ofNat', Nat.mod_eq_of_lt fits]
  exact littleEndian_toNat [b0, b1]

end ControlLink.Bytes
