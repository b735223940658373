/-
# ControlLink.Firmware.Checksum — CRC-32

The checksum of IEEE 802.3 in its reflected form: a 32-bit register starts with all bits set, takes
each byte at its low end and shifts it out bit by bit, and is complemented at the end.
-/
import ControlLink.Bytes

namespace ControlLink.Firmware

set_option autoImplicit false

/-- The reflected generator polynomial. -/
def polynomial : UInt32 := 0xEDB88320

/-- Shifts one bit out of the register. -/
def shiftOut (register : UInt32) : UInt32 :=
  if register &&& 1 = 1 then (register >>> 1) ^^^ polynomial else register >>> 1

/-- Shifts `count` bits out of the register. -/
def shiftOutMany : Nat → UInt32 → UInt32
  | 0, register => register
  | count + 1, register => shiftOutMany count (shiftOut register)

/-- Takes one byte into the register. -/
def absorb (register : UInt32) (b : UInt8) : UInt32 :=
  shiftOutMany 8 (register ^^^ b.toUInt32)

def crc32 (data : Bytes) : UInt32 :=
  ~~~ data.foldl absorb 0xFFFFFFFF

end ControlLink.Firmware
