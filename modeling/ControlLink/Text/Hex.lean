/-
# ControlLink.Text.Hex — hexadecimal text

Bytes are named in messages by two upper-case digits after `0x`; dumps and escapes use lower case.
-/

namespace ControlLink.Text.Hex

set_option autoImplicit false

/-- The digit of a number below sixteen, in upper case. -/
def upperDigit (n : Nat) : Char :=
  if n < 10 then Char.ofNat (48 + n) else Char.ofNat (55 + n)

/-- The digit of a number below sixteen, in lower case. -/
def lowerDigit (n : Nat) : Char :=
  if n < 10 then Char.ofNat (48 + n) else Char.ofNat (87 + n)

/-- A byte as `0x` and two upper-case digits. -/
def byte (b : UInt8) : String :=
  String.ofList ['0', 'x', upperDigit (b.toNat / 16), upperDigit (b.toNat % 16)]

/-- The `width` low digits of a number, in lower case. -/
def lower (width n : Nat) : List Char :=
  match width with
  | 0 => []
  | width + 1 => lower width (n / 16) ++ [lowerDigit (n % 16)]

/-- The `width` low digits of a number, in upper case. -/
def upper (width n : Nat) : List Char :=
  match width with
  | 0 => []
  | width + 1 => upper width (n / 16) ++ [upperDigit (n % 16)]

/-- The number below sixteen that a digit of either case stands for. -/
def digit? (c : Char) : Option Nat :=
  if '0' ≤ c ∧ c ≤ '9' then some (c.toNat - 48)
  else if 'a' ≤ c ∧ c ≤ 'f' then some (c.toNat - 87)
  else if 'A' ≤ c ∧ c ≤ 'F' then some (c.toNat - 55)
  else none

end ControlLink.Text.Hex
