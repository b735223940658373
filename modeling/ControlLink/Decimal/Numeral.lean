/-
# ControlLink.Decimal.Numeral — decimal numerals

Writing a natural number in decimal, and reading numerals: one or more digits, leading zeros
allowed. A bounded field (`bounded?`) also takes a plus sign in front and refuses what is above
its bound, however long the numeral is.
-/

namespace ControlLink.Decimal

set_option autoImplicit false

/-- The decimal digits of a number, without leading zeros. -/
def digits (n : Nat) : List Char := Nat.toDigits 10 n

/-- The value of a decimal digit. -/
def digit? (c : Char) : Option Nat :=
  if '0' ≤ c ∧ c ≤ '9' then some (c.toNat - 48) else none

def isDigit (c : Char) : Bool := '0' ≤ c && c ≤ '9'

/-- Reads digits onto a number read so far. -/
def extend? (value : Nat) : List Char → Option Nat
  | [] => some value
  | c :: rest =>
    match digit? c with
    | some d => extend? (10 * value + d) rest
    | none => none

/-- The value of a numeral: one or more digits and nothing else. -/
def numeral? : List Char → Option Nat
  | [] => none
  | cs => extend? 0 cs

/-- The value of a numeral with an optional plus sign, if it is at most `bound`. -/
def bounded? (bound : Nat) (text : List Char) : Option Nat :=
  let unsigned := match text with
    | '+' :: rest => rest
    | _ => text
  match numeral? unsigned with
  | some n => if n ≤ bound then some n else none
  | none => none

/-- A numeral for a byte. -/
def byte? (text : List Char) : Option UInt8 :=
  (bounded? 255 text).map UInt8.ofNat

end ControlLink.Decimal
