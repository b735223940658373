/-
# ControlLink.Decimal.Binary64 — binary floating point in exact arithmetic

A binary64 number is its bit pattern. Its magnitude is a fraction of natural numbers, and every
operation is the exact result on fractions rounded once to the nearest pattern, a tie going to the
even one (`nearest`).
-/

namespace ControlLink.Decimal

set_option autoImplicit false

structure Binary64 where
  bits : UInt64
deriving DecidableEq

/-- The quotient of two numbers, rounded to the nearest integer; a tie goes to the even one. -/
def roundDiv (num den : Nat) : Nat :=
  let quotient := num / den
  let twice := 2 * (num % den)
  if twice < den then quotient
  else if den < twice then quotient + 1
  else quotient + quotient % 2

namespace Binary64

def isNegative (x : Binary64) : Bool := 1 <<< 63 ≤ x.bits.toNat

/-- The eleven bits of the exponent. -/
def exponentField (x : Binary64) : Nat := x.bits.toNat >>> 52 % (1 <<< 11)

/-- The fifty-two bits after the point. -/
def fraction (x : Binary64) : Nat := x.bits.toNat % (1 <<< 52)

def isFinite (x : Binary64) : Bool := x.exponentField != 2047

/-- The magnitude of a finite number is `significand * 2 ^ (exponent - 1075)`. -/
def significand (x : Binary64) : Nat :=
  if x.exponentField = 0 then x.fraction else 1 <<< 52 + x.fraction

def exponent (x : Binary64) : Nat := max 1 x.exponentField

def isZero (x : Binary64) : Bool := x.significand == 0

/-- The numerator of the magnitude. -/
def num (x : Binary64) : Nat := x.significand <<< (x.exponent - 1075)

/-- The denominator of the magnitude. -/
def den (x : Binary64) : Nat := 1 <<< (1075 - x.exponent)

def infinityBits : Nat := 2047 <<< 52

/-- A pattern from its sign and its magnitude bits. -/
def ofSign (negative : Bool) (magnitude : Nat) : Binary64 :=
  ⟨UInt64.ofNat (if negative then 1 <<< 63 + magnitude else magnitude)⟩

/-- The binary exponent of a positive fraction: `2 ^ (e - 1023) ≤ num / den < 2 ^ (e - 1022)`,
kept to the exponents of binary64. -/
def binaryExponent (num den : Nat) : Nat :=
  let estimate := num.log2 + 1023 - den.log2
  let reaches := if num.log2 ≥ den.log2 then den <<< (num.log2 - den.log2) ≤ num
    else den ≤ num <<< (den.log2 - num.log2)
  max 1 (if reaches then estimate else estimate - 1)

/-- The pattern nearest to a fraction; what is too large becomes infinite. -/
def nearest (negative : Bool) (num den : Nat) : Binary64 :=
  if num = 0 then ofSign negative 0
  else
    let e := binaryExponent num den
    let significand := roundDiv (num <<< (1075 - e)) (den <<< (e - 1075))
    ofSign negative (min infinityBits ((e - 1) <<< 52 + significand))

def ofNat (n : Nat) : Binary64 := nearest false n 1

def neg (x : Binary64) : Binary64 := ofSign (!x.isNegative) (x.bits.toNat % (1 <<< 63))

def mul (x y : Binary64) : Binary64 :=
  nearest (x.isNegative != y.isNegative) (x.num * y.num) (x.den * y.den)

/-- Division by a number that is not zero. -/
def div (x y : Binary64) : Binary64 :=
  nearest (x.isNegative != y.isNegative) (x.num * y.den) (x.den * y.num)

/-- The smaller of two numbers that are not negative. -/
def min (x y : Binary64) : Binary64 := if x.num * y.den ≤ y.num * x.den then x else y

/-- A power of ten, correctly rounded. -/
def powerOfTen (exponent : Nat) : Binary64 := ofNat (Nat.pow 10 exponent)

end Binary64

end ControlLink.Decimal
