/-
# ControlLink.Decimal.Shortest — the shortest decimal that reads back

Of all decimals that round to a given binary64 number, `shortest` takes one with the fewest digits,
and of those the nearest; an exact tie goes to the even last digit. For each number of digits only
the two neighbours of the value on that decimal grid have to be tried.
-/
import ControlLink.Decimal.Binary64
import ControlLink.Decimal.Numeral

namespace ControlLink.Decimal

set_option autoImplicit false

/-- The value `0.d₁d₂… * 10 ^ point`, with `d₁` not zero. -/
structure Scientific where
  digits : List Char
  point : Int
deriving DecidableEq

/-- A positive fraction times a power of ten. -/
def timesPower (num den : Nat) (power : Int) : Nat × Nat :=
  if 0 ≤ power then (num * Nat.pow 10 power.toNat, den) else (num, den * Nat.pow 10 (-power).toNat)

/-- The place of the point: `10 ^ (point - 1) ≤ num / den < 10 ^ point`. -/
def pointOf (num den : Nat) : Int :=
  let estimate : Int := (digits num).length - (digits den).length
  let (n, d) := timesPower num den (-estimate)
  if d ≤ n then estimate + 1 else estimate

/-- The decimals that round to a magnitude, in quarters of its last place. -/
structure Interval where
  low : Nat
  high : Nat
  den : Nat
  closed : Bool

/-- The interval of a positive finite number. -/
def Interval.of (x : Binary64) : Interval :=
  let scale := 1 <<< (x.exponent - 1075)
  let below := if x.significand = 1 <<< 52 ∧ 1 < x.exponent then 1 else 2
  { low := (4 * x.significand - below) * scale
    high := (4 * x.significand + 2) * scale
    den := 4 * x.den
    closed := x.significand % 2 = 0 }

/-- Whether `n / d` lies in the interval. -/
def Interval.contains (i : Interval) (n d : Nat) : Bool :=
  if i.closed then i.low * d ≤ n * i.den && n * i.den ≤ i.high * d
  else i.low * d < n * i.den && n * i.den < i.high * d

/-- The neighbour of `num / den` on the grid of steps `10 ^ (-power)` that lies in the interval:
the nearer one if both do, the even one if they are equally near. -/
def onGrid? (i : Interval) (num den : Nat) (power : Int) : Option Nat :=
  let (n, d) := timesPower num den power
  let down := n / d
  let holds (k : Nat) : Bool :=
    let (a, b) := timesPower k 1 (-power)
    i.contains a b
  match holds down, holds (down + 1) with
  | true, true => some (roundDiv n d)
  | true, false => some down
  | false, true => some (down + 1)
  | false, false => none

/-- A decimal without the zeros at its end. -/
def Scientific.ofNat (k : Nat) (power : Int) : Scientific :=
  let ds := Decimal.digits k
  { digits := (ds.reverse.dropWhile (· == '0')).reverse
    point := ds.length - power }

/-- Tries grids of `count` digits and more, with `more` tries left. -/
def shortestFrom (x : Binary64) (point : Int) (more count : Nat) : Scientific :=
  match more with
  | 0 => Scientific.ofNat (roundDiv x.num x.den) 0
  | more + 1 =>
    match onGrid? (Interval.of x) x.num x.den (count - point) with
    | some k => Scientific.ofNat k (count - point)
    | none => shortestFrom x point more (count + 1)

/-- The shortest decimal that rounds to the magnitude of a finite number that is not zero. -/
def shortest (x : Binary64) : Scientific := shortestFrom x (pointOf x.num x.den) 17 1

/-- How a number is written out. -/
structure Layout where
  /-- The largest `point` that is written without an exponent. -/
  maxPoint : Int
  /-- The smallest `point` that is written without an exponent. -/
  minPoint : Int
  /-- Whether a positive exponent has a plus sign. -/
  plus : Bool

/-- An exponent without padding. -/
def exponentText (layout : Layout) (exponent : Int) : List Char :=
  if exponent < 0 then '-' :: digits (-exponent).toNat
  else if layout.plus then '+' :: digits exponent.toNat
  else digits exponent.toNat

/-- A positive decimal as text. It shows that it is not an integer by a point or an exponent. -/
def Scientific.text (s : Scientific) (layout : Layout) : List Char :=
  let count : Int := s.digits.length
  if 0 < s.point ∧ s.point ≤ layout.maxPoint then
    if count ≤ s.point then
      s.digits ++ List.replicate (s.point - count).toNat '0' ++ ['.', '0']
    else s.digits.take s.point.toNat ++ '.' :: s.digits.drop s.point.toNat
  else if layout.minPoint ≤ s.point ∧ s.point ≤ 0 then
    '0' :: '.' :: List.replicate (-s.point).toNat '0' ++ s.digits
  else
    let mantissa := match s.digits with
      | first :: second :: rest => first :: '.' :: second :: rest
      | single => single
    mantissa ++ 'e' :: exponentText layout (s.point - 1)

/-- The shortest text of a finite number. -/
def Binary64.text (x : Binary64) (layout : Layout) : List Char :=
  let magnitude := if x.isZero then ['0', '.', '0'] else (shortest x).text layout
  if x.isNegative then '-' :: magnitude else magnitude

/-- The magnitude with a fixed number of decimal places; a half goes to the even neighbour. -/
def Binary64.fixed (x : Binary64) (places : Nat) : List Char :=
  let scaled := Decimal.digits (roundDiv (x.num * Nat.pow 10 places) x.den)
  let padded := List.replicate (places + 1 - scaled.length) '0' ++ scaled
  padded.take (padded.length - places) ++ '.' :: padded.drop (padded.length - places)

end ControlLink.Decimal
