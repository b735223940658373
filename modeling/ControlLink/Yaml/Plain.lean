/-
# ControlLink.Yaml.Plain — what a plain scalar stands for

A scalar without quotes is null, a boolean, an integer, a number or, if nothing else fits, a text.
Decimal digits behind a needless zero are a text. The writer asks the same question to see which
texts need quotes.
-/
import ControlLink.Decimal.Binary64
import ControlLink.Decimal.Numeral
import ControlLink.Text.Hex

namespace ControlLink.Yaml

set_option autoImplicit false

open Decimal

inductive Meaning where
  | null
  | bool (value : Bool)
  /-- An integer of at most 128 bits. -/
  | integer (value : Int)
  | real (value : Binary64)
  /-- An infinity or no number. -/
  | notFinite
  | text
deriving DecidableEq

def isNull (text : List Char) : Bool :=
  ["null", "Null", "NULL", "~"].contains (String.ofList text)

def bool? (text : List Char) : Option Bool :=
  let text := String.ofList text
  if ["true", "True", "TRUE"].contains text then some true
  else if ["false", "False", "FALSE"].contains text then some false
  else none

/-- The text without one sign in front. -/
def unsigned : List Char → List Char
  | '+' :: rest => rest
  | '-' :: rest => rest
  | text => text

/-- Decimal digits behind a needless zero. -/
def hasNeedlessZero (text : List Char) : Bool :=
  match unsigned text with
  | '0' :: digit :: rest => (digit :: rest).all isDigit
  | _ => false

/-- Reads digits below `radix` onto a number read so far. -/
def extendRadix? (radix value : Nat) : List Char → Option Nat
  | [] => some value
  | c :: rest =>
    match Text.Hex.digit? c with
    | some d => if d < radix then extendRadix? radix (radix * value + d) rest else none
    | none => none

/-- The number of one or more digits below `radix`. -/
def inRadix? (radix : Nat) : List Char → Option Nat
  | [] => none
  | text => extendRadix? radix 0 text

/-- The number behind the mark of a radix. -/
def marked? : List Char → Option Nat
  | '0' :: 'x' :: rest => inRadix? 16 rest
  | '0' :: 'o' :: rest => inRadix? 8 rest
  | '0' :: 'b' :: rest => inRadix? 2 rest
  | _ => none

/-- The integer that a text writes, of any size. -/
def integer? (text : List Char) : Option Int :=
  let magnitude := unsigned text
  let value? := match marked? magnitude with
    | some n => some n
    | none => if hasNeedlessZero text then none else numeral? magnitude
  value?.map fun n => if text.head? == some '-' then -(n : Int) else n

/-- The longest integers that are told from numbers with a fraction. -/
def isWide (n : Int) : Bool := -(1 <<< 127) ≤ n && n < 1 <<< 128

/-- A decimal as it is written: digits and a power of ten. -/
structure Written where
  digits : Nat
  power : Int

/-- The exponent behind `e`. -/
def exponent? (text : List Char) : Option Int :=
  (numeral? (unsigned text)).map fun n => if text.head? == some '-' then -(n : Int) else n

/-- Digits with at most one point among them and at most one exponent behind them. -/
def written? (text : List Char) : Option Written :=
  let whole := text.takeWhile isDigit
  let rest := text.dropWhile isDigit
  let (fraction, rest) := match rest with
    | '.' :: rest => (rest.takeWhile isDigit, rest.dropWhile isDigit)
    | _ => ([], rest)
  let power? := match rest with
    | [] => some 0
    | mark :: rest => if mark == 'e' || mark == 'E' then exponent? rest else none
  match numeral? (whole ++ fraction), power? with
  | some digits, some power => some ⟨digits, power - fraction.length⟩
  | _, _ => none

/-- The nearest number, if it is finite. Powers far outside the range are not computed. -/
def Written.nearest? (negative : Bool) (w : Written) : Option Binary64 :=
  if w.digits = 0 then some (.nearest negative 0 1)
  else
    let point : Int := (Decimal.digits w.digits).length + w.power
    if 310 < point then none
    else if point < -330 then some (.nearest negative 0 1)
    else
      let x :=
        if 0 ≤ w.power then Binary64.nearest negative (w.digits * Nat.pow 10 w.power.toNat) 1
        else Binary64.nearest negative w.digits (Nat.pow 10 (-w.power).toNat)
      if x.isFinite then some x else none

def isInfinity (text : List Char) : Bool :=
  [".inf", ".Inf", ".INF"].contains (String.ofList (unsigned text))

def isNotNumber (text : List Char) : Bool :=
  [".nan", ".NaN", ".NAN"].contains (String.ofList text)

/-- The number that a text writes. -/
def number? (text : List Char) : Option Meaning :=
  if isInfinity text || isNotNumber text then some .notFinite
  else
    match written? (unsigned text) with
    | some w => (w.nearest? (text.head? == some '-')).map .real
    | none => none

/-- What a plain scalar stands for. -/
def meaning (text : List Char) : Meaning :=
  if text.isEmpty || isNull text then .null
  else
    match bool? text with
    | some value => .bool value
    | none =>
      match integer? text with
      | some n => if isWide n then .integer n else (number? text).getD .text
      | none => if hasNeedlessZero text then .text else (number? text).getD .text

end ControlLink.Yaml
