/-
# ControlLink.Device.Version — firmware versions

A version is a triple ordered lexicographically, so `0.10.0` comes after `0.9.9`. Its text is three
numerals between dots; on reading, white space around it and any number of leading `v` are dropped.
-/
import ControlLink.Decimal.Numeral
import ControlLink.Text.Blank
import ControlLink.Wire.Error

namespace ControlLink.Device

set_option autoImplicit false

structure Version where
  major : UInt8
  minor : UInt8
  patch : UInt8
deriving DecidableEq

namespace Version

/-- The oldest firmware whose configuration can be read and written. -/
def configuration : Version := ⟨0, 6, 0⟩

/-- The oldest firmware that knows the landing page setting. -/
def landingPage : Version := ⟨0, 7, 0⟩

/-- Lexicographic order of the triples. -/
def order (v w : Version) : Ordering :=
  (compare v.major w.major).then ((compare v.minor w.minor).then (compare v.patch w.patch))

/-- Whether `v` is `w` or newer. -/
def atLeast (v w : Version) : Bool := v.order w != .lt

def supportsConfiguration (v : Version) : Bool := v.atLeast configuration

def supportsLandingPage (v : Version) : Bool := v.atLeast landingPage

def text (v : Version) : List Char :=
  Decimal.digits v.major.toNat ++ '.' :: Decimal.digits v.minor.toNat ++
    '.' :: Decimal.digits v.patch.toNat

def display (v : Version) : String := String.ofList v.text

/-- The version that three numerals between dots name. -/
def ofText? (text : List Char) : Option Version :=
  match Text.fields '.' ((Text.trim text).dropWhile (· == 'v')) with
  | [major, minor, patch] => do
    return ⟨← Decimal.byte? major, ← Decimal.byte? minor, ← Decimal.byte? patch⟩
  | _ => none

/-- Reads the text of a version. -/
def parse (text : String) : Except Wire.WireError Version :=
  match ofText? text.toList with
  | some version => .ok version
  | none => .error (.invalidData (.invalidVersion text))

end Version

end ControlLink.Device
