/-
# ControlLink.Text.Utf8 — texts as bytes

`encode` writes each character in the one to four bytes of UTF-8, and `decode?` reads them back; it
refuses overlong forms, surrogates and values above U+10FFFF.
-/
import ControlLink.Bytes

namespace ControlLink.Text.Utf8

set_option autoImplicit false

/-- The bytes of a text. -/
def encode (text : List Char) : Bytes := text.flatMap String.utf8EncodeChar

/-- A byte after the first of a character. -/
def isContinuation (b : UInt8) : Bool := 0x80 ≤ b && b ≤ 0xBF

/-- The six low bits of a continuation byte. -/
def low (b : UInt8) : Nat := b.toNat % 64

/-- The character of a two-byte form. -/
def two? (a b : UInt8) : Option Char :=
  if 0xC2 ≤ a ∧ a ≤ 0xDF ∧ isContinuation b then
    some (Char.ofNat (a.toNat % 32 * 64 + low b))
  else none

/-- The character of a three-byte form. -/
def three? (a b c : UInt8) : Option Char :=
  let value := a.toNat % 16 * 4096 + low b * 64 + low c
  if 0xE0 ≤ a ∧ a ≤ 0xEF ∧ isContinuation b ∧ isContinuation c ∧ 0x800 ≤ value ∧
      ¬ (0xD800 ≤ value ∧ value ≤ 0xDFFF) then
    some (Char.ofNat value)
  else none

/-- The character of a four-byte form. -/
def four? (a b c d : UInt8) : Option Char :=
  let value := a.toNat % 8 * 262144 + low b * 4096 + low c * 64 + low d
  if 0xF0 ≤ a ∧ a ≤ 0xF4 ∧ isContinuation b ∧ isContinuation c ∧ isContinuation d ∧
      0x10000 ≤ value ∧ value ≤ 0x10FFFF then
    some (Char.ofNat value)
  else none

/-- Reads a text onto the characters read so far, the last of them first. -/
def decodeOnto (done : List Char) : Bytes → Option (List Char)
  | [] => some done.reverse
  | a :: rest =>
    if a < 0x80 then decodeOnto (Char.ofNat a.toNat :: done) rest
    else
      match rest with
      | [] => none
      | b :: rest =>
        match two? a b with
        | some char => decodeOnto (char :: done) rest
        | none =>
          match rest with
          | [] => none
          | c :: rest =>
            match three? a b c with
            | some char => decodeOnto (char :: done) rest
            | none =>
              match rest with
              | [] => none
              | d :: rest =>
                match four? a b c d with
                | some char => decodeOnto (char :: done) rest
                | none => none

/-- The text of a byte string, if it is one. -/
def decode? (bytes : Bytes) : Option (List Char) := decodeOnto [] bytes

end ControlLink.Text.Utf8
