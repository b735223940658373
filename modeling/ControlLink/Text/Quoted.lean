/-
# ControlLink.Text.Quoted — texts between quotes

The form in which messages show a text: between double quotes, with the quote and the backslash
escaped and every unprintable character given by its number. A reader can tell any two texts apart.
-/
import ControlLink.Text.Hex
import ControlLink.Text.Unprintable

namespace ControlLink.Text

set_option autoImplicit false

/-- The hexadecimal digits of a number, without leading zeros. -/
def hexDigits (n : Nat) : List Char := Nat.toDigits 16 n

/-- A character between quotes. -/
def quotedChar (c : Char) : List Char :=
  match c with
  | '\x00' => ['\\', '0']
  | '\t' => ['\\', 't']
  | '\r' => ['\\', 'r']
  | '\n' => ['\\', 'n']
  | '"' => ['\\', '"']
  | '\\' => ['\\', '\\']
  | c => if isUnprintable c then ['\\', 'u', '\x7b'] ++ hexDigits c.toNat ++ ['\x7d'] else [c]

def quote (text : String) : String :=
  String.ofList ('"' :: text.toList.flatMap quotedChar ++ ['"'])

end ControlLink.Text
