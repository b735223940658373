/-
# ControlLink.Json.Printer — documents as text

`compact` writes no blanks, `pretty` one member or item per line with two blanks per level. In
strings only the quote, the backslash and the characters below U+0020 are escaped.
-/
import ControlLink.Json.Value
import ControlLink.Text.Hex

namespace ControlLink.Json

set_option autoImplicit false

open Decimal

/-- Numbers are positional from `0.0000d` up to sixteen digits before the point. -/
def layout : Layout := { maxPoint := 16, minPoint := -4, plus := true }

def Number.text : Number → List Char
  | integer n _ => integerText n
  | real x _ => x.text layout

/-- A character of a string. -/
def escape (c : Char) : List Char :=
  if c = '"' then ['\\', '"']
  else if c = '\\' then ['\\', '\\']
  else if 0x20 ≤ c.toNat then [c]
  else if c = '\x08' then ['\\', 'b']
  else if c = '\t' then ['\\', 't']
  else if c = '\n' then ['\\', 'n']
  else if c = '\x0c' then ['\\', 'f']
  else if c = '\r' then ['\\', 'r']
  else '\\' :: 'u' :: Text.Hex.lower 4 c.toNat

def quoted (text : String) : List Char := '"' :: text.toList.flatMap escape ++ ['"']

/-- The text of a value that holds no other. -/
def boolText (value : Bool) : List Char := if value then "true".toList else "false".toList

mutual

def compact : Json → List Char
  | null => "null".toList
  | bool value => boolText value
  | number value => value.text
  | string value => quoted value
  | array [] => ['[', ']']
  | array (item :: rest) => '[' :: compact item ++ compactItems rest
  | object [] => ['{', '}']
  | object ((key, value) :: rest) =>
    '{' :: quoted key ++ ':' :: compact value ++ compactMembers rest

/-- The items after the first and the closing bracket. -/
def compactItems : List Json → List Char
  | [] => [']']
  | item :: rest => ',' :: compact item ++ compactItems rest

/-- The members after the first and the closing brace. -/
def compactMembers : List (String × Json) → List Char
  | [] => ['}']
  | (key, value) :: rest => ',' :: quoted key ++ ':' :: compact value ++ compactMembers rest

end

/-- A line break and the blanks of a level. -/
def newline (level : Nat) : List Char := '\n' :: List.replicate (2 * level) ' '

mutual

/-- The text of a value inside `level` arrays and objects. -/
def prettyAt (level : Nat) : Json → List Char
  | null => "null".toList
  | bool value => boolText value
  | number value => value.text
  | string value => quoted value
  | array [] => ['[', ']']
  | array (item :: rest) =>
    '[' :: newline (level + 1) ++ prettyAt (level + 1) item ++ prettyItems level rest
  | object [] => ['{', '}']
  | object ((key, value) :: rest) =>
    '{' :: newline (level + 1) ++ quoted key ++ ':' :: ' ' :: prettyAt (level + 1) value ++
      prettyMembers level rest

def prettyItems (level : Nat) : List Json → List Char
  | [] => newline level ++ [']']
  | item :: rest =>
    ',' :: newline (level + 1) ++ prettyAt (level + 1) item ++ prettyItems level rest

def prettyMembers (level : Nat) : List (String × Json) → List Char
  | [] => newline level ++ ['}']
  | (key, value) :: rest =>
    ',' :: newline (level + 1) ++ quoted key ++ ':' :: ' ' :: prettyAt (level + 1) value ++
      prettyMembers level rest

end

def pretty (document : Json) : List Char := prettyAt 0 document

end ControlLink.Json
