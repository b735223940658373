/-
# ControlLink.Yaml.Character — the characters of YAML texts

Which characters a text may hold, which end a line, and which stand in names. A text is brought
into a plain form before it is read (`readable?`): a byte order mark in front is dropped and every
line ends with one line feed, a line separator or a paragraph separator.
-/

namespace ControlLink.Yaml

set_option autoImplicit false

/-- A character that a text may hold: tab, line ends, and what is neither a control character nor
a surrogate, a byte order mark or one of the last two of the basic plane. -/
def isAllowed (c : Char) : Bool :=
  let n := c.toNat
  n == 0x09 || n == 0x0A || n == 0x0D || (0x20 ≤ n && n ≤ 0x7E) || n == 0x85 ||
    (0xA0 ≤ n && n ≤ 0xFFFD && n != 0xFEFF) || 0x10000 ≤ n

/-- A character that is written as it is. -/
def isPrintable (c : Char) : Bool :=
  let n := c.toNat
  n == 0x0A || (0x20 ≤ n && n ≤ 0x7E) || (0xA0 ≤ n && n ≤ 0xFFFD && n != 0xFEFF) || 0x10000 ≤ n

/-- A character that ends a line. -/
def isBreak (c : Char) : Bool :=
  let n := c.toNat
  n == 0x0A || n == 0x0D || n == 0x85 || n == 0x2028 || n == 0x2029

def isBlank (c : Char) : Bool := c == ' ' || c == '\t'

def isBlankOrBreak (c : Char) : Bool := isBlank c || isBreak c

/-- Whether a word ends in front of a text: at its end, a blank or a line end. -/
def endsWord : List Char → Bool
  | [] => true
  | c :: _ => isBlankOrBreak c

/-- A character of a name: a letter or a digit of the ASCII range, a hyphen or an underscore. -/
def isName (c : Char) : Bool := c.isAlphanum || c == '_' || c == '-'

/-- An indicator of a collection between brackets. -/
def isFlowIndicator (c : Char) : Bool :=
  c == ',' || c == '[' || c == ']' || c == '\x7b' || c == '\x7d'

/-- Replaces every way to end a line but the two separators by a line feed. -/
def unifyBreaks : List Char → List Char
  | [] => []
  | '\r' :: '\n' :: rest => '\n' :: unifyBreaks rest
  | c :: rest => (if c == '\r' || c == '\x85' then '\n' else c) :: unifyBreaks rest

/-- The plain form of a text, if a YAML text may hold all its characters. -/
def readable? (text : List Char) : Option (List Char) :=
  let text := match text with
    | '\uFEFF' :: rest => rest
    | _ => text
  if text.all isAllowed then some (unifyBreaks text) else none

end ControlLink.Yaml
