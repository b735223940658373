/-
# ControlLink.Yaml.Writer — documents in block style

A pen knows the column and what it wrote last, so that it can tell where a blank or a line end is
due. Members and items go on lines of their own, two columns further right on every level; the
items of a sequence under a key stay in the column of the key.
-/
import ControlLink.Json.Printer
import ControlLink.Text.Hex
import ControlLink.Yaml.Style

namespace ControlLink.Yaml

set_option autoImplicit false

/-- What has been written, and where the pen is. -/
structure Pen where
  /-- The text, the last character first. -/
  written : List Char := []
  column : Nat := 0
  /-- Whether a blank is behind the pen. -/
  spaced : Bool := true
  /-- Whether only indentation and indicators of structure stand on the line. -/
  indenting : Bool := true

namespace Pen

/-- Writes one character. -/
def put (pen : Pen) (c : Char) : Pen :=
  { pen with written := c :: pen.written, column := if isBreak c then 0 else pen.column + 1 }

def puts (pen : Pen) (text : List Char) : Pen := text.foldl put pen

/-- Writes so many blanks. -/
def blanks (pen : Pen) (count : Nat) : Pen := pen.puts (List.replicate count ' ')

/-- Writes a blank if none is behind the pen. -/
def space (pen : Pen) : Pen := if pen.spaced then pen else pen.put ' '

/-- Goes to a column, on a new line if the pen is not in front of it. -/
def goTo (pen : Pen) (column : Nat) : Pen :=
  let newLine := !pen.indenting || column < pen.column || (pen.column == column && !pen.spaced)
  let pen := if newLine then pen.put '\n' else pen
  { pen.blanks (column - pen.column) with spaced := true, indenting := true }

/-- Writes an indicator of structure, behind a blank. -/
def indicator (pen : Pen) (c : Char) : Pen := { pen.space.put c with spaced := false }

/-- Writes a mark that belongs to a value. -/
def mark (pen : Pen) (c : Char) : Pen := { pen.put c with spaced := false, indenting := false }

/-! ## Scalars -/

def plain (pen : Pen) (text : List Char) : Pen :=
  { pen.space.puts text with spaced := false, indenting := false }

/-- A state of writing between single quotes: the pen and whether a line has just ended. -/
def singleChar (column : Nat) (state : Pen × Bool) (c : Char) : Pen × Bool :=
  let (pen, broken) := state
  if isBreak c then
    let pen := if !broken && c == '\n' then pen.put '\n' else pen
    ({ pen.put c with indenting := true }, true)
  else
    let pen := if broken && c != ' ' then pen.goTo column else pen
    let pen := if c == '\'' then pen.put '\'' else pen
    let pen := pen.put c
    (if c == ' ' then pen else { pen with indenting := false }, broken && c == ' ')

/-- Writes a text between single quotes. -/
def single (pen : Pen) (column : Nat) (text : List Char) : Pen :=
  let (pen, broken) := text.foldl (singleChar column) (pen.space.mark '\'', false)
  let pen := if broken then pen.goTo column else pen
  pen.mark '\''

/-- A character between double quotes. -/
def doubleChar (c : Char) : List Char :=
  let n := c.toNat
  match c with
  | '\x00' => ['\\', '0']
  | '\x07' => ['\\', 'a']
  | '\x08' => ['\\', 'b']
  | '\t' => ['\\', 't']
  | '\n' => ['\\', 'n']
  | '\x0b' => ['\\', 'v']
  | '\x0c' => ['\\', 'f']
  | '\r' => ['\\', 'r']
  | '\x1b' => ['\\', 'e']
  | '"' => ['\\', '"']
  | '\\' => ['\\', '\\']
  | '\x85' => ['\\', 'N']
  | '\u2028' => ['\\', 'L']
  | '\u2029' => ['\\', 'P']
  | _ =>
    if isPrintable c then [c]
    else if n ≤ 0xFF then '\\' :: 'x' :: Text.Hex.upper 2 n
    else if n ≤ 0xFFFF then '\\' :: 'u' :: Text.Hex.upper 4 n
    else '\\' :: 'U' :: Text.Hex.upper 8 n

/-- Writes a text between double quotes. -/
def double (pen : Pen) (text : List Char) : Pen :=
  ((pen.space.mark '"').puts (text.flatMap doubleChar)).mark '"'

/-- What stands behind the bar of a literal block: the indentation, if the text starts with white
space, and how the line ends at its end count. -/
def literalHints (text : List Char) : List Char :=
  let indentation := if text.head?.any isSpaceOrBreak then ['2'] else []
  let ends := text.reverse.takeWhile isBreak
  indentation ++
    if ends.isEmpty then ['-']
    else if 1 < ends.length || ends.length == text.length then ['+']
    else []

/-- A state of writing a literal block: the pen and whether a line has just ended. -/
def literalChar (column : Nat) (state : Pen × Bool) (c : Char) : Pen × Bool :=
  let (pen, broken) := state
  if isBreak c then ({ pen.put c with indenting := true }, true)
  else
    let pen := if broken then pen.goTo column else pen
    ({ pen.put c with indenting := false }, false)

/-- Writes a text as a literal block. -/
def literal (pen : Pen) (column : Nat) (text : List Char) : Pen :=
  let pen := (pen.indicator '|').puts (literalHints text)
  let pen := { pen.put '\n' with spaced := true, indenting := true }
  (text.foldl (literalChar column) (pen, true)).1

/-- Writes a text in its style; its lines start at a column. -/
def string (pen : Pen) (isKey : Bool) (column : Nat) (text : List Char) : Pen :=
  match styleOf isKey text with
  | .plain => pen.plain text
  | .single => pen.single column text
  | .double => pen.double text
  | .literal => pen.literal column text

end Pen

/-! ## Documents -/

/-- Numbers look as in other documents, but for the plus sign of an exponent. -/
def layout : Decimal.Layout := { Json.layout with plus := false }

def numberText : Json.Number → List Char
  | .integer n _ => Json.integerText n
  | .real x _ => x.text layout

/-- The column of collections, or of the lines of a text, inside a column; the outermost of a
document has none around it. -/
def columnInside (outer : Option Nat) (outermost : Nat) : Nat :=
  match outer with
  | some column => column + 2
  | none => outermost

mutual

/-- Writes a value inside a column. `underKey` says that it is the value of a member. -/
def writeValue (outer : Option Nat) (underKey : Bool) (pen : Pen) : Json → Pen
  | .null => pen.plain "null".toList
  | .bool value => pen.plain (Json.boolText value)
  | .number value => pen.plain (numberText value)
  | .string text => pen.string false (columnInside outer 2) text.toList
  | .array [] => pen.plain ['[', ']']
  | .array items =>
    let column := match outer with
      | some column => if underKey && !pen.indenting then column else column + 2
      | none => 0
    writeItems column pen items
  | .object [] => pen.plain ['\x7b', '\x7d']
  | .object members => writeMembers (columnInside outer 0) pen members

/-- Writes items in a column. -/
def writeItems (column : Nat) (pen : Pen) : List Json → Pen
  | [] => pen
  | item :: rest =>
    writeItems column (writeValue (some column) false ((pen.goTo column).indicator '-') item) rest

/-- Writes members in a column. A key that is no simple one has an indicator of its own. -/
def writeMembers (column : Nat) (pen : Pen) : List (String × Json) → Pen
  | [] => pen
  | (key, value) :: rest =>
    let pen := pen.goTo column
    let text := key.toList
    let pen :=
      if isSimpleKey text then (pen.string true (column + 2) text).mark ':'
      else
        (((pen.indicator '?').string false (column + 2) text).goTo column).indicator ':'
    writeMembers column (writeValue (some column) true pen value) rest

end

/-- A document as text, which ends with a line end. -/
def render (document : Json) : List Char :=
  ((writeValue none false {} document).goTo 0).written.reverse

end ControlLink.Yaml
