/-
# ControlLink.Yaml.Token — the tokens of a text and where they stand

Indentation is told by tokens of its own: a collection in block style opens with a start token and
closes with `blockEnd`. A `Cursor` is the text that is still to be read and its place.
-/
import ControlLink.Yaml.Character
import ControlLink.Yaml.Fault

namespace ControlLink.Yaml

set_option autoImplicit false

inductive Token where
  | version (major minor : Nat)
  | tagHandle (handle uri : List Char)
  | documentStart
  | documentEnd
  | blockSequenceStart
  | blockMappingStart
  | blockEnd
  | flowSequenceStart
  | flowSequenceEnd
  | flowMappingStart
  | flowMappingEnd
  | blockEntry
  | flowEntry
  | key
  | value
  | alias (name : List Char)
  | anchor (name : List Char)
  | tag (handle suffix : List Char)
  | scalar (plain : Bool) (text : List Char)
deriving DecidableEq

/-- A place in a text, by characters and by lines. -/
structure Mark where
  index : Nat := 0
  line : Nat := 0
  column : Nat := 0
deriving DecidableEq

/-- The place behind a character. -/
def Mark.after (mark : Mark) (c : Char) : Mark :=
  if isBreak c then ⟨mark.index + 1, mark.line + 1, 0⟩
  else ⟨mark.index + 1, mark.line, mark.column + 1⟩

structure Cursor where
  mark : Mark := {}
  input : List Char
deriving DecidableEq

namespace Cursor

def column (cursor : Cursor) : Nat := cursor.mark.column

/-- The cursor behind so many characters. -/
def skip (cursor : Cursor) : Nat → Cursor
  | 0 => cursor
  | count + 1 =>
    match cursor.input with
    | [] => cursor
    | c :: rest => skip ⟨cursor.mark.after c, rest⟩ count

/-- The characters up to the first that does not satisfy a test, put behind others in reverse. -/
def spanOnto (test : Char → Bool) (done : List Char) (mark : Mark) :
    List Char → List Char × Cursor
  | [] => (done, ⟨mark, []⟩)
  | c :: rest =>
    if test c then spanOnto test (c :: done) (mark.after c) rest
    else (done, ⟨mark, c :: rest⟩)

/-- The characters up to the first that does not satisfy a test, and the cursor there. -/
def span (cursor : Cursor) (test : Char → Bool) : List Char × Cursor :=
  let (done, cursor) := spanOnto test [] cursor.mark cursor.input
  (done.reverse, cursor)

/-- The cursor behind the characters that satisfy a test. -/
def skipWhile (cursor : Cursor) (test : Char → Bool) : Cursor :=
  (spanOnto test [] cursor.mark cursor.input).2

def skipBlanks (cursor : Cursor) : Cursor := cursor.skipWhile isBlank

/-- The cursor at the end of the line. -/
def skipLine (cursor : Cursor) : Cursor := cursor.skipWhile (!isBreak ·)

/-- Whether a text is next. -/
def startsWith (cursor : Cursor) (text : String) : Bool := text.toList.isPrefixOf cursor.input

/-- Whether a word ends in front of the character at an offset. -/
def endsWordAt (cursor : Cursor) (offset : Nat) : Bool := endsWord (cursor.input.drop offset)

/-- Whether the line starts with the mark of the start or the end of a document. -/
def atDocumentMark (cursor : Cursor) : Bool :=
  cursor.column == 0 && (cursor.startsWith "---" || cursor.startsWith "...") &&
    cursor.endsWordAt 3

/-- Blanks, a comment and a line end, which must follow a header. -/
def endLine (cursor : Cursor) : Except Fault Cursor :=
  let cursor := cursor.skipBlanks
  let cursor := if cursor.startsWith "#" then cursor.skipLine else cursor
  match cursor.input with
  | [] => .ok cursor
  | c :: _ => if isBreak c then .ok (cursor.skip 1) else .error .malformed

end Cursor

end ControlLink.Yaml
