/-
# ControlLink.Yaml.Token.Name — directives, tags, anchors and aliases

A tag is written in full between angle brackets, or as a handle and a suffix, of which the handle is
declared by a directive. In a suffix any character may be written as the bytes of its UTF-8 form.
-/
import ControlLink.Decimal.Numeral
import ControlLink.Text.Hex
import ControlLink.Text.Utf8
import ControlLink.Yaml.Token

namespace ControlLink.Yaml

set_option autoImplicit false

/-! ## Anchors and aliases -/

/-- What may stand behind the name of an anchor. -/
def endsName (input : List Char) : Bool :=
  endsWord input || input.head?.any fun c => "?:,]\x7d%@`".toList.contains c

/-- The name behind an indicator that is gone. -/
def anchorName (cursor : Cursor) : Except Fault (List Char × Cursor) :=
  let (name, cursor) := cursor.span isName
  if name.isEmpty || !endsName cursor.input then .error .malformed else .ok (name, cursor)

/-! ## Tags -/

/-- A character of a suffix. The brackets and the comma are only allowed in a tag in full. -/
def isUri (full : Bool) (c : Char) : Bool :=
  isName c || ";/?:@&=+$.%!~*'()".toList.contains c || (full && ",[]".toList.contains c)

/-- The bytes of consecutive escapes at the front of a text, at most `count`. -/
def escapedBytes : Nat → List Char → Option (Bytes × List Char)
  | 0, input => some ([], input)
  | count + 1, '%' :: a :: b :: rest => do
    let byte := UInt8.ofNat (16 * (← Text.Hex.digit? a) + (← Text.Hex.digit? b))
    let (bytes, rest) ← escapedBytes count rest
    return (byte :: bytes, rest)
  | _ + 1, _ => none

/-- How many bytes a character has that starts with a byte. -/
def encodedLength (b : UInt8) : Nat :=
  if b < 0x80 then 1 else if b < 0xE0 then 2 else if b < 0xF0 then 3 else 4

/-- The character that escapes at the front of a text give. -/
def escapedChar? (input : List Char) : Option (Char × List Char) := do
  let (first, _) ← escapedBytes 1 input
  let (bytes, rest) ← escapedBytes (encodedLength (first.headD 0)) input
  match Text.Utf8.decode? bytes with
  | some [c] => some (c, rest)
  | _ => none

/-- Replaces escapes by their characters. -/
def unescape : Nat → List Char → Except Fault (List Char)
  | 0, _ => .ok []
  | _ + 1, [] => .ok []
  | fuel + 1, c :: rest =>
    if c = '%' then
      match escapedChar? (c :: rest) with
      | some (char, rest) => (unescape fuel rest).map (char :: ·)
      | none => .error .malformed
    else (unescape fuel rest).map (c :: ·)

/-- A suffix, with its escapes replaced. -/
def uri (full : Bool) (cursor : Cursor) : Except Fault (List Char × Cursor) := do
  let (raw, cursor) := cursor.span (isUri full)
  return (← unescape (raw.length + 1) raw, cursor)

/-- A suffix of at least one character. -/
def someUri (full : Bool) (cursor : Cursor) : Except Fault (List Char × Cursor) := do
  let (suffix, cursor) ← uri full cursor
  if suffix.isEmpty then .error .malformed else .ok (suffix, cursor)

/-- A handle: an exclamation mark, a name and another mark, of which all but the first are left out
if they are not there. -/
def tagHandle (cursor : Cursor) : Except Fault (List Char × Cursor) :=
  if !cursor.startsWith "!" then .error .malformed
  else
    let (name, cursor) := (cursor.skip 1).span isName
    if cursor.startsWith "!" then .ok ('!' :: name ++ ['!'], cursor.skip 1)
    else .ok ('!' :: name, cursor)

/-- A tag as a handle and a suffix; one in full has no handle. -/
def tagParts (cursor : Cursor) : Except Fault (List Char × List Char × Cursor) := do
  if cursor.startsWith "!<" then
    let (suffix, cursor) ← someUri true (cursor.skip 2)
    if cursor.startsWith ">" then return ([], suffix, cursor.skip 1)
    else throw .malformed
  else
    let (handle, cursor) ← tagHandle cursor
    if 1 < handle.length && handle.getLast? == some '!' then
      let (suffix, cursor) ← someUri false cursor
      return (handle, suffix, cursor)
    else
      let (more, cursor) ← uri false cursor
      let suffix := handle.drop 1 ++ more
      if suffix.isEmpty then return ([], ['!'], cursor)
      else return (['!'], suffix, cursor)

/-- A tag, behind which a word ends or, between brackets, a comma stands. -/
def tagToken (inFlow : Bool) (cursor : Cursor) : Except Fault (Token × Cursor) := do
  let (handle, suffix, cursor) ← tagParts cursor
  if endsWord cursor.input || (inFlow && cursor.startsWith ",") then
    return (.tag handle suffix, cursor)
  else throw .malformed

/-! ## Directives -/

/-- A number of at most nine digits. -/
def versionNumber (cursor : Cursor) : Except Fault (Nat × Cursor) :=
  let (digits, cursor) := cursor.span Decimal.isDigit
  match Decimal.numeral? digits with
  | some n => if digits.length ≤ 9 then .ok (n, cursor) else .error .malformed
  | none => .error .malformed

def versionDirective (cursor : Cursor) : Except Fault (Token × Cursor) := do
  let (major, cursor) ← versionNumber cursor.skipBlanks
  if cursor.startsWith "." then
    let (minor, cursor) ← versionNumber (cursor.skip 1)
    return (.version major minor, cursor)
  else throw .malformed

def tagDirective (cursor : Cursor) : Except Fault (Token × Cursor) := do
  let (handle, cursor) ← tagHandle cursor.skipBlanks
  if 1 < handle.length && handle.getLast? != some '!' then throw .malformed
  if !(cursor.input.head?.any isBlank) then throw .malformed
  let (uri, cursor) ← someUri true cursor.skipBlanks
  if endsWord cursor.input then return (.tagHandle handle uri, cursor) else throw .malformed

/-- A directive whose percent sign is gone, with the rest of its line. -/
def directive (cursor : Cursor) : Except Fault (Token × Cursor) := do
  let (name, cursor) := cursor.span isName
  if !endsWord cursor.input then throw .malformed
  let (token, cursor) ←
    if name = "YAML".toList then versionDirective cursor
    else if name = "TAG".toList then tagDirective cursor
    else throw .malformed
  return (token, ← cursor.endLine)

end ControlLink.Yaml
