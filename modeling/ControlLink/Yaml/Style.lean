/-
# ControlLink.Yaml.Style — how a text is written as a scalar

A text is written plain where that reads back as the same text. One of several lines becomes a
literal block, one that would read as something else is put between single quotes, and what neither
form can hold goes between double quotes. `Traits` are the properties of a text that decide this.
-/
import ControlLink.Yaml.Character
import ControlLink.Yaml.Plain

namespace ControlLink.Yaml

set_option autoImplicit false

inductive Style where
  | plain
  | single
  | double
  | literal
deriving DecidableEq

/-- What a text holds that not every style can show. -/
structure Traits where
  /-- An indicator where one would be taken for structure. -/
  indicators : Bool
  multiline : Bool
  /-- A character that is not printable. -/
  special : Bool
  /-- A blank or a line end at one of its ends. -/
  ragged : Bool
  trailingSpace : Bool
  /-- A blank behind a line end. -/
  breakSpace : Bool
  /-- A blank in front of a line end. -/
  spaceBreak : Bool
deriving DecidableEq

/-- A blank, a line end or a NUL, as which the end of a text counts. -/
def isGap (c : Char) : Bool := isBlankOrBreak c || c == '\x00'

def endsAt : List Char → Bool
  | [] => true
  | c :: _ => isGap c

/-- Whether the first character of a text is an indicator there. -/
def startsAsIndicator : List Char → Bool
  | [] => false
  | c :: rest =>
    "#,[]\x7b\x7d&*!|>'\"%@`".toList.contains c ||
      ((c == '?' || c == ':' || c == '-') && endsAt rest)

/-- Whether a colon or a number sign behind the first character is an indicator. -/
def hasIndicator (afterGap : Bool) : List Char → Bool
  | [] => false
  | c :: rest => (c == ':' && endsAt rest) || (c == '#' && afterGap) || hasIndicator (isGap c) rest

/-- Whether a character of one kind stands directly in front of one of another. -/
def hasPair (first second : Char → Bool) : List Char → Bool
  | a :: b :: rest => (first a && second b) || hasPair first second (b :: rest)
  | _ => false

def isSpace (c : Char) : Bool := c == ' '

def isSpaceOrBreak (c : Char) : Bool := isSpace c || isBreak c

def Traits.of (text : List Char) : Traits where
  indicators :=
    "---".toList.isPrefixOf text || "...".toList.isPrefixOf text || startsAsIndicator text ||
      hasIndicator (text.head?.any isGap) (text.drop 1)
  multiline := text.any isBreak
  special := text.any (!isPrintable ·)
  ragged := text.head?.any isSpaceOrBreak || text.getLast?.any isSpaceOrBreak
  trailingSpace := text.getLast?.any isSpace
  breakSpace := hasPair isBreak isSpace text
  spaceBreak := hasPair isSpace isBreak text

namespace Traits

def allowsPlain (traits : Traits) : Bool :=
  !(traits.indicators || traits.multiline || traits.special || traits.ragged ||
    traits.breakSpace || traits.spaceBreak)

def allowsSingle (traits : Traits) : Bool :=
  !(traits.special || traits.breakSpace || traits.spaceBreak)

def allowsLiteral (traits : Traits) : Bool :=
  !(traits.special || traits.trailingSpace || traits.spaceBreak)

end Traits

/-- Whether a text without quotes would read as something else. -/
def needsQuotes (text : List Char) : Bool := meaning text != .text || hasNeedlessZero text

/-- The style in which a text is written. A key in front of its colon is never a block. -/
def styleOf (isKey : Bool) (text : List Char) : Style :=
  let traits := Traits.of text
  if text.contains '\n' then
    if traits.allowsLiteral && !isKey then .literal else .double
  else if !needsQuotes text && traits.allowsPlain then .plain
  else if traits.allowsSingle then .single
  else .double

/-- Whether a text can stand as a key in front of a colon: it has one line of at most 128 bytes. -/
def isSimpleKey (text : List Char) : Bool :=
  !text.any isBreak && (String.ofList text).utf8ByteSize ≤ 128

end ControlLink.Yaml
