/-
# ControlLink.Yaml.Token.Lexer — from a text to tokens

A key in front of a colon has no indicator of its own. So the lexer remembers at every depth of
brackets where a key may have started (`PossibleKey`), and puts the key token there when the colon
comes. Such a key is on one line and has at most 1024 characters. Outside brackets the column of a
token opens and closes collections.
-/
import ControlLink.Yaml.Token.Name
import ControlLink.Yaml.Token.Scalar

namespace ControlLink.Yaml

set_option autoImplicit false

/-- Where a key may have started. -/
structure PossibleKey where
  /-- Whether nothing but a key can stand here. -/
  required : Bool
  /-- How many tokens stand in front of it. -/
  number : Nat
  mark : Mark

structure Lexer where
  cursor : Cursor
  /-- The tokens so far, the last first. -/
  tokens : List Token := []
  count : Nat := 0
  /-- The column of the innermost collection in block style, `-1` outside all. -/
  indent : Int := -1
  /-- The columns of the collections around it. -/
  outer : List Int := []
  /-- Whether a key may start here. -/
  keyAllowed : Bool := true
  key : Option PossibleKey := none
  /-- The possible keys in front of the brackets that are open. -/
  flow : List (Option PossibleKey) := []

namespace Lexer

def inFlow (lexer : Lexer) : Bool := !lexer.flow.isEmpty

def add (lexer : Lexer) (token : Token) : Lexer :=
  { lexer with tokens := token :: lexer.tokens, count := lexer.count + 1 }

/-- Puts a token behind the first `number` tokens. -/
def insertAt (lexer : Lexer) (number : Nat) (token : Token) : Lexer :=
  let later := lexer.count - number
  { lexer with
    tokens := lexer.tokens.take later ++ token :: lexer.tokens.drop later
    count := lexer.count + 1 }

/-! ## Keys -/

/-- Whether a key that started there could still end here. -/
def fresh (mark : Mark) (key : PossibleKey) : Bool :=
  key.mark.line == mark.line && mark.index ≤ key.mark.index + 1024

/-- Forgets a key that has become too long. -/
def expire (mark : Mark) : Option PossibleKey → Except Fault (Option PossibleKey)
  | none => .ok none
  | some key =>
    if fresh mark key then .ok (some key)
    else if key.required then .error .malformed
    else .ok none

def expireKeys (lexer : Lexer) : Except Fault Lexer := do
  let key ← expire lexer.cursor.mark lexer.key
  let flow ← lexer.flow.mapM (expire lexer.cursor.mark)
  return { lexer with key, flow }

/-- Forgets the key that may have started. -/
def dropKey (lexer : Lexer) : Except Fault Lexer :=
  if lexer.key.any (·.required) then .error .malformed else .ok { lexer with key := none }

/-- Remembers that a key may start here. -/
def saveKey (lexer : Lexer) : Except Fault Lexer :=
  if lexer.keyAllowed then do
    let required := !lexer.inFlow && lexer.indent == (lexer.cursor.column : Int)
    let lexer ← lexer.dropKey
    return { lexer with key := some ⟨required, lexer.count, lexer.cursor.mark⟩ }
  else .ok lexer

/-! ## Indentation -/

/-- Opens a collection at a column that lies further right. -/
def indentTo (lexer : Lexer) (column : Nat) (number : Nat) (token : Token) : Lexer :=
  if !lexer.inFlow && lexer.indent < (column : Int) then
    { lexer with indent := column, outer := lexer.indent :: lexer.outer }.insertAt number token
  else lexer

/-- Closes the collections that lie further right than a column. -/
def closeTo (column : Int) (outer : List Int) (lexer : Lexer) : Lexer :=
  if lexer.indent ≤ column then { lexer with outer }
  else
    match outer with
    | [] => { lexer with outer }
    | indent :: outer => closeTo column outer ({ lexer with indent }.add .blockEnd)

def unindentTo (lexer : Lexer) (column : Int) : Lexer :=
  if lexer.inFlow then lexer else closeTo column lexer.outer lexer

/-! ## Between tokens -/

/-- Skips blanks, comments and line ends. A tab may not stand where a key may start. -/
def skipSpace (inFlow : Bool) (keyAllowed inComment : Bool) (mark : Mark) :
    List Char → Bool × Cursor
  | [] => (keyAllowed, ⟨mark, []⟩)
  | c :: rest =>
    if isBreak c then skipSpace inFlow (keyAllowed || !inFlow) false (mark.after c) rest
    else if inComment || c == '#' then skipSpace inFlow keyAllowed true (mark.after c) rest
    else if c == ' ' || (c == '\t' && (inFlow || !keyAllowed)) then
      skipSpace inFlow keyAllowed false (mark.after c) rest
    else (keyAllowed, ⟨mark, c :: rest⟩)

/-- Goes to the next token. -/
def advance (lexer : Lexer) : Except Fault Lexer := do
  let (keyAllowed, cursor) := skipSpace lexer.inFlow lexer.keyAllowed false lexer.cursor.mark
    lexer.cursor.input
  let lexer ← { lexer with keyAllowed, cursor }.expireKeys
  return lexer.unindentTo lexer.cursor.column

/-! ## Tokens -/

/-- Adds a token of so many characters. -/
def take (lexer : Lexer) (length : Nat) (token : Token) : Lexer :=
  { lexer with cursor := lexer.cursor.skip length }.add token

def allowKey (lexer : Lexer) (keyAllowed : Bool) : Lexer := { lexer with keyAllowed }

/-- The end of the text closes everything. -/
def finish (lexer : Lexer) : Except Fault Lexer := (lexer.unindentTo (-1)).dropKey

def documentMark (lexer : Lexer) : Except Fault Lexer := do
  let lexer ← (lexer.unindentTo (-1)).dropKey
  let token := if lexer.cursor.startsWith "-" then Token.documentStart else Token.documentEnd
  return (lexer.allowKey false).take 3 token

def readDirective (lexer : Lexer) : Except Fault Lexer := do
  let lexer ← (lexer.unindentTo (-1)).dropKey
  let (token, cursor) ← directive (lexer.cursor.skip 1)
  return { lexer with cursor, keyAllowed := false }.add token

def openFlow (lexer : Lexer) (token : Token) : Except Fault Lexer := do
  let lexer ← lexer.saveKey
  let lexer := { lexer with flow := lexer.key :: lexer.flow, key := none }
  return (lexer.allowKey true).take 1 token

def closeFlow (lexer : Lexer) (token : Token) : Except Fault Lexer := do
  let lexer ← lexer.dropKey
  let lexer := match lexer.flow with
    | [] => lexer
    | key :: flow => { lexer with flow, key }
  return (lexer.allowKey false).take 1 token

def flowEntry (lexer : Lexer) : Except Fault Lexer := do
  let lexer ← lexer.dropKey
  return (lexer.allowKey true).take 1 .flowEntry

/-- Opens a collection in block style for an indicator, where one is allowed. -/
def openBlock (lexer : Lexer) (token : Token) : Except Fault Lexer :=
  if lexer.inFlow then .ok lexer
  else if lexer.keyAllowed then .ok (lexer.indentTo lexer.cursor.column lexer.count token)
  else .error .malformed

def blockEntry (lexer : Lexer) : Except Fault Lexer := do
  let lexer ← lexer.openBlock .blockSequenceStart
  let lexer ← lexer.dropKey
  return (lexer.allowKey true).take 1 .blockEntry

def keyIndicator (lexer : Lexer) : Except Fault Lexer := do
  let lexer ← lexer.openBlock .blockMappingStart
  let lexer ← lexer.dropKey
  return (lexer.allowKey (!lexer.inFlow)).take 1 .key

def valueIndicator (lexer : Lexer) : Except Fault Lexer := do
  match lexer.key with
  | some key =>
    let lexer := (lexer.insertAt key.number .key).indentTo key.mark.column key.number
      .blockMappingStart
    return ({ lexer with key := none }.allowKey false).take 1 .value
  | none =>
    let lexer ← lexer.openBlock .blockMappingStart
    return (lexer.allowKey (!lexer.inFlow)).take 1 .value

/-- Reads a token that may start a key. -/
def content (lexer : Lexer) (read : Cursor → Except Fault (Token × Cursor)) :
    Except Fault Lexer := do
  let lexer ← lexer.saveKey
  let (token, cursor) ← read lexer.cursor
  return { lexer with cursor, keyAllowed := false }.add token

def named (token : List Char → Token) (cursor : Cursor) : Except Fault (Token × Cursor) :=
  (anchorName (cursor.skip 1)).map fun (name, cursor) => (token name, cursor)

def quoted (read : Cursor → Except Fault (List Char × Cursor)) (cursor : Cursor) :
    Except Fault (Token × Cursor) :=
  (read (cursor.skip 1)).map fun (text, cursor) => (.scalar false text, cursor)

def block (lexer : Lexer) (folded : Bool) : Except Fault Lexer := do
  let lexer ← lexer.dropKey
  let (text, cursor) ← blockScalar folded lexer.indent (lexer.cursor.skip 1)
  return { lexer with cursor, keyAllowed := true }.add (.scalar false text)

def plain (lexer : Lexer) : Except Fault Lexer := do
  let lexer ← lexer.saveKey
  let scalar ← plainOnto lexer.inFlow (lexer.indent + 1).toNat [] {} lexer.cursor.mark
    lexer.cursor.input
  return { lexer with cursor := scalar.cursor, keyAllowed := scalar.broken }.add
    (.scalar true scalar.text)

/-- Characters that no plain scalar starts with. -/
def isIndicator (c : Char) : Bool := "-?:,[]\x7b\x7d#&*!|>'\"%@`".toList.contains c

/-- Whether a plain scalar starts with a character that has more behind it. -/
def startsPlain (inFlow : Bool) (c : Char) (rest : List Char) : Bool :=
  !(isBlankOrBreak c || isIndicator c) ||
    (c == '-' && !(rest.head?.any isBlank)) ||
    (!inFlow && (c == '?' || c == ':') && !endsWord rest)

/-- Reads the token at the cursor. -/
def token (lexer : Lexer) (c : Char) (rest : List Char) : Except Fault Lexer :=
  let inFlow := lexer.inFlow
  if lexer.cursor.column == 0 && c == '%' then lexer.readDirective
  else if lexer.cursor.atDocumentMark then lexer.documentMark
  else if c == '[' then lexer.openFlow .flowSequenceStart
  else if c == '\x7b' then lexer.openFlow .flowMappingStart
  else if c == ']' then lexer.closeFlow .flowSequenceEnd
  else if c == '\x7d' then lexer.closeFlow .flowMappingEnd
  else if c == ',' then lexer.flowEntry
  else if c == '-' && endsWord rest then lexer.blockEntry
  else if c == '?' && (inFlow || endsWord rest) then lexer.keyIndicator
  else if c == ':' && (inFlow || endsWord rest) then lexer.valueIndicator
  else if c == '*' then lexer.content (named .alias)
  else if c == '&' then lexer.content (named .anchor)
  else if c == '!' then lexer.content (tagToken inFlow)
  else if c == '|' && !inFlow then lexer.block false
  else if c == '>' && !inFlow then lexer.block true
  else if c == '\'' then
    lexer.content (quoted fun cursor => singleOnto [] {} cursor.mark cursor.input)
  else if c == '"' then
    lexer.content (quoted fun cursor => doubleOnto [] {} none cursor.mark cursor.input)
  else if startsPlain inFlow c rest then lexer.plain
  else .error .malformed

/-- Reads tokens up to the end of the text. Every token takes at least one character. -/
def run : Nat → Lexer → Except Fault (List Token)
  | 0, _ => .error .malformed
  | fuel + 1, lexer =>
    match lexer.advance with
    | .error fault => .error fault
    | .ok lexer =>
      match lexer.cursor.input with
      | [] => lexer.finish.map fun lexer => lexer.tokens.reverse
      | c :: rest =>
        match lexer.token c rest with
        | .error fault => .error fault
        | .ok lexer => run fuel lexer

end Lexer

/-- The tokens of a text in plain form. -/
def Token.scan (text : List Char) : Except Fault (List Token) :=
  Lexer.run (text.length + 1) { cursor := { input := text } }

end ControlLink.Yaml
