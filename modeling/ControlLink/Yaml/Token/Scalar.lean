/-
# ControlLink.Yaml.Token.Scalar — the texts of scalars

Inside a scalar that is no block a single line end counts as a blank and further ones as line ends
(`Gap`). A plain scalar ends at an indicator, a quoted one at its quote. A block scalar keeps its
lines, or folds those that are not indented further.
-/
import ControlLink.Text.Hex
import ControlLink.Yaml.Token

namespace ControlLink.Yaml

set_option autoImplicit false

/-! ## White space inside a scalar -/

/-- How the first line end of a gap counts. -/
inductive FirstBreak where
  /-- The gap is on one line. -/
  | none
  /-- A backslash stood in front of it. -/
  | escaped
  | found (c : Char)
deriving DecidableEq

/-- The white space between two words of a scalar. -/
structure Gap where
  /-- The blanks of a gap on one line, the last first. -/
  blanks : List Char := []
  first : FirstBreak := .none
  /-- The line ends behind the first, the last first. -/
  more : List Char := []
deriving DecidableEq

namespace Gap

/-- Whether a line has ended. -/
def broken (gap : Gap) : Bool := gap.first != .none

/-- Blanks behind a line end do not count. -/
def addBlank (gap : Gap) (c : Char) : Gap :=
  if gap.broken then gap else { gap with blanks := c :: gap.blanks }

def addBreak (gap : Gap) (c : Char) : Gap :=
  if gap.broken then { gap with more := c :: gap.more } else { first := .found c }

/-- What the gap adds to the text, in reverse. -/
def reversed (gap : Gap) : List Char :=
  match gap.first with
  | .none => gap.blanks
  | .escaped => gap.more
  | .found c =>
    if c = '\n' then (if gap.more.isEmpty then [' '] else gap.more) else gap.more ++ [c]

end Gap

/-! ## Plain scalars -/

/-- A scalar that was read, the cursor behind it, and whether white space behind it ended a line. -/
structure PlainScalar where
  text : List Char
  cursor : Cursor
  broken : Bool

/-- Reads a plain scalar onto what is read so far, which is in reverse. `indent` is the column that
continuation lines must reach, and `inFlow` says whether a bracket is open. -/
def plainOnto (inFlow : Bool) (indent : Nat) (done : List Char) (gap : Gap) (mark : Mark) :
    List Char → Except Fault PlainScalar
  | [] => .ok ⟨done.reverse, ⟨mark, []⟩, gap.broken⟩
  | c :: rest =>
    let finished : PlainScalar := ⟨done.reverse, ⟨mark, c :: rest⟩, gap.broken⟩
    if isBreak c then plainOnto inFlow indent done (gap.addBreak c) (mark.after c) rest
    else if isBlank c then
      if gap.broken && mark.column < indent && c == '\t' then .error .malformed
      else plainOnto inFlow indent done (gap.addBlank c) (mark.after c) rest
    else
      let afterGap := gap.broken || !gap.blanks.isEmpty
      if afterGap && ((!inFlow && mark.column < indent) || c == '#' ||
          (Cursor.mk mark (c :: rest)).atDocumentMark) then .ok finished
      else if inFlow && c == ':' && (rest.head?.any fun d => isFlowIndicator d || d == '?') then
        .error .malformed
      else if (c == ':' && endsWord rest) || (inFlow && isFlowIndicator c) then .ok finished
      else plainOnto inFlow indent (c :: (gap.reversed ++ done)) {} (mark.after c) rest

/-! ## Quoted scalars -/

/-- Reads a scalar between single quotes, of which one is written twice. -/
def singleOnto (done : List Char) (gap : Gap) (mark : Mark) :
    List Char → Except Fault (List Char × Cursor)
  | [] => .error .malformed
  | c :: rest =>
    if isBreak c then singleOnto done (gap.addBreak c) (mark.after c) rest
    else if isBlank c then singleOnto done (gap.addBlank c) (mark.after c) rest
    else if (Cursor.mk mark (c :: rest)).atDocumentMark then .error .malformed
    else
      let done := gap.reversed ++ done
      if c = '\'' then
        match rest with
        | '\'' :: rest => singleOnto ('\'' :: done) {} ((mark.after c).after c) rest
        | _ => .ok (done.reverse, ⟨mark.after c, rest⟩)
      else singleOnto (c :: done) {} (mark.after c) rest

/-- An escape: a character of its own, or how many hexadecimal digits give its number. -/
inductive Escape where
  | char (c : Char)
  | digits (count : Nat)

/-- What the letter behind a backslash stands for. -/
def escape? : Char → Option Escape
  | '0' => some (.char '\x00')
  | 'a' => some (.char '\x07')
  | 'b' => some (.char '\x08')
  | 't' => some (.char '\t')
  | '\t' => some (.char '\t')
  | 'n' => some (.char '\n')
  | 'v' => some (.char '\x0b')
  | 'f' => some (.char '\x0c')
  | 'r' => some (.char '\r')
  | 'e' => some (.char '\x1b')
  | ' ' => some (.char ' ')
  | '"' => some (.char '"')
  | '/' => some (.char '/')
  | '\\' => some (.char '\\')
  | 'N' => some (.char '\x85')
  | '_' => some (.char '\xa0')
  | 'L' => some (.char '\u2028')
  | 'P' => some (.char '\u2029')
  | 'x' => some (.digits 2)
  | 'u' => some (.digits 4)
  | 'U' => some (.digits 8)
  | _ => none

/-- The character with a number, if there is one. -/
def charOf? (n : Nat) : Option Char := if n.isValidChar then some (Char.ofNat n) else none

/-- Digits of an escape that are still to come, and the number so far. -/
structure Pending where
  left : Nat
  value : Nat

/-- Reads a scalar between double quotes. -/
def doubleOnto (done : List Char) (gap : Gap) (pending : Option Pending) (mark : Mark) :
    List Char → Except Fault (List Char × Cursor)
  | [] => .error .malformed
  | c :: rest =>
    match pending with
    | some ⟨left, value⟩ =>
      match Text.Hex.digit? c with
      | none => .error .malformed
      | some digit =>
        let value := 16 * value + digit
        if left = 1 then
          match charOf? value with
          | some char => doubleOnto (char :: done) {} none (mark.after c) rest
          | none => .error .malformed
        else doubleOnto done {} (some ⟨left - 1, value⟩) (mark.after c) rest
    | none =>
      if isBreak c then doubleOnto done (gap.addBreak c) none (mark.after c) rest
      else if isBlank c then doubleOnto done (gap.addBlank c) none (mark.after c) rest
      else if (Cursor.mk mark (c :: rest)).atDocumentMark then .error .malformed
      else
        let done := gap.reversed ++ done
        if c = '"' then .ok (done.reverse, ⟨mark.after c, rest⟩)
        else if c = '\\' then
          match rest with
          | [] => .error .malformed
          | d :: rest =>
            let mark := (mark.after c).after d
            if isBreak d then doubleOnto done { first := .escaped } none mark rest
            else
              match escape? d with
              | some (.char char) => doubleOnto (char :: done) {} none mark rest
              | some (.digits count) => doubleOnto done {} (some ⟨count, 0⟩) mark rest
              | none => .error .malformed
        else doubleOnto (c :: done) {} none (mark.after c) rest

/-! ## Block scalars -/

/-- What becomes of the line ends at the end of a block scalar. -/
inductive Chomping where
  | strip
  | clip
  | keep
deriving DecidableEq

/-- The header of a block scalar: its chomping and how far it is indented, if given. -/
structure BlockHeader where
  chomping : Chomping := .clip
  increment : Option Nat := none

def chomping? : Char → Option Chomping
  | '+' => some .keep
  | '-' => some .strip
  | _ => none

/-- An indentation from one to nine. -/
def increment? (c : Char) : Option Nat :=
  if '1' ≤ c ∧ c ≤ '9' then some (c.toNat - 48) else none

/-- Reads the two marks of a header in either order, and the rest of its line. -/
def blockHeader (cursor : Cursor) : Except Fault (BlockHeader × Cursor) := do
  let (header, count) : BlockHeader × Nat :=
    match cursor.input with
    | [] => ({}, 0)
    | c :: rest =>
      match chomping? c, increment? c with
      | some chomping, _ =>
        match rest.head?.bind increment? with
        | some increment => (⟨chomping, some increment⟩, 2)
        | none => (⟨chomping, none⟩, 1)
      | none, some increment =>
        match rest.head?.bind chomping? with
        | some chomping => (⟨chomping, some increment⟩, 2)
        | none => (⟨.clip, some increment⟩, 1)
      | none, none => ({}, 0)
  return (header, ← (cursor.skip count).endLine)

/-- Skips indentation and empty lines. The result is the deepest column reached, the line ends in
reverse and the cursor; without an indentation any number of blanks is skipped. -/
def blockBreaks (indent : Option Nat) (deepest : Nat) (breaks : List Char) (mark : Mark) :
    List Char → Except Fault (Nat × List Char × Cursor)
  | [] => .ok (max deepest mark.column, breaks, ⟨mark, []⟩)
  | c :: rest =>
    let outside := indent.all fun indent => mark.column < indent
    if outside && c == ' ' then blockBreaks indent deepest breaks (mark.after c) rest
    else
      let deepest := max deepest mark.column
      if outside && c == '\t' then .error .malformed
      else if isBreak c then blockBreaks indent deepest (c :: breaks) (mark.after c) rest
      else .ok (deepest, breaks, ⟨mark, c :: rest⟩)

/-- A block scalar while its lines are read. -/
structure BlockText where
  /-- The text so far, in reverse. -/
  done : List Char := []
  /-- The line end of the last line. -/
  ending : List Char := []
  /-- The line ends of empty lines behind it, in reverse. -/
  breaks : List Char
  /-- Whether the last line starts with a blank. -/
  indented : Bool := false

/-- Adds a line, with the line end behind it. -/
def BlockText.addLine (text : BlockText) (folded : Bool) (line ending breaks : List Char) :
    BlockText :=
  let indented := line.head?.any isBlank
  let joint :=
    if folded && text.ending == ['\n'] && !text.indented && !indented then
      if text.breaks.isEmpty then [' '] else []
    else text.ending
  { done := line.reverse ++ (text.breaks ++ (joint ++ text.done)), ending, breaks, indented }

/-- Reads the lines that reach the indentation. -/
def blockLines (folded : Bool) (indent : Nat) : Nat → BlockText → Cursor →
    Except Fault (BlockText × Cursor)
  | 0, text, cursor => .ok (text, cursor)
  | fuel + 1, text, cursor =>
    if cursor.column != indent || cursor.input.isEmpty then .ok (text, cursor)
    else
      let (line, cursor) := cursor.span (!isBreak ·)
      let ending := cursor.input.take 1
      let cursor := cursor.skip 1
      match blockBreaks (some indent) 0 [] cursor.mark cursor.input with
      | .error fault => .error fault
      | .ok (_, breaks, cursor) =>
        blockLines folded indent fuel (text.addLine folded line ending breaks) cursor

/-- Reads a block scalar whose indicator is gone. `parent` is the indentation around it. -/
def blockScalar (folded : Bool) (parent : Int) (cursor : Cursor) :
    Except Fault (List Char × Cursor) := do
  let (header, cursor) ← blockHeader cursor
  let given := header.increment.map fun increment => (max parent 0).toNat + increment
  let (deepest, breaks, cursor) ← blockBreaks given 0 [] cursor.mark cursor.input
  let indent := given.getD (max deepest (max (parent + 1).toNat 1))
  let (text, cursor) ← blockLines folded indent (cursor.input.length + 1) { breaks } cursor
  let done := match header.chomping with
    | .strip => text.done
    | .clip => text.ending ++ text.done
    | .keep => text.breaks ++ (text.ending ++ text.done)
  return (done.reverse, cursor)

end ControlLink.Yaml
