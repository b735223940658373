/-
# ControlLink.Yaml.Document — from the tree of a text to a document

Aliases are expanded, scalars become what they stand for and keys are taken as their texts. Numbers
that are not finite have no place in a document and become null. Nesting is limited, and so is the
number of aliases that are followed, in proportion to the size of the text.
-/
import ControlLink.Json.Value
import ControlLink.Yaml.Node
import ControlLink.Yaml.Plain
import ControlLink.Yaml.Token.Lexer

namespace ControlLink.Yaml

set_option autoImplicit false

/-- How many collections may be nested in each other. -/
def depthLimit : Nat := 128

/-- How many aliases may be followed for each event of a text. -/
def aliasFactor : Nat := 100

mutual

/-- The number of events that describe a node: one for a scalar or an alias, and two, with those of
its parts, for a collection. -/
def Node.events : Node → Nat
  | .scalar _ _ _ | .alias _ => 1
  | .sequence _ items => 2 + eventsOfItems items
  | .mapping _ entries => 2 + eventsOfEntries entries

def eventsOfItems : List Node → Nat
  | [] => 0
  | item :: rest => item.events + eventsOfItems rest

def eventsOfEntries : List (Node × Node) → Nat
  | [] => 0
  | (key, value) :: rest => key.events + value.events + eventsOfEntries rest

end

/-! ## Scalars -/

def ofReal (x : Decimal.Binary64) : Json :=
  match Json.Number.ofReal? x with
  | some number => .number number
  | none => .null

def ofInteger (n : Int) : Except Fault Json :=
  match Json.Number.ofInt? n with
  | some number => .ok (.number number)
  | none => .error .integerTooLarge

/-- The value of a scalar without quotes. -/
def ofPlain (text : List Char) : Except Fault Json :=
  match meaning text with
  | .null => .ok .null
  | .bool value => .ok (.bool value)
  | .integer n => ofInteger n
  | .real x => .ok (ofReal x)
  | .notFinite => .ok .null
  | .text => .ok (.string (String.ofList text))

/-- A tag of the common set, without what they all start with. -/
def commonTag? (tag : List Char) : Option String :=
  let start := "tag:yaml.org,2002:".toList
  if start.isPrefixOf tag then some (String.ofList (tag.drop start.length)) else none

/-- The value of a scalar under a tag of the common set that names a kind of values. -/
def ofTagged (kind : String) (text : List Char) : Except Fault Json :=
  match kind with
  | "bool" =>
    match bool? text with
    | some value => .ok (.bool value)
    | none => .error .wrongTag
  | "int" =>
    match integer? text with
    | some n => if isWide n then ofInteger n else .error .wrongTag
    | none => .error .wrongTag
  | "float" =>
    match number? text with
    | some (.real x) => .ok (ofReal x)
    | some _ => .ok .null
    | none => .error .wrongTag
  | "null" => if isNull text then .ok .null else .error .wrongTag
  | _ => .ok (.string (String.ofList text))

/-- Whether a tag belongs to the text that uses it. Such a tag has no meaning here. -/
def isLocal (tag : Option (List Char)) : Bool := tag.any fun tag => tag.head? == some '!'

def ofScalar (tag : Option (List Char)) (plain : Bool) (text : List Char) : Except Fault Json :=
  if isLocal tag then .error .unknownTag
  else
    match tag with
    | some tag =>
      match commonTag? tag with
      | some kind => ofTagged kind text
      | none => .ok (.string (String.ofList text))
    | none => if plain then ofPlain text else .ok (.string (String.ofList text))

/-! ## Collections -/

/-- Follows an alias. The count is that of the aliases followed so far. -/
def Document.follow (document : Document) (limit : Nat) (node : Node) (followed : Nat) :
    Except Fault (Node × Nat) :=
  match node with
  | .alias slot =>
    if limit ≤ followed then .error .repetition
    else
      let candidates := document.anchored.filter (·.slot == slot)
      let last? := candidates.foldl (fun (last? : Option Anchored) anchored =>
        if last?.all fun last => last.number ≤ anchored.number then some anchored else last?) none
      match last? with
      | some anchored => .ok (anchored.node, followed + 1)
      | none => .error .unknownAnchor
  | node => .ok (node, followed)

/-- The text of a key. -/
def Document.key (document : Document) (limit : Nat) (node : Node) (followed : Nat) :
    Except Fault (String × Nat) := do
  match ← document.follow limit node followed with
  | (.scalar _ _ text, followed) => return (String.ofList text, followed)
  | _ => throw .keyNotScalar

/-- The value of a node inside which `depth` collections may be nested. -/
def Document.value (document : Document) (limit : Nat) (depth : Nat) (node : Node)
    (followed : Nat) : Except Fault (Json × Nat) :=
  match document.follow limit node followed with
  | .error fault => .error fault
  | .ok (.scalar tag plain text, followed) => (ofScalar tag plain text).map (·, followed)
  | .ok (.alias _, _) => .error .unknownAnchor
  | .ok (.sequence tag items, followed) =>
    match depth with
    | 0 => .error .tooDeep
    | depth + 1 =>
      if isLocal tag then .error .unknownTag
      else do
        let (items, followed) ← items.foldlM (fun (done, followed) item => do
          let (value, followed) ← document.value limit depth item followed
          return (value :: done, followed)) (([] : List Json), followed)
        return (.array items.reverse, followed)
  | .ok (.mapping tag entries, followed) =>
    match depth with
    | 0 => .error .tooDeep
    | depth + 1 =>
      if isLocal tag then .error .unknownTag
      else do
        let (members, followed) ← entries.foldlM (fun (done, followed) (key, entry) => do
          let (key, followed) ← document.key limit key followed
          let (value, followed) ← document.value limit depth entry followed
          return (Json.insert key value done, followed)) (([] : List (String × Json)), followed)
        return (.object members, followed)

def Document.toJson (document : Document) : Except Fault Json :=
  (document.value (aliasFactor * document.root.events) depthLimit document.root 0).map Prod.fst

/-- Reads the document of a text. -/
def parse (text : List Char) : Except Fault Json :=
  match readable? text with
  | none => .error .unreadable
  | some text => do
    let tokens ← Token.scan text
    let document ← Node.ofTokens tokens
    document.toJson

end ControlLink.Yaml
