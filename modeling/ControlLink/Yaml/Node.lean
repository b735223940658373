/-
# ControlLink.Yaml.Node — the tree that tokens describe

`Node.ofTokens` reads the nodes of the one document that a stream of tokens may hold. An alias does
not name its anchor but a slot: an anchor gets the number of different names before it as its slot,
and the anchor that came last to a slot is the one that its aliases mean. So an alias can mean a
node that comes after it, or one around it.

The functions over tokens take fuel for the calls inside each other. Every turn of a loop takes a
token and no more than three calls lie between two of them, so the fuel of `ofTokens` never runs
out.
-/
import ControlLink.Yaml.Token

namespace ControlLink.Yaml

set_option autoImplicit false

inductive Node where
  /-- A scalar is plain if it has no quotes and is no block. -/
  | scalar (tag : Option (List Char)) (plain : Bool) (text : List Char)
  | sequence (tag : Option (List Char)) (items : List Node)
  | mapping (tag : Option (List Char)) (entries : List (Node × Node))
  | alias (slot : Nat)

/-- A node that an anchor names. -/
structure Anchored where
  slot : Nat
  /-- How many anchors started before it. -/
  number : Nat
  node : Node

/-- The tokens that are still to be read, and what is known of anchors and tags. -/
structure Reader where
  tokens : List Token
  /-- The slots of the names of anchors. -/
  slots : List (List Char × Nat) := []
  /-- How many anchors have started. -/
  started : Nat := 0
  anchored : List Anchored := []
  /-- What the handles of tags stand for. -/
  handles : List (List Char × List Char) := []

namespace Node

def empty : Node := scalar none true []

end Node

namespace Reader

def next? (reader : Reader) : Option Token := reader.tokens.head?

def skip (reader : Reader) : Reader := { reader with tokens := reader.tokens.drop 1 }

/-- Whether one of some tokens, or the end, is next. -/
def atOneOf (reader : Reader) (tokens : List Token) : Bool := reader.next?.any tokens.contains

/-! ## Anchors and tags -/

/-- Gives an anchor that starts here its slot and its number. -/
def start (reader : Reader) (name : List Char) : Nat × Nat × Reader :=
  let slot := reader.slots.length
  (slot, reader.started, { reader with
    slots := (name, slot) :: reader.slots.filter fun (other, _) => other != name
    started := reader.started + 1 })

/-- The number of different names. A name that gets a new slot still counts once. -/
def slotOf? (reader : Reader) (name : List Char) : Option Nat := reader.slots.lookup name

/-- The tag that a handle and a suffix stand for. -/
def resolve (reader : Reader) (handle suffix : List Char) : Except Fault (List Char) :=
  if handle.isEmpty then .ok suffix
  else
    match reader.handles.lookup handle with
    | some uri => .ok (uri ++ suffix)
    | none => .error .unknownTag

/-- What may stand in front of a node. -/
structure Properties where
  anchor : Option (List Char) := none
  tag : Option (List Char) := none

/-- Reads an anchor and a tag in either order. -/
def properties (reader : Reader) : Except Fault (Properties × Reader) := do
  match reader.tokens with
  | .anchor name :: .tag handle suffix :: rest =>
    return (⟨some name, some (← reader.resolve handle suffix)⟩, { reader with tokens := rest })
  | .anchor name :: rest => return (⟨some name, none⟩, { reader with tokens := rest })
  | .tag handle suffix :: .anchor name :: rest =>
    return (⟨some name, some (← reader.resolve handle suffix)⟩, { reader with tokens := rest })
  | .tag handle suffix :: rest =>
    return (⟨none, some (← reader.resolve handle suffix)⟩, { reader with tokens := rest })
  | _ => return ({}, reader)

/-- Reads a node under an anchor, whose slot is taken before the node is read. -/
def anchoring (anchor : Option (List Char)) (reader : Reader)
    (read : Reader → Except Fault (Node × Reader)) : Except Fault (Node × Reader) :=
  match anchor with
  | none => read reader
  | some name => do
    let (slot, number, reader) := reader.start name
    let (node, reader) ← read reader
    return (node, { reader with anchored := ⟨slot, number, node⟩ :: reader.anchored })

/-- A scalar. The tag of a lone exclamation mark is no tag. -/
def scalarNode (tag : Option (List Char)) (plain : Bool) (text : List Char) : Node :=
  .scalar (if tag == some ['!'] then none else tag) plain text

/-! ## Nodes -/

mutual

/-- Reads a node. Collections in block style are only read where `block` allows them, and a
sequence without a start token where `indentless` does. -/
def node (fuel : Nat) (block indentless : Bool) (reader : Reader) : Except Fault (Node × Reader) :=
  match fuel with
  | 0 => .error .malformed
  | fuel + 1 =>
    match reader.next? with
    | some (.alias name) =>
      match reader.slotOf? name with
      | some slot => .ok (.alias slot, reader.skip)
      | none => .error .unknownAnchor
    | _ => do
      let (⟨anchor, tag⟩, reader) ← reader.properties
      match reader.next? with
      | some (.scalar plain text) =>
        anchoring anchor reader.skip fun reader => .ok (scalarNode tag plain text, reader)
      | some .flowSequenceStart =>
        anchoring anchor reader.skip fun reader => do
          let (items, reader) ← flowItems fuel true reader
          return (.sequence tag items, reader)
      | some .flowMappingStart =>
        anchoring anchor reader.skip fun reader => do
          let (entries, reader) ← flowEntries fuel true reader
          return (.mapping tag entries, reader)
      | token =>
        if indentless && token == some .blockEntry then
          anchoring anchor reader fun reader => do
            let (items, reader) ← bareItems fuel reader
            return (.sequence tag items, reader)
        else if block && token == some .blockSequenceStart then
          anchoring anchor reader.skip fun reader => do
            let (items, reader) ← blockItems fuel reader
            return (.sequence tag items, reader)
        else if block && token == some .blockMappingStart then
          anchoring anchor reader.skip fun reader => do
            let (entries, reader) ← blockEntries fuel reader
            return (.mapping tag entries, reader)
        else if anchor.isSome || tag.isSome then
          anchoring anchor reader fun reader => .ok (.scalar tag true [], reader)
        else .error .malformed

/-- Reads a node, which is empty if one of some tokens is next. -/
def nodeUnless (fuel : Nat) (ends : List Token) (block indentless : Bool) (reader : Reader) :
    Except Fault (Node × Reader) :=
  match fuel with
  | 0 => .error .malformed
  | fuel + 1 =>
    if reader.atOneOf ends then .ok (Node.empty, reader) else node fuel block indentless reader

/-- The items of a sequence in block style, up to its end. -/
def blockItems (fuel : Nat) (reader : Reader) : Except Fault (List Node × Reader) :=
  match fuel with
  | 0 => .error .malformed
  | fuel + 1 =>
    match reader.next? with
    | some .blockEntry => do
      let (item, reader) ← nodeUnless fuel [.blockEntry, .blockEnd] true false reader.skip
      let (items, reader) ← blockItems fuel reader
      return (item :: items, reader)
    | some .blockEnd => .ok ([], reader.skip)
    | _ => .error .malformed

/-- The items of a sequence that is indented no further than the mapping around it. -/
def bareItems (fuel : Nat) (reader : Reader) : Except Fault (List Node × Reader) :=
  match fuel with
  | 0 => .error .malformed
  | fuel + 1 =>
    match reader.next? with
    | some .blockEntry => do
      let (item, reader) ←
        nodeUnless fuel [.blockEntry, .key, .value, .blockEnd] true false reader.skip
      let (items, reader) ← bareItems fuel reader
      return (item :: items, reader)
    | _ => .ok ([], reader)

/-- The entries of a mapping in block style, up to its end. -/
def blockEntries (fuel : Nat) (reader : Reader) : Except Fault (List (Node × Node) × Reader) :=
  match fuel with
  | 0 => .error .malformed
  | fuel + 1 =>
    match reader.next? with
    | some .key => do
      let (key, reader) ← nodeUnless fuel [.key, .value, .blockEnd] true true reader.skip
      let (value, reader) ←
        if reader.next? == some .value then
          nodeUnless fuel [.key, .value, .blockEnd] true true reader.skip
        else pure (Node.empty, reader)
      let (entries, reader) ← blockEntries fuel reader
      return ((key, value) :: entries, reader)
    | some .blockEnd => .ok ([], reader.skip)
    | _ => .error .malformed

/-- The items of a sequence between brackets, up to its end. A key inside is a mapping of one
entry; where its key is left out, the token behind it is lost. -/
def flowItems (fuel : Nat) (first : Bool) (reader : Reader) : Except Fault (List Node × Reader) :=
  match fuel with
  | 0 => .error .malformed
  | fuel + 1 =>
    if reader.next? == some .flowSequenceEnd then .ok ([], reader.skip)
    else if !first && reader.next? != some .flowEntry then .error .malformed
    else do
      let reader := if first then reader else reader.skip
      match reader.next? with
      | some .flowSequenceEnd => return ([], reader.skip)
      | some .key =>
        let reader := reader.skip
        let (key, reader) ←
          if reader.atOneOf [.value, .flowEntry, .flowSequenceEnd] then
            pure (Node.empty, reader.skip)
          else node fuel false false reader
        let (value, reader) ←
          if reader.next? == some .value then
            nodeUnless fuel [.flowEntry, .flowSequenceEnd] false false reader.skip
          else pure (Node.empty, reader)
        let (items, reader) ← flowItems fuel false reader
        return (.mapping none [(key, value)] :: items, reader)
      | _ =>
        let (item, reader) ← node fuel false false reader
        let (items, reader) ← flowItems fuel false reader
        return (item :: items, reader)

/-- The entries of a mapping between braces, up to its end. -/
def flowEntries (fuel : Nat) (first : Bool) (reader : Reader) :
    Except Fault (List (Node × Node) × Reader) :=
  match fuel with
  | 0 => .error .malformed
  | fuel + 1 =>
    if reader.next? == some .flowMappingEnd then .ok ([], reader.skip)
    else if !first && reader.next? != some .flowEntry then .error .malformed
    else do
      let reader := if first then reader else reader.skip
      match reader.next? with
      | some .flowMappingEnd => return ([], reader.skip)
      | some .key =>
        let (key, reader) ←
          nodeUnless fuel [.value, .flowEntry, .flowMappingEnd] false false reader.skip
        let (value, reader) ←
          if reader.next? == some .value then
            nodeUnless fuel [.flowEntry, .flowMappingEnd] false false reader.skip
          else pure (Node.empty, reader)
        let (entries, reader) ← flowEntries fuel false reader
        return ((key, value) :: entries, reader)
      | _ =>
        let (key, reader) ← node fuel false false reader
        let (entries, reader) ← flowEntries fuel false reader
        return ((key, Node.empty) :: entries, reader)

end

/-! ## Documents -/

/-- The handles that need no directive. -/
def commonHandles : List (List Char × List Char) :=
  [(['!'], ['!']), (['!', '!'], "tag:yaml.org,2002:".toList)]

/-- Reads directives, of which each may stand once. -/
def directives (versioned : Bool) (handles : List (List Char × List Char)) :
    List Token → Except Fault (List (List Char × List Char) × List Token)
  | .version major minor :: rest =>
    if versioned || major != 1 || (minor != 1 && minor != 2) then .error .malformed
    else directives true handles rest
  | .tagHandle handle uri :: rest =>
    if (handles.lookup handle).isSome then .error .malformed
    else directives versioned ((handle, uri) :: handles) rest
  | tokens => .ok (handles ++ commonHandles, tokens)

/-- Reads the root of a document without a mark in front. -/
def bareRoot (fuel : Nat) (reader : Reader) : Except Fault (Node × Reader) :=
  node fuel true false { reader with handles := commonHandles }

/-- Reads the root of a document behind directives and a mark. -/
def markedRoot (fuel : Nat) (reader : Reader) : Except Fault (Node × Reader) := do
  let (handles, tokens) ← directives false [] reader.tokens
  match tokens with
  | .documentStart :: tokens =>
    let reader := { reader with handles, tokens }
    match tokens with
    | [] | .version _ _ :: _ | .tagHandle _ _ :: _ | .documentStart :: _ | .documentEnd :: _ =>
      return (Node.empty, reader)
    | _ => node fuel true false reader
  | _ => throw .malformed

/-- Reads the root of the only document. -/
def root (fuel : Nat) (reader : Reader) : Except Fault (Node × Reader) := do
  let (node, reader) ← match reader.tokens with
    | [] => pure (Node.empty, reader)
    | .version _ _ :: _ | .tagHandle _ _ :: _ | .documentStart :: _ => reader.markedRoot fuel
    | _ => reader.bareRoot fuel
  if (reader.tokens.dropWhile (· == .documentEnd)).isEmpty then return (node, reader)
  else throw .moreThanOneDocument

end Reader

/-- A document with the nodes that its anchors name. -/
structure Document where
  root : Node
  anchored : List Anchored

/-- The document that tokens describe. No token at all describes an empty one. -/
def Node.ofTokens (tokens : List Token) : Except Fault Document :=
  (Reader.root (4 * tokens.length + 4) { tokens }).map fun (root, reader) =>
    ⟨root, reader.anchored⟩

end ControlLink.Yaml
