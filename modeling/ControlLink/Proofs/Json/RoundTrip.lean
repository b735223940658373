/-
# ControlLink.Proofs.Json.RoundTrip — a document is read back from the texts it is written as

Compact text has no gaps between its tokens (`spaced_compact`), pretty text a line break and its
indentation in front of each item, each member and each closing bracket, and a blank behind each
colon (`spaced_prettyAt`). So both are read back as the document up to `depthLimit` levels of
nesting, and refused as too deep beyond it (`parse_compact`, `parse_pretty`). This needs the keys in
order, and no binary64 among the numbers (`Exact`), since reading one rounds.
-/
import ControlLink.Proofs.Json.Spacing

namespace ControlLink.Json

set_option autoImplicit false

open Text.Utf8

mutual

/-- Every number is an integer. -/
def Exact : Json → Prop
  | number (.real _ _) => False
  | array items => ExactItems items
  | object members => ExactMembers members
  | _ => True

def ExactItems : List Json → Prop
  | [] => True
  | item :: rest => Exact item ∧ ExactItems rest

def ExactMembers : List (String × Json) → Prop
  | [] => True
  | (_, value) :: rest => Exact value ∧ ExactMembers rest

end

/-! ## Compact text -/

namespace Gap

def none : Gap := ⟨[], fun _ member => absurd member List.not_mem_nil⟩

def space : Gap := ⟨[' '], fun _ member => .inl (List.mem_singleton.1 member)⟩

/-- A line break and the indentation of a level. -/
def line (level : Nat) : Gap where
  text := newline level
  blank c member := by
    obtain rfl | indented := List.mem_cons.1 member
    · exact .inr (.inr (.inl rfl))
    · exact .inl (List.eq_of_mem_replicate indented)

end Gap

mutual

theorem spaced_compact {document : Json} (exact : document.Exact) :
    Spaced document document.compact := by
  cases document with
  | null => exact .null
  | bool value => exact .bool value
  | number value =>
      cases value with
      | integer n fits => exact .integer n fits
      | real x finite => exact exact.elim
  | string value => exact .string value
  | array items =>
      cases items with
      | nil => exact .emptyArray .none
      | cons item rest =>
          exact .array .none (spaced_compact exact.1) (spaced_compactItems exact.2)
  | object members =>
      cases members with
      | nil => exact .emptyObject .none
      | cons member rest =>
          obtain ⟨key, value⟩ := member
          exact .object .none .none .none key (spaced_compact exact.1)
            (spaced_compactMembers exact.2)

theorem spaced_compactItems {items : List Json} (exact : ExactItems items) :
    SpacedItems items (compactItems items) := by
  cases items with
  | nil => exact .nil .none
  | cons item rest =>
      exact .cons .none .none (spaced_compact exact.1) (spaced_compactItems exact.2)

theorem spaced_compactMembers {members : List (String × Json)} (exact : ExactMembers members) :
    SpacedMembers members (compactMembers members) := by
  cases members with
  | nil => exact .nil .none
  | cons member rest =>
      obtain ⟨key, value⟩ := member
      exact .cons .none .none .none .none key (spaced_compact exact.1)
        (spaced_compactMembers exact.2)

end

/-- **A document is read back from its compact text up to the nesting limit**, and refused as too
deep beyond it. -/
theorem parse_compact {document : Json} (ordered : document.Ordered) (exact : document.Exact) :
    parse (encode document.compact) =
      if document.depth ≤ depthLimit then .ok document else .error .tooDeep := by
  have read := parse_spaced (spaced_compact exact) ordered .none .none
  simpa only [Gap.none, List.nil_append, List.append_nil] using read

/-! ## Pretty text -/

mutual

theorem spaced_prettyAt (level : Nat) {document : Json} (exact : document.Exact) :
    Spaced document (document.prettyAt level) := by
  cases document with
  | null => exact .null
  | bool value => exact .bool value
  | number value =>
      cases value with
      | integer n fits => exact .integer n fits
      | real x finite => exact exact.elim
  | string value => exact .string value
  | array items =>
      cases items with
      | nil => exact .emptyArray .none
      | cons item rest =>
          exact .array (.line (level + 1)) (spaced_prettyAt (level + 1) exact.1)
            (spaced_prettyItems level exact.2)
  | object members =>
      cases members with
      | nil => exact .emptyObject .none
      | cons member rest =>
          obtain ⟨key, value⟩ := member
          exact .object (.line (level + 1)) .none .space key (spaced_prettyAt (level + 1) exact.1)
            (spaced_prettyMembers level exact.2)

theorem spaced_prettyItems (level : Nat) {items : List Json} (exact : ExactItems items) :
    SpacedItems items (prettyItems level items) := by
  cases items with
  | nil => exact .nil (.line level)
  | cons item rest =>
      exact .cons .none (.line (level + 1)) (spaced_prettyAt (level + 1) exact.1)
        (spaced_prettyItems level exact.2)

theorem spaced_prettyMembers (level : Nat) {members : List (String × Json)}
    (exact : ExactMembers members) : SpacedMembers members (prettyMembers level members) := by
  cases members with
  | nil => exact .nil (.line level)
  | cons member rest =>
      obtain ⟨key, value⟩ := member
      exact .cons .none (.line (level + 1)) .none .space key
        (spaced_prettyAt (level + 1) exact.1) (spaced_prettyMembers level exact.2)

end

/-- **A document is read back from its pretty text and the line break behind it up to the nesting
limit**, and refused as too deep beyond it. -/
theorem parse_pretty {document : Json} (ordered : document.Ordered) (exact : document.Exact) :
    parse (encode (document.pretty ++ ['\n'])) =
      if document.depth ≤ depthLimit then .ok document else .error .tooDeep :=
  parse_spaced (spaced_prettyAt 0 exact) ordered .none (.line 0)

end ControlLink.Json
