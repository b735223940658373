/-
# ControlLink.Json.Value — JSON documents

A document is a tree of values. The members of an object are kept in increasing order of their keys
(`Json.insert` puts a member in its place and replaces one of the same key), so two documents with
the same members are the same tree; `Json.Ordered` says that of every object inside a document.
An integer of 64 bits is exact, any other number is a finite binary64.
-/
import ControlLink.Decimal.Shortest

namespace ControlLink

set_option autoImplicit false

open Decimal

namespace Json

/-- The integers that are kept exactly. -/
def Fits (n : Int) : Prop := -0x8000000000000000 ≤ n ∧ n < 0x10000000000000000

instance (n : Int) : Decidable (Fits n) := inferInstanceAs (Decidable (_ ∧ _))

inductive Number where
  | integer (value : Int) (fits : Fits value)
  | real (value : Binary64) (finite : value.isFinite = true)
deriving DecidableEq

namespace Number

def ofInt? (n : Int) : Option Number :=
  if fits : Fits n then some (integer n fits) else none

def ofReal? (x : Binary64) : Option Number :=
  if finite : x.isFinite = true then some (real x finite) else none

/-- A value of 16 bits as a number. -/
def ofUInt16 (n : UInt16) : Number :=
  integer n.toNat (by have := n.toNat_lt; simp only [Fits]; omega)

/-- A byte as a number. -/
def ofUInt8 (n : UInt8) : Number :=
  integer n.toNat (by have := n.toNat_lt; simp only [Fits]; omega)

end Number

/-- The digits of an integer behind its sign. -/
def integerText (n : Int) : List Char :=
  if n < 0 then '-' :: digits n.natAbs else digits n.natAbs

end Json

inductive Json where
  | null
  | bool (value : Bool)
  | number (value : Json.Number)
  | string (value : String)
  | array (items : List Json)
  | object (members : List (String × Json))

namespace Json

/-- Puts a member in its place among members in order; a member of the same key is replaced. -/
def insert (key : String) (value : Json) : List (String × Json) → List (String × Json)
  | [] => [(key, value)]
  | (k, v) :: rest =>
    if key < k then (key, value) :: (k, v) :: rest
    else if k = key then (key, value) :: rest
    else (k, v) :: insert key value rest

/-- Members in order, later ones replacing earlier ones of the same key. -/
def membersOf (members : List (String × Json)) : List (String × Json) :=
  members.foldl (fun done (key, value) => insert key value done) []

/-- The value of a key among the members of an object. -/
def find? (key : String) (members : List (String × Json)) : Option Json :=
  members.lookup key

/-- The value under a key, of an object. -/
def get? (document : Json) (key : String) : Option Json :=
  match document with
  | object members => find? key members
  | _ => none

def isNull : Json → Bool
  | null => true
  | _ => false

mutual

/-- Every object has its keys in increasing order. -/
def Ordered : Json → Prop
  | array items => OrderedItems items
  | object members => members.Pairwise (·.1 < ·.1) ∧ OrderedMembers members
  | _ => True

def OrderedItems : List Json → Prop
  | [] => True
  | item :: rest => Ordered item ∧ OrderedItems rest

def OrderedMembers : List (String × Json) → Prop
  | [] => True
  | (_, value) :: rest => Ordered value ∧ OrderedMembers rest

end

mutual

/-- How many arrays and objects are nested in each other at most. -/
def depth : Json → Nat
  | array items => depthItems items + 1
  | object members => depthMembers members + 1
  | _ => 0

def depthItems : List Json → Nat
  | [] => 0
  | item :: rest => max (depth item) (depthItems rest)

def depthMembers : List (String × Json) → Nat
  | [] => 0
  | (_, value) :: rest => max (depth value) (depthMembers rest)

end

end Json

end ControlLink
