/-
# ControlLink.Files — a directory of files

The files of a working directory by their names. A path leads to such a file, to the directory
itself, or nowhere, since the directory holds no others.
-/
import ControlLink.Failure

namespace ControlLink

set_option autoImplicit false

/-- The files of a directory. -/
structure Files where
  entries : List (String × Bytes) := []
deriving DecidableEq

namespace Files

/-- The longest path, and the longest part of one, in bytes. -/
def pathLimit : Nat := 4095

def nameLimit : Nat := 255

def find? (files : Files) (name : String) : Option Bytes := files.entries.lookup name

/-- Where a path leads. -/
inductive Place where
  | directory
  /-- A name in the directory; `slash` says that the path ends in a slash. -/
  | entry (name : String) (slash : Bool)
deriving DecidableEq

/-- Follows the parts of a path from the working directory. -/
def follow (files : Files) (slash : Bool) (parts : List String) : Except FileFault Place :=
  match parts.dropWhile (· == ".") with
  | [] => .ok .directory
  | ".." :: rest =>
    if rest.all fun part => part == "." || part == ".." then .ok .directory else .error .notFound
  | name :: rest =>
    if nameLimit < name.utf8ByteSize then .error .nameTooLong
    else if rest.isEmpty then .ok (.entry name slash)
    else if (files.find? name).isSome then .error .notDirectory
    else .error .notFound

def place (files : Files) (path : String) : Except FileFault Place :=
  let text := path.toList
  let parts := ((Text.fields '/' text).filter (!·.isEmpty)).map String.ofList
  if text.contains '\x00' then .error .nulInName
  else if pathLimit < path.utf8ByteSize then .error .nameTooLong
  else if text.isEmpty then .error .notFound
  else if text.head? == some '/' then
    if parts.all fun part => part == "." || part == ".." then .ok .directory
    else .error .notFound
  else files.follow (text.getLast? == some '/') parts

/-- The bytes of a file. -/
def read (files : Files) (path : String) : Except FileFault Bytes :=
  match files.place path with
  | .error fault => .error fault
  | .ok .directory => .error .isDirectory
  | .ok (.entry name slash) =>
    match files.find? name with
    | some content => if slash then .error .notDirectory else .ok content
    | none => .error .notFound

/-- Creates a file, or replaces what it holds. -/
def write (files : Files) (path : String) (content : Bytes) : Except FileFault Files :=
  match files.place path with
  | .error fault => .error fault
  | .ok .directory => .error .isDirectory
  | .ok (.entry name slash) =>
    if slash then .error .isDirectory
    else .ok ⟨(name, content) :: files.entries.filter (·.1 != name)⟩

end Files

end ControlLink
