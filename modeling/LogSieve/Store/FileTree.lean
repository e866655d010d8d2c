import LogSieve.Association
import LogSieve.Gzip.Member
import LogSieve.Store.Path

/-!
# File trees

A file tree maps places to files and directories.  A place is the list of names
from the root.  A path is followed name by name: every name but the last must be
that of a directory, and two dots lead back.
-/

namespace LogSieve.Store

open Encoding (Bytes)

/-- What stands at a place. -/
inductive Entry where
  | file (bytes : Bytes)
  | directory
  deriving DecidableEq

/-- The files and directories, by place; the root is always a directory. -/
structure FileTree where
  entries : Association (List Text) Entry

/-- What a path leads to. -/
inductive Found where
  | entry (entry : Entry)
  | nothing
  /-- A name, or the path as a whole, is longer than it can be. -/
  | nameTooLong
  deriving DecidableEq

/-- The greatest number of bytes of a name. -/
def nameLimit : Nat := 255

/-- The greatest number of bytes of a path. -/
def pathLimit : Nat := 4095

/-- The number of bytes of a name or a path. -/
def nameSize (name : Text) : Nat := (name.flatMap Encoding.utf8Bytes).length

namespace FileTree

/-- What stands at a place. -/
def at? (tree : FileTree) (place : List Text) : Option Entry :=
  if place.isEmpty then some .directory else Association.get? place tree.entries

/-- What names lead to from a place. -/
def follow (tree : FileTree) (place : List Text) : List Text → Found
  | [] =>
    match tree.at? place with
    | some entry => .entry entry
    | none => .nothing
  | name :: rest =>
    if tree.at? place ≠ some .directory then .nothing
    else if name = Path.up then tree.follow place.dropLast rest
    else if nameSize name > nameLimit then .nameTooLong
    else tree.follow (place ++ [name]) rest

/-- What a path leads to, from a directory if it is relative.  No name holds a zero character. -/
def find (tree : FileTree) (directory : List Text) (path : Path) : Found :=
  if path.holdsZero then .nothing
  else if nameSize path.text > pathLimit then .nameTooLong
  else tree.follow (if path.isAbsolute then [] else directory) path.names

/-- Makes a place and all places above it directories, unless something stands there. -/
def makeDirectories (place : List Text) (tree : FileTree) : FileTree :=
  (List.range place.length).foldl (fun tree i =>
    let part := place.take (i + 1)
    if (tree.at? part).isSome then tree
    else ⟨Association.put part .directory tree.entries⟩) tree

/-- Writes a file, after making its directories. -/
def write (place : List Text) (bytes : Bytes) (tree : FileTree) : FileTree :=
  ⟨Association.put place (.file bytes) (tree.makeDirectories place.dropLast).entries⟩

/-- Adds bytes at the end of a file, which is made if it is missing. -/
def append (place : List Text) (bytes : Bytes) (tree : FileTree) : FileTree :=
  match tree.at? place with
  | some (.file old) => tree.write place (old ++ bytes)
  | _ => tree.write place bytes

/-- The tree with a file that a path leads to, and with the directories on the way. -/
def withFile (directory : List Text) (path : Path) (bytes : Bytes) : FileTree :=
  let start := if path.isAbsolute then [] else directory
  let place (count : Nat) : List Text := Path.collapse (start ++ path.names.take count)
  let directories := (List.range path.names.length).foldl (fun tree count =>
    makeDirectories (place count) tree) ⟨[]⟩
  write (place path.names.length) bytes directories

/-- Removes what stands at a place. -/
def remove (place : List Text) (tree : FileTree) : FileTree :=
  ⟨tree.entries.filter fun entry => entry.1 ≠ place⟩

end FileTree

/-- The contents of a file; the name tells whether it is compressed. -/
def Contents.ofFile (name : Text) (bytes : Bytes) : Contents :=
  if Path.isCompressed name then Gzip.contents bytes else .ofBytes bytes

end LogSieve.Store
