import Lexing.Text.Bytes
import Lexing.Text.Lines

set_option relaxedAutoImplicit false
set_option autoImplicit false

/-!
# File trees

The files below a working directory, and what comes of reading a path. A path is walked part by
part; every part but the last must lead to a directory. A path that is too long leads nowhere.

## Main definitions

* `Lexing.Command.ReadFailure` — why no text comes of a path.
* `Lexing.Command.decodeUtf8` — the text of some bytes.
* `Lexing.Command.FileTree` — files and directories by their place.
* `Lexing.Command.FileTree.read` — what comes of reading a path.
-/

namespace Lexing

namespace Command

/-- Why no text comes of a path. -/
inductive ReadFailure where
  /-- Nothing is there. -/
  | missing
  /-- What is there is no UTF-8 text. -/
  | notText
  /-- The system refuses to read it, in its own words. -/
  | system (reason : Text)
deriving DecidableEq, Repr

/-- A directory cannot be read. -/
def ReadFailure.isDirectory : ReadFailure :=
  .system "Is a directory (os error 21)".toList

/-- The text whose UTF-8 form some bytes are. -/
def decodeUtf8 (bytes : ByteArray) : Except ReadFailure Text :=
  match String.fromUTF8? bytes with
  | some text => .ok text.toList
  | none => .error .notText

/-- What stands at a place of a file tree. -/
inductive FileTree.Entry where
  | file (bytes : ByteArray)
  | directory

/-- Files and directories by their place below the working directory. A place is the list of
names that lead to it. -/
structure FileTree where
  entries : List (List Text × FileTree.Entry)

namespace FileTree

/-- Where a walk has come to: a place in the tree, or one of the directories above it. -/
inductive Place where
  | within (names : List Text)
  | above
deriving DecidableEq, Repr

/-- What stands at a place. The places on the way to an entry are directories. -/
def entryAt? (tree : FileTree) (names : List Text) : Option Entry :=
  match tree.entries.lookup names with
  | some entry => some entry
  | none =>
    if names.isEmpty || tree.entries.any fun entry => names.isPrefixOf entry.1 then
      some .directory
    else none

/-- Whether a part of a path stays where it is. -/
def isHere (part : Text) : Bool :=
  part.isEmpty || part == ['.']

/-- Whether a part of a path goes to the directory above. -/
def isUp (part : Text) : Bool :=
  part == ['.', '.']

/-- Walks one part of a path. Of the directories above the tree nothing else is known. -/
def walk (tree : FileTree) (place : Place) (part : Text) : Option Place :=
  match place with
  | .above => if isHere part || isUp part then some .above else none
  | .within names =>
    match tree.entryAt? names with
    | some .directory =>
      if isHere part then some place
      else if isUp part then some (if names.isEmpty then .above else .within names.dropLast)
      else
        let child := names ++ [part]
        if (tree.entryAt? child).isSome then some (.within child) else none
    | _ => none

/-- The number of bytes in the longest path that can be walked. -/
def longestPath : Nat := 4095

/-- What stands at a path. The empty path and a path that is too long lead nowhere; a slash in
front leads to the top of all directories. -/
def find? (tree : FileTree) (path : Text) : Option Entry := do
  let first ← path.head?
  guard (Text.byteLength path ≤ longestPath)
  let parts := Text.split (· == '/') path
  match ← parts.foldlM tree.walk (if first == '/' then .above else .within []) with
  | .above => some .directory
  | .within names => tree.entryAt? names

/-- What comes of reading a path. -/
def read (tree : FileTree) (path : Text) : Except ReadFailure Text :=
  match tree.find? path with
  | none => .error .missing
  | some .directory => .error .isDirectory
  | some (.file bytes) => decodeUtf8 bytes

end FileTree

end Command

end Lexing
