import ImportAtlas.Path.Basic
import ImportAtlas.Sorted.Map

/-!
# File trees

A file system as a finite map from places to what is there. A place is the list of names that
leads to it from the root directory through directories alone, so the order of places is that of
their paths, name by name.

## Main definitions

* `ImportAtlas.FileTree`: the map and the working directory.
* `ImportAtlas.FileError`: why an access fails, with the wording of the system.
* `ImportAtlas.FileTree.locate`: the place that a path leads to, links followed.

## Design

Links are the only loops that a path can take, and a path may follow forty of them. The number of
links left and the number of steps left decrease together in lexicographic order.
-/

namespace ImportAtlas

/-- Why an access to a file fails. -/
inductive FileError where
  /-- There is no such entry. -/
  | notFound
  /-- The entry may not be used in this way. -/
  | permissionDenied
  /-- A step leads through an entry that is no directory. -/
  | notDirectory
  /-- The entry is a directory where a file is needed. -/
  | isDirectory
  /-- The path or one of its names is too long. -/
  | nameTooLong
  /-- The path follows too many links. -/
  | tooManyLinks
  /-- The path holds a character that no path may hold. -/
  | nulInPath
  /-- The file is read as text and is not UTF-8. -/
  | notText
  deriving Repr, DecidableEq

/-- The wording of a file error. -/
def FileError.message : FileError → String
  | .notFound => "No such file or directory (os error 2)"
  | .permissionDenied => "Permission denied (os error 13)"
  | .notDirectory => "Not a directory (os error 20)"
  | .isDirectory => "Is a directory (os error 21)"
  | .nameTooLong => "File name too long (os error 36)"
  | .tooManyLinks => "Too many levels of symbolic links (os error 40)"
  | .nulInPath => "file name contained an unexpected NUL byte"
  | .notText => "stream did not contain valid UTF-8"

/-- A place in a file tree: the names that lead to it from the root directory. -/
abbrev Place := List String

/-- What is at a place. -/
inductive FileNode where
  /-- A directory. Its entries are the places one name longer. -/
  | directory
  /-- A regular file with its content. -/
  | file (content : List UInt8)
  /-- A symbolic link with its target. -/
  | link (target : Path)
  deriving Repr, DecidableEq

/-- A file system with a working directory. -/
structure FileTree where
  /-- What is at each place. The root directory needs no entry. -/
  nodes : SortedMap Place FileNode
  /-- The directory where relative paths start. -/
  home : Place

/-- The end of a path. -/
inductive Landing where
  /-- The path leads to an entry. -/
  | found (place : Place) (node : FileNode)
  /-- Only the last name is missing from its directory. -/
  | vacant (place : Place)
  deriving Repr, DecidableEq

namespace FileTree

/-- What is at a place. The root is a directory always. -/
def node? (t : FileTree) (place : Place) : Option FileNode :=
  if place = [] then some .directory else t.nodes.find? place

/-- The longest path that the system takes, in bytes, and the longest name. -/
def maxPathBytes : Nat := 4095

/-- The longest name that the system takes, in bytes. -/
def maxNameBytes : Nat := 255

/-- How many links a path may follow. -/
def maxLinks : Nat := 40

/-- Whether a path starts at the root directory. -/
def isAbsolute (path : Path) : Bool := path.toList.head? == some '/'

/-- Whether a path ends in a slash. -/
def endsInSlash (path : Path) : Bool := path.toList.getLast? == some '/'

/-- The names along a path. A slash at the end asks for a directory, as a dot would. -/
def steps (path : Path) : List String :=
  ((Path.segments path.toList).filter (· ≠ [])).map String.ofList ++
    if endsInSlash path then ["."] else []

/-- Take the pending steps from a place, with a number of links left to follow. The last link is
followed only if `followLast` says so. -/
def walk (t : FileTree) (followLast : Bool) (links : Nat) (pending : List String) (place : Place) :
    Except FileError Landing :=
  match t.node? place, pending with
  | none, _ => .error .notFound
  | some node, [] => .ok (.found place node)
  | some .directory, step :: rest =>
    if step = "." then walk t followLast links rest place
    else if step = ".." then walk t followLast links rest place.dropLast
    else if maxNameBytes < step.utf8ByteSize then .error .nameTooLong
    else
      let next := place ++ [step]
      match t.node? next with
      | none => if rest = [] then .ok (.vacant next) else .error .notFound
      | some (.link target) =>
        if rest = [] ∧ followLast = false then .ok (.found next (.link target))
        else
          match links with
          | 0 => .error .tooManyLinks
          | left + 1 =>
            walk t followLast left (steps target ++ rest) (if isAbsolute target then [] else place)
      | some _ => walk t followLast links rest next
  | some _, _ :: _ => .error .notDirectory
termination_by (links, pending.length)

/-- Where the walk along a path starts. -/
def origin (t : FileTree) (path : Path) : Place := if isAbsolute path then [] else t.home

/-- Why the system does not even look at a path. -/
def refusal? (path : Path) : Option FileError :=
  if path.toList.contains '\x00' then some .nulInPath
  else if path = "" then some .notFound
  else if maxPathBytes < path.utf8ByteSize then some .nameTooLong
  else none

/-- The place that a path leads to. The last link is followed only if `followLast` says so. -/
def locate (t : FileTree) (followLast : Bool) (path : Path) : Except FileError Landing :=
  match refusal? path with
  | some e => .error e
  | none => t.walk followLast maxLinks (steps path) (t.origin path)

/-- The entry that a path leads to, links followed, with its place. -/
def entry (t : FileTree) (path : Path) : Except FileError (Place × FileNode) :=
  match t.locate true path with
  | .ok (.found place node) => .ok (place, node)
  | .ok (.vacant _) => .error .notFound
  | .error e => .error e

/-- Whether a path leads to an entry. -/
def exists? (t : FileTree) (path : Path) : Bool := (t.entry path).isOk

/-- Whether a path leads to a directory. -/
def isDirectory (t : FileTree) (path : Path) : Bool :=
  match t.entry path with
  | .ok (_, .directory) => true
  | _ => false

/-- Whether a path leads to a regular file. -/
def isFile (t : FileTree) (path : Path) : Bool :=
  match t.entry path with
  | .ok (_, .file _) => true
  | _ => false

end FileTree

end ImportAtlas
