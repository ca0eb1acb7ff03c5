import ImportAtlas.Ignore.Rules

/-!
# Discovery of source files

The Swift files below a root directory, in the order of their paths. No link is followed but the
root itself. Unless asked not to, the walk leaves out what ignore files and hidden names leave out,
with everything below.

## Main definitions

* `ImportAtlas.Discovery.Level`: the rules of the ignore files in one directory.
* `ImportAtlas.Discovery.Scope`: all rules that bear on the entries below a root.
* `ImportAtlas.Discovery.Scope.skips`: whether an entry is left out by itself.
* `ImportAtlas.discover`: the files, and how often the walk failed.

## Design

An entry is found if neither it nor a directory above it is left out and each directory above it
can be opened. So the files are those entries of the tree that pass a test, in the tree's own order.

The rules of `.ignore` files go before those of `.gitignore` files, at whatever level, and in either
kind those of the nearest directory go first. Only where no rule speaks does a dot at the start of
a name hide it.
-/

namespace ImportAtlas

namespace Discovery

open Ignore

/-! ### Rules -/

/-- The rules of the two ignore files in a directory. -/
structure Level where
  /-- The rules of the file `.ignore`. -/
  own : RuleFile
  /-- The rules of the file `.gitignore`. -/
  git : RuleFile
  /-- Whether a line of either is malformed. -/
  faulty : Bool

/-- The rules of an ignore file in a directory. A file that cannot be read has none. -/
def readRules (t : FileTree) (directory : Path) (name : String) : RuleFile × Bool :=
  match t.read (Path.join directory name) with
  | .ok content => RuleFile.parse directory.toList content
  | .error _ => (.empty directory.toList, false)

/-- The rules of the ignore files in a directory. -/
def readLevel (t : FileTree) (directory : Path) : Level :=
  let (own, ownFaulty) := readRules t directory ".ignore"
  let (git, gitFaulty) := readRules t directory ".gitignore"
  ⟨own, git, ownFaulty || gitFaulty⟩

/-- All rules that bear on the entries below a root. -/
structure Scope where
  /-- The root as it was given. -/
  root : Path
  /-- The rules in the root and in the directories below it, by their names from the root on. -/
  inner : SortedMap Place Level
  /-- The rules in the directories above the root, the nearest first. -/
  outer : List Level
  /-- The root from the root directory on, without links. -/
  base : Path

/-- The path of an entry by its names from the root on. -/
def pathOf (root : Path) (names : Place) : Path := names.foldl Path.join root

/-- The path of a place from the root directory on. -/
def absolutePath (place : Place) : Path := "/" ++ "/".intercalate place

/-- The path of an entry for the rules above the root. -/
def Scope.outerPath (s : Scope) (path : List Char) : List Char :=
  let below :=
    if Path.same s.root "." then path
    else dropStart ['/'] (dropStart (dropDotSlash s.root.toList) path)
  (Path.join s.base (String.ofList below)).toList

/-- What the rules of one kind say about an entry. -/
def Scope.verdictOf? (s : Scope) (kind : Level → RuleFile) (names : Place) (isDirectory : Bool) :
    Option Verdict :=
  let path := dropDotSlash (pathOf s.root names).toList
  let levels := (List.range names.length).reverse.filterMap fun n => s.inner.find? (names.take n)
  (levels.findSome? fun l => (kind l).verdict? path isDirectory).or
    (s.outer.findSome? fun l => (kind l).verdict? (s.outerPath path) isDirectory)

/-- What the rules say about an entry. -/
def Scope.verdict? (s : Scope) (names : Place) (isDirectory : Bool) : Option Verdict :=
  (s.verdictOf? Level.own names isDirectory).or (s.verdictOf? Level.git names isDirectory)

/-- Whether a name is hidden: it starts with a dot. -/
def isHidden (name : String) : Bool := name.toList.head? == some '.'

/-- Whether an entry is left out by itself. -/
def Scope.skips (s : Scope) (names : Place) (isDirectory : Bool) : Bool :=
  match s.verdict? names isDirectory with
  | some .ignored => true
  | some .kept => false
  | none => names.getLast?.any isHidden

/-! ### The walk -/

/-- The entries below a place, with their names from there on, in the order of their paths. -/
def entriesBelow (t : FileTree) (place : Place) : List (Place × FileNode) :=
  t.nodes.entries.filterMap fun (p, node) =>
    match Path.dropPrefix? p place with
    | some (name :: names) => some (name :: names, node)
    | _ => none

/-- Whether a node is a directory. -/
def isDirectoryNode : FileNode → Bool
  | .directory => true
  | _ => false

/-- Whether a node is a regular file. -/
def isFileNode : FileNode → Bool
  | .file _ => true
  | _ => false

/-- The rules that bear on the entries below a place, which the path `root` leads to. -/
def scopeOf (t : FileTree) (root : Path) (place : Place) : Scope where
  root := root
  inner := .ofList (([], readLevel t root) ::
    ((entriesBelow t place).filter fun e => isDirectoryNode e.2).map fun e =>
      (e.1, readLevel t (pathOf root e.1)))
  outer := (List.range place.length).reverse.map fun n => readLevel t (absolutePath (place.take n))
  base := absolutePath place

/-- Whether the directory of these names from the root on can be opened: its path is not too
long. -/
def canOpen (root : Path) (names : Place) : Bool :=
  (pathOf root names).utf8ByteSize ≤ FileTree.maxPathBytes

/-- Whether the walk comes to an entry: every directory above it can be opened, and no step to it is
left out. Without a scope nothing is left out. -/
def reaches (root : Path) (scope : Option Scope) (names : Place) (isDirectory : Bool) : Bool :=
  (List.range names.length).all fun n =>
    canOpen root (names.take n) &&
      match scope with
      | some s => !s.skips (names.take (n + 1)) (n + 1 != names.length || isDirectory)
      | none => true

/-- The extension of source files. -/
def sourceExtension : String := "swift"

/-- Whether a path names a source file. -/
def isSource (path : Path) : Bool := path.extension? == some sourceExtension

end Discovery

/-- What a walk finds. -/
structure Discovery where
  /-- The source files, in the order of their paths. -/
  files : List Path
  /-- How often the walk failed: directories that could not be opened, and malformed rules above the
  root. -/
  failures : Nat

open Discovery in
/-- The source files below a root that is a directory at a place. -/
def discoverBelow (t : FileTree) (root : Path) (place : Place) (noIgnore : Bool) : Discovery :=
  let scope := if noIgnore then none else some (scopeOf t root place)
  let reached := (entriesBelow t place).filter fun e => reaches root scope e.1 (isDirectoryNode e.2)
  let files := (reached.filter fun e => isFileNode e.2).map fun e => pathOf root e.1
  let closed := reached.filter fun e => isDirectoryNode e.2 && !canOpen root e.1
  let faulty := scope.any fun s => s.outer.any Level.faulty
  ⟨files.filter isSource,
    closed.length + (if canOpen root [] then 0 else 1) + (if faulty then 1 else 0)⟩

open Discovery in
/-- The source files below a root. A root that is a file is taken by itself, and a lone hyphen
stands for no root. -/
def discover (t : FileTree) (root : Path) (noIgnore : Bool) : Discovery :=
  if Path.same root "-" then ⟨[], 0⟩
  else
    match t.entry root with
    | .ok (place, .directory) => discoverBelow t root place noIgnore
    | .ok (_, .file _) => ⟨if isSource root then [root] else [], 0⟩
    | _ => ⟨[], 1⟩

end ImportAtlas
