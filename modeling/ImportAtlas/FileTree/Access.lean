import ImportAtlas.FileTree.Basic
import ImportAtlas.Text.Utf8

/-!
# Access to files

Reading and writing files of a tree by their paths, and putting a tree together.

## Main definitions

* `ImportAtlas.FileTree.read`, `ImportAtlas.FileTree.readText`: the content of a file.
* `ImportAtlas.FileTree.write`: the tree in which a file has a given content.
* `ImportAtlas.FileTree.makeDirectories`, `ImportAtlas.FileTree.addLink`: the tree with further
  directories or a further link.
-/

namespace ImportAtlas.FileTree

/-- The tree with `node` at a place. -/
def put (t : FileTree) (place : Place) (node : FileNode) : FileTree :=
  { t with nodes := t.nodes.insert place node }

/-- The tree with nothing but the working directory and the directories above it. -/
def bare (home : Place) : FileTree :=
  (List.range home.length).foldl (fun t n => t.put (home.take (n + 1)) .directory) ⟨∅, home⟩

/-! ### Reading -/

/-- The content of the file that a path leads to. -/
def read (t : FileTree) (path : Path) : Except FileError (List UInt8) :=
  match t.entry path with
  | .ok (_, .file content) => .ok content
  | .ok (_, .directory) => .error .isDirectory
  | .ok (_, .link _) => .error .tooManyLinks
  | .error e => .error e

/-- The text of the file that a path leads to. -/
def readText (t : FileTree) (path : Path) : Except FileError String :=
  match t.read path with
  | .ok content =>
    match Utf8.decode? content with
    | some text => .ok (String.ofList text)
    | none => .error .notText
  | .error e => .error e

/-! ### Writing -/

/-- A path without its last step, for a path that ends in a slash. -/
def stepsToParent (path : Path) : List String :=
  ((Path.segments path.toList).filter (· ≠ [])).dropLast.map String.ofList

/-- The tree in which the path leads to a file of the given content. The file is created if only
its name is missing; a path that ends in a slash never names a file. -/
def write (t : FileTree) (path : Path) (content : List UInt8) : Except FileError FileTree :=
  if (refusal? path).isNone ∧ endsInSlash path then
    match t.walk true maxLinks (stepsToParent path ++ ["."]) (t.origin path) with
    | .ok (.found ..) => .error .isDirectory
    | .ok (.vacant _) => .error .notFound
    | .error e => .error e
  else
    match t.locate true path with
    | .ok (.found place (.file _)) => .ok (t.put place (.file content))
    | .ok (.found _ .directory) => .error .isDirectory
    | .ok (.found _ (.link _)) => .error .tooManyLinks
    | .ok (.vacant place) => .ok (t.put place (.file content))
    | .error e => .error e

/-- The tree in which the path leads to a file of the given text. -/
def writeText (t : FileTree) (path : Path) (text : String) : Except FileError FileTree :=
  t.write path (Utf8.encode text.toList)

/-! ### Putting a tree together -/

/-- The tree with a directory at each of the places that a list of steps leads through. -/
def makeSteps (t : FileTree) (origin : Place) :
    List String → List String → Except FileError FileTree
  | _, [] => .ok t
  | done, step :: rest =>
    match t.walk true maxLinks (done ++ [step]) origin with
    | .ok (.vacant place) => makeSteps (t.put place .directory) origin (done ++ [step]) rest
    | .ok (.found _ .directory) => makeSteps t origin (done ++ [step]) rest
    | .ok (.found ..) => .error .notDirectory
    | .error e => .error e

/-- The tree with every directory that a path names. -/
def makeDirectories (t : FileTree) (path : Path) : Except FileError FileTree :=
  t.makeSteps (t.origin path) [] (steps path)

/-- The tree with the directories above a path. -/
def makeParents (t : FileTree) (path : Path) : Except FileError FileTree :=
  t.makeSteps (t.origin path) [] (stepsToParent path)

/-- The tree with a link at a path that was vacant. -/
def addLink (t : FileTree) (path target : Path) : Except FileError FileTree :=
  match t.locate false path with
  | .ok (.vacant place) => .ok (t.put place (.link target))
  | .ok (.found ..) => .error .permissionDenied
  | .error e => .error e

end ImportAtlas.FileTree
