import ImportAtlas.Complaint
import ImportAtlas.FileTree.Access
import ImportAtlas.Graph.Document

/-!
# Graph files

Module graphs in the files of a tree.

## Main definitions

* `ImportAtlas.GraphFileError`: why a graph cannot be loaded or saved.
* `ImportAtlas.ModuleGraph.load`, `ImportAtlas.ModuleGraph.save`: loading and saving.
-/

namespace ImportAtlas

/-- Why a graph cannot be loaded or saved. -/
inductive GraphFileError where
  /-- The file cannot be read or written. -/
  | file (cause : FileError)
  /-- The text of the file is not the document of a graph. -/
  | document (cause : Json.DecodeError)
  deriving Repr, DecidableEq

/-- What the user is told. -/
def GraphFileError.complaint : GraphFileError → Complaint
  | .file cause => ⟨"IO error: " ++ cause.message, none⟩
  | .document cause => ⟨"Serialization error: ", some cause.message⟩

namespace ModuleGraph

/-- The graph in a file. -/
def load (t : FileTree) (path : Path) : Except GraphFileError ModuleGraph :=
  match t.readText path with
  | .error e => .error (.file e)
  | .ok text => (ModuleGraph.parse text).mapError .document

/-- The tree in which a file holds the document of a graph. -/
def save (g : ModuleGraph) (t : FileTree) (path : Path) : Except GraphFileError FileTree :=
  (t.writeText path g.render).mapError .file

end ModuleGraph

end ImportAtlas
