import ImportAtlas.Path.Basic
import ImportAtlas.Rules.Basic
import ImportAtlas.Sorted.Map

/-!
# Modules of files

The module that a file belongs to, by its path below the root: the name that the first module
pattern gives, and without one the first name of the path.

## Main definitions

* `ImportAtlas.resolveModule`: the module of a path.
* `ImportAtlas.ModuleRegistry`: how many files each module has.
-/

namespace ImportAtlas

/-- The first name of a path between slashes; the path itself if it has none. -/
def firstSegment (path : String) : String :=
  match (Path.segments path.toList).find? (· ≠ []) with
  | some segment => String.ofList segment
  | none => path

/-- The module of a path. -/
def resolveModule (rules : List ModuleRule) (path : String) : String :=
  (rules.findSome? fun rule => rule.capture? path).getD (firstSegment path)

/-- How many files each module has. -/
abbrev ModuleRegistry := SortedMap String Nat

/-- The registry of some paths. -/
def ModuleRegistry.collect (rules : List ModuleRule) (paths : List String) : ModuleRegistry :=
  paths.foldl (fun m path => m.adjust (resolveModule rules path) fun n => n.getD 0 + 1) ∅

end ImportAtlas
