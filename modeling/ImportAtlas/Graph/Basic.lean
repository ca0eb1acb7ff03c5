import ImportAtlas.Module.Kind
import ImportAtlas.Sorted.Map
import ImportAtlas.Sorted.Set

/-!
# Module graphs

The result of a scan: which module imports which, and how often each module is imported. All
listings are sorted, so equal graphs read alike.

## Main definitions

* `ImportAtlas.Edge`: an import of one module by another, ordered by importer and then by import.
* `ImportAtlas.ModuleInfo`: the kind of an imported module and how often it is imported.
* `ImportAtlas.ModuleGraph`: importers, imported modules and edges.
* `ImportAtlas.ModuleGraph.dependencies`, `ImportAtlas.ModuleGraph.dependents`: the neighbours of
  a module.
* `ImportAtlas.ModuleGraph.ranking`: the most imported modules.

## Design

A graph that was read from a document need not be consistent: importers, imported modules and
edges are three independent parts. Those that a scan builds agree.
-/

namespace ImportAtlas

/-! ### Edges -/

/-- The import of `target` by `source`. -/
structure Edge where
  /-- The module that imports. -/
  source : String
  /-- The module that is imported. -/
  target : String
  deriving Repr, DecidableEq

namespace Edge

/-- Edges are ordered by source, those of one source by target. -/
instance : Ord Edge := ⟨fun a b => (compare a.source b.source).then (compare a.target b.target)⟩

theorem compare_def (a b : Edge) :
    compare a b = (compare a.source b.source).then (compare a.target b.target) := rfl

instance : Std.LawfulEqOrd Edge where
  compare_self := by simp [compare_def]
  eq_of_compare {a b} h := by
    obtain ⟨h1, h2⟩ := Ordering.then_eq_eq.1 (compare_def a b ▸ h)
    cases a; cases b
    simp_all

instance : Std.TransOrd Edge where
  eq_swap {a b} := by
    rw [compare_def, compare_def, Ordering.swap_then, ← Std.OrientedCmp.eq_swap,
      ← Std.OrientedCmp.eq_swap]
  isLE_trans {a b c} h1 h2 := by
    rw [compare_def, Ordering.isLE_then_iff_or] at *
    rcases h1 with h1 | ⟨h1, h1'⟩ <;> rcases h2 with h2 | ⟨h2, h2'⟩
    · exact .inl (Std.TransCmp.lt_trans h1 h2)
    · exact .inl (Std.LawfulEqCmp.eq_of_compare h2 ▸ h1)
    · exact .inl (Std.LawfulEqCmp.eq_of_compare h1 ▸ h2)
    · exact .inr ⟨Std.LawfulEqCmp.eq_of_compare h1 ▸ h2, Std.TransCmp.isLE_trans h1' h2'⟩

end Edge

/-! ### Graphs -/

/-- What a graph knows of an imported module. -/
structure ModuleInfo where
  /-- Where the module comes from. -/
  kind : ModuleKind
  /-- How many imports name the module, over all files. -/
  count : Nat
  deriving Repr, DecidableEq

/-- Importers, imported modules and the edges between them. -/
structure ModuleGraph where
  /-- The modules that are the source of an edge. -/
  sources : SortedSet String
  /-- The imported modules. -/
  targets : SortedMap String ModuleInfo
  /-- The imports, each once. -/
  edges : SortedSet Edge
  deriving DecidableEq

namespace ModuleGraph

/-- The graph without modules. -/
def empty : ModuleGraph := ⟨∅, ∅, ∅⟩

instance : Inhabited ModuleGraph := ⟨empty⟩

/-- The modules that a module imports, in ascending order. -/
def dependencies (g : ModuleGraph) (module : String) : List String :=
  (g.edges.toList.filter fun e => e.source == module).map (·.target)

/-- The modules that import a module, in ascending order. -/
def dependents (g : ModuleGraph) (module : String) : List String :=
  (g.edges.toList.filter fun e => e.target == module).map (·.source)

/-- The modules that occur as importer or as import. -/
def modules (g : ModuleGraph) : SortedSet String :=
  SortedSet.ofList (g.sources.toList ++ g.targets.keys)

/-- The `n` most imported modules, the most imported first. Among equals the order of the names
stays, because the sort is stable. -/
def ranking (g : ModuleGraph) (n : Nat) : List (String × ModuleInfo) :=
  (g.targets.entries.mergeSort fun a b => b.2.count ≤ a.2.count).take n

/-- How many imported modules are of a kind. -/
def countOfKind (g : ModuleGraph) (kind : ModuleKind) : Nat :=
  g.targets.values.countP fun info => info.kind == kind

end ModuleGraph

end ImportAtlas
