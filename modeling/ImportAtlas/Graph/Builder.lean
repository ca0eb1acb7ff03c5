import ImportAtlas.Graph.Basic
import ImportAtlas.Text.Numeral

/-!
# Building a graph

A builder collects edges and counts. It only grows, and two builders can be merged.

## Main definitions

* `ImportAtlas.GraphBuilder.recordEdge`: note an edge, which is kept once.
* `ImportAtlas.GraphBuilder.count`: note one more import of a module, which always counts.
* `ImportAtlas.GraphBuilder.merge`: add what another builder has collected.
* `ImportAtlas.GraphBuilder.wrap`: the builder with its counts in words of the machine.
* `ImportAtlas.GraphBuilder.countWrapping`, `ImportAtlas.GraphBuilder.mergeWrapping`: the steps of a
  builder with its counts in words.
* `ImportAtlas.GraphBuilder.finish`: the graph.

## Design

The machine keeps a count in a word of 64 bits, and a count that gets too large starts from zero
again. A scan counts its imports one by one and never gets there, so it is written with the steps
whose counts have no limit. A builder that is merged with itself doubles its counts each time, and
gets there soon.
-/

namespace ImportAtlas

/-- The edges and counts collected so far. -/
structure GraphBuilder where
  /-- The edges, each once. -/
  edges : SortedSet Edge
  /-- The imported modules and how often each was counted. -/
  targets : SortedMap String ModuleInfo
  deriving DecidableEq

namespace GraphBuilder

/-- The builder that has collected nothing. -/
def empty : GraphBuilder := ⟨∅, ∅⟩

instance : Inhabited GraphBuilder := ⟨empty⟩

/-- Note an edge, and tell whether it is new. An edge from a module to itself is never kept. -/
def recordEdge (b : GraphBuilder) (source target : String) : Bool × GraphBuilder :=
  if source = target then (false, b)
  else
    let e : Edge := ⟨source, target⟩
    (!b.edges.contains e, { b with edges := b.edges.insert e })

/-- Note one more import of a module. The kind is the one that was noted first. -/
def count (b : GraphBuilder) (module : String) (kind : ModuleKind) : GraphBuilder :=
  { b with targets := b.targets.adjust module fun
      | some info => { info with count := info.count + 1 }
      | none => ⟨kind, 1⟩ }

/-- How many edges there are. -/
def edgeCount (b : GraphBuilder) : Nat := b.edges.size

/-- How often a module was counted. -/
def countOf (b : GraphBuilder) (module : String) : Nat :=
  match b.targets.find? module with
  | some info => info.count
  | none => 0

/-- The info of a module that occurs on both sides of a merge: the counts add up, and the kind on
the left stays. -/
def mergeInfo : Option ModuleInfo → ModuleInfo → ModuleInfo
  | some old, info => { old with count := old.count + info.count }
  | none, info => info

/-- Add what another builder has collected. -/
def merge (b c : GraphBuilder) : GraphBuilder :=
  ⟨b.edges.union c.edges, b.targets.absorb mergeInfo c.targets⟩

/-- The builder with each count in a word of 64 bits. -/
def wrap (b : GraphBuilder) : GraphBuilder :=
  { b with targets := b.targets.mapValues fun _ info =>
      { info with count := info.count % (Numeral.maxWord + 1) } }

/-- Note one more import of a module, with the counts in words. -/
def countWrapping (b : GraphBuilder) (module : String) (kind : ModuleKind) : GraphBuilder :=
  (b.count module kind).wrap

/-- Add what another builder has collected, with the counts in words. -/
def mergeWrapping (b c : GraphBuilder) : GraphBuilder := (b.merge c).wrap

/-- The graph of what was collected. -/
def finish (b : GraphBuilder) : ModuleGraph :=
  ⟨SortedSet.ofList (b.edges.toList.map (·.source)), b.targets, b.edges⟩

end GraphBuilder

end ImportAtlas
