import ImportAtlas.Graph.Basic
import ImportAtlas.Proofs.Sorted.Set
import Mathlib.Algebra.BigOperators.Group.Finset.Basic
import Mathlib.Tactic.Lemma

/-!
# The neighbours of a module

Both listings of neighbours read the same edges, one from the source to the target and one the other
way round. Edges are sorted by source and then by target, and a listing keeps one end fixed, so the
other ends come in ascending order in both of them. Since every edge has one source and one target,
either kind of listing counts every edge once.

## Main results

* `ImportAtlas.ModuleGraph.ascending_ends`: the edges with one end fixed, by their other end.
* `ImportAtlas.ModuleGraph.sum_length_ends`: how many edges are listed in all.
* `ImportAtlas.ModuleGraph.neighbours_dual`: the two listings are converse to each other, strictly
  ascending, and complete.

## Design

A graph that was read from a document has any set of edges, so nothing here asks that the sources or
the targets of the graph agree with its edges.
-/

namespace ImportAtlas.ModuleGraph

variable {g : ModuleGraph} {fixed free : Edge → String}

/-- What is listed are the other ends of the edges with one end fixed. -/
lemma mem_ends {m n : String} :
    n ∈ (g.edges.toList.filter fun e => fixed e == m).map free ↔
      ∃ e ∈ g.edges, fixed e = m ∧ free e = n := by
  simp only [List.mem_map, List.mem_filter, beq_iff_eq, and_assoc]
  rfl

/-- The edges with one end fixed, by their other end, are strictly ascending if edges with the same
fixed end compare by the other one. -/
lemma ascending_ends (hcompare : ∀ e f, fixed e = fixed f → compare e f = compare (free e) (free f))
    (g : ModuleGraph) (m : String) :
    SortedSet.Ascending ((g.edges.toList.filter fun e => fixed e == m).map free) := by
  refine List.pairwise_map.2 (List.Pairwise.imp_of_mem ?_ (g.edges.ascending.filter _))
  intro e f he hf hlt
  have hfixed : ∀ {e}, e ∈ g.edges.toList.filter (fun e => fixed e == m) → fixed e = m :=
    fun he => beq_iff_eq.1 (List.mem_filter.1 he).2
  rw [← hcompare e f ((hfixed he).trans (hfixed hf).symm)]
  exact hlt

/-- Over all values that the fixed end takes, every edge is listed once. -/
lemma sum_length_ends (g : ModuleGraph) (fixed free : Edge → String) :
    ∑ m ∈ (g.edges.toList.map fixed).toFinset,
      ((g.edges.toList.filter fun e => fixed e == m).map free).length = g.edges.size := by
  have hcount : ∀ m, ((g.edges.toList.filter fun e => fixed e == m).map free).length =
      (g.edges.toList.map fixed).count m := by
    intro m
    rw [List.length_map, List.count, List.countP_map, List.countP_eq_length_filter]
    rfl
  simp only [hcount]
  rw [List.sum_toFinset_count_eq_length, List.length_map]
  rfl

/-- A module is imported by another one if there is an edge between them. -/
lemma mem_dependencies {a b : String} : b ∈ g.dependencies a ↔ ⟨a, b⟩ ∈ g.edges := by
  refine mem_ends.trans ⟨?_, fun h => ⟨⟨a, b⟩, h, rfl, rfl⟩⟩
  rintro ⟨e, he, rfl, rfl⟩
  exact he

/-- A module imports another one if there is an edge between them. -/
lemma mem_dependents {a b : String} : a ∈ g.dependents b ↔ ⟨a, b⟩ ∈ g.edges := by
  refine mem_ends.trans ⟨?_, fun h => ⟨⟨a, b⟩, h, rfl, rfl⟩⟩
  rintro ⟨e, he, rfl, rfl⟩
  exact he

/-- Edges with the same source compare by their targets. -/
lemma compare_of_source_eq (e f : Edge) (h : e.source = f.source) :
    compare e f = compare e.target f.target := by
  have hself : compare f.source f.source = .eq := Std.ReflCmp.compare_self
  rw [Edge.compare_def, h, hself, Ordering.then]

/-- Edges with the same target compare by their sources. -/
lemma compare_of_target_eq (e f : Edge) (h : e.target = f.target) :
    compare e f = compare e.source f.source := by
  have hself : compare f.target f.target = .eq := Std.ReflCmp.compare_self
  rw [Edge.compare_def, h, hself, Ordering.then_eq]

/-- **Imports and importers.** For every graph, whether its parts agree or not, a module is among
the imports of another one just if that is among its importers, and both just if there is an edge
between them. Both listings are strictly ascending, so no module is listed twice. And the listings
of imports for all sources of edges have as many entries together as there are edges, and so have
the listings of importers for all targets of edges. -/
theorem neighbours_dual (g : ModuleGraph) :
    (∀ a b, (b ∈ g.dependencies a ↔ a ∈ g.dependents b) ∧
      (a ∈ g.dependents b ↔ ⟨a, b⟩ ∈ g.edges)) ∧
    (∀ m, SortedSet.Ascending (g.dependencies m) ∧ (g.dependencies m).Nodup ∧
      SortedSet.Ascending (g.dependents m) ∧ (g.dependents m).Nodup) ∧
    ∑ m ∈ (g.edges.toList.map (·.source)).toFinset, (g.dependencies m).length = g.edges.size ∧
    ∑ m ∈ (g.edges.toList.map (·.target)).toFinset, (g.dependents m).length = g.edges.size := by
  have hnodup : ∀ {l : List String}, SortedSet.Ascending l → l.Nodup :=
    fun h => SortedSet.nodup_toList ⟨_, h⟩
  refine ⟨fun a b => ⟨mem_dependencies.trans mem_dependents.symm, mem_dependents⟩, fun m => ?_,
    g.sum_length_ends _ _, g.sum_length_ends _ _⟩
  have himports : SortedSet.Ascending (g.dependencies m) := g.ascending_ends compare_of_source_eq m
  have himporters : SortedSet.Ascending (g.dependents m) := g.ascending_ends compare_of_target_eq m
  exact ⟨himports, hnodup himports, himporters, hnodup himporters⟩

end ImportAtlas.ModuleGraph
