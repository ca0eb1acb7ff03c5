import ImportAtlas.Proofs.Header.Imports
import ImportAtlas.Proofs.Scan.Conservation

/-!
# The parts of a graph agree

Edges and counts are collected by separate calls and merged separately, and only the edges leave out
the imports of a module by itself. In the graph of a scan they agree all the same: every target has
an importer, and every edge leads to a target.

## Main definitions

* `ImportAtlas.ScanOutcome.Consistent`: sources, targets, edges and registry of a scan agree.

## Main results

* `ImportAtlas.GraphBuilder.Holds.mem_keys_iff`: the targets are the ends of the edges.
* `ImportAtlas.GraphBuilder.Holds.dependents_le`: a module has no more importers than imports.
* `ImportAtlas.scan_consistent`: every scan has a consistent outcome.

## Design

That the parts agree rests on one property of the list that a builder holds: no entry is an import
of a module by itself. The filter sees to it before the builder is asked.
-/

namespace ImportAtlas

/-- The parts of the graph of a scan agree with each other, with the registry and with the rules. -/
structure ScanOutcome.Consistent (o : ScanOutcome) (rules : RuleSet) : Prop where
  /-- The targets are the ends of the edges. -/
  targets : ∀ token, token ∈ o.graph.targets.keys ↔ ∃ e ∈ o.graph.edges, e.target = token
  /-- No edge leads from a module to itself. -/
  loopless : ∀ e ∈ o.graph.edges, e.source ≠ e.target
  /-- The kind of a target is that of its name. -/
  kinds : ∀ token info, o.graph.targets.find? token = some info → info.kind = .classify token
  /-- A target has an importer, and no more importers than imports. -/
  dependents : ∀ token info, o.graph.targets.find? token = some info →
    1 ≤ (o.graph.dependents token).length ∧ (o.graph.dependents token).length ≤ info.count
  /-- The sources are the origins of the edges. -/
  sources : ∀ module, module ∈ o.graph.sources ↔ ∃ e ∈ o.graph.edges, e.source = module
  /-- Every source is a module of the registry. -/
  registered : ∀ module ∈ o.graph.sources, o.registry.contains module = true
  /-- The modules of the graph are the two ends of the edges. -/
  modules : ∀ module, module ∈ o.graph.modules ↔
    ∃ e ∈ o.graph.edges, e.source = module ∨ e.target = module
  /-- The name of a target is a dotted identifier other than the import word, and no exclude pattern
  matches it. -/
  names : ∀ token ∈ o.graph.targets.keys, Header.IsDotted token.toList ∧ token ≠ "import" ∧
    ∀ rule ∈ rules.excludes, rule.isMatch token = false

/-! ### What a builder holds -/

namespace GraphBuilder.Holds

variable {b : GraphBuilder} {l : List Edge}

/-- The targets are the names of the imports. -/
lemma mem_keys (h : b.Holds l) {token : String} :
    token ∈ b.targets.keys ↔ token ∈ l.map (·.target) := by
  have hfound : token ∈ b.targets.keys ↔ ∃ info, b.targets.find? token = some info := by
    simp [SortedMap.keys, SortedMap.find?_eq_some_iff]
  rw [hfound, h.targets]
  split <;> simp_all

/-- **The targets are the ends of the edges**, if no module imports itself. -/
lemma mem_keys_iff (h : b.Holds l) (hproper : ∀ e ∈ l, e.source ≠ e.target) {token : String} :
    token ∈ b.targets.keys ↔ ∃ e ∈ b.edges, e.target = token := by
  rw [h.mem_keys, List.mem_map]
  constructor
  · rintro ⟨e, he, htarget⟩
    exact ⟨e, (h.edges e).2 ⟨he, hproper e he⟩, htarget⟩
  · rintro ⟨e, he, htarget⟩
    exact ⟨e, ((h.edges e).1 he).1, htarget⟩

/-- **A module has no more importers than imports.**

**Proof sketch.** The edges that lead to the module are listed once each, and each of them is among
the imports of the module. -/
lemma dependents_le (h : b.Holds l) (token : String) :
    (b.finish.dependents token).length ≤ (l.map (·.target)).count token := by
  have hnodup : (b.edges.toList.filter fun e => e.target == token).Nodup :=
    b.edges.nodup_toList.filter _
  have hsubset : (b.edges.toList.filter fun e => e.target == token) ⊆
      l.filter fun e => e.target == token := by
    intro e he
    rw [List.mem_filter] at he ⊢
    exact ⟨((h.edges e).1 he.1).1, he.2⟩
  calc (b.finish.dependents token).length
      = (b.edges.toList.filter fun e => e.target == token).length := List.length_map _
    _ ≤ (l.filter fun e => e.target == token).length :=
      (List.subperm_of_subset hnodup hsubset).length_le
    _ = (l.map (·.target)).count token := by
      rw [List.count, List.countP_map, List.countP_eq_length_filter]
      rfl

end GraphBuilder.Holds

/-! ### Graphs -/

/-- A module has an importer if an edge leads to it. -/
lemma ModuleGraph.dependents_pos {g : ModuleGraph} {e : Edge} (h : e ∈ g.edges) :
    1 ≤ (g.dependents e.target).length := by
  have hmem : e.source ∈ g.dependents e.target :=
    List.mem_map.2 ⟨e, List.mem_filter.2 ⟨h, beq_self_eq_true _⟩, rfl⟩
  exact List.length_pos_of_mem hmem

/-- The modules of a graph are its sources and its targets. -/
lemma ModuleGraph.mem_modules {g : ModuleGraph} {module : String} :
    module ∈ g.modules ↔ module ∈ g.sources ∨ module ∈ g.targets.keys := by
  rw [modules, SortedSet.mem_ofList, List.mem_append]
  rfl

/-- A module that a listed path belongs to is in the registry. -/
lemma ModuleRegistry.contains_collect {rules : List ModuleRule} {paths : List String}
    {path : String} (h : path ∈ paths) :
    (ModuleRegistry.collect rules paths).contains (resolveModule rules path) = true := by
  have hmem : resolveModule rules path ∈ paths.map (resolveModule rules) := List.mem_map_of_mem h
  rw [SortedMap.contains, ModuleRegistry.collect_counts rules paths, if_pos hmem]
  rfl

/-! ### Scans -/

/-- The outcome of a schedule is consistent.

**Proof sketch.** The builder of the schedule holds the kept imports of the files. The filter keeps
no import of a module by itself, so the targets are the ends of the edges. A kept import stands in
the header of a file, which says what its name looks like and that the registry knows the file. -/
lemma scanFiles_consistent (plan : ScanPlan) (schedule : Schedule) (failures : Nat) :
    (scanFiles plan schedule failures).Consistent plan.rules := by
  set filter : Filter := ⟨plan.rules, plan.includeSystem⟩
  set o := scanFiles plan schedule failures
  set d := Ledger.ofFiles filter schedule.files
  have hbuilder : GraphBuilder.Holds ⟨o.graph.edges, o.graph.targets⟩ d.kept :=
    holds_scanFiles plan schedule failures
  have hreports : o.graph.Reports filter schedule.files := hbuilder.reports
  have hproper : ∀ e ∈ d.kept, e.source ≠ e.target := by
    intro e he
    obtain ⟨_, _, _, _, _, _, hkeeps⟩ := mem_kept_ofFiles.1 he
    exact hkeeps.2.2.symm
  have htargets : ∀ token, token ∈ o.graph.targets.keys ↔ ∃ e ∈ o.graph.edges, e.target = token :=
    fun _ => hbuilder.mem_keys_iff hproper
  exact
    { targets := htargets
      loopless := fun e he => ((hbuilder.edges e).1 he).2
      kinds := by
        intro token info hinfo
        obtain ⟨-, rfl⟩ := (hreports.targets token info).1 hinfo
        rfl
      dependents := by
        intro token info hinfo
        have hkey : token ∈ o.graph.targets.keys :=
          List.mem_map_of_mem (SortedMap.find?_eq_some_iff.1 hinfo)
        obtain ⟨e, he, rfl⟩ := (htargets token).1 hkey
        refine ⟨ModuleGraph.dependents_pos he, ?_⟩
        have hcount := hbuilder.targets e.target
        rw [hinfo, if_pos (hbuilder.mem_keys.1 hkey)] at hcount
        obtain rfl := Option.some.inj hcount
        exact hbuilder.dependents_le e.target
      sources := hreports.sources
      registered := by
        intro module hmodule
        obtain ⟨e, he, rfl⟩ := (hreports.sources module).1 hmodule
        obtain ⟨file, hfile, _, _, hresolve, _, _⟩ := (hreports.edges e).1 he
        rw [← hresolve]
        exact ModuleRegistry.contains_collect (List.mem_map_of_mem hfile)
      modules := by
        intro module
        rw [ModuleGraph.mem_modules, hreports.sources, htargets, ← exists_or]
        exact exists_congr fun e => and_or_left.symm
      names := by
        intro token htoken
        obtain ⟨e, he, rfl⟩ := (htargets token).1 htoken
        obtain ⟨_, _, content, _, _, himport, hkeeps⟩ := (hreports.edges e).1 he
        obtain ⟨hdotted, hword⟩ := Header.isDotted_of_mem_imports himport
        refine ⟨hdotted, ?_, (RuleSet.excludesText_eq_false_iff _ _).1 hkeeps.1⟩
        intro heq
        apply hword
        rw [heq]
        rfl }

/-- **Every scan has a consistent outcome**: that of any schedule, and that of the scan of a file
tree whose root is a directory, with workers that start. -/
theorem scan_consistent :
    (∀ (plan : ScanPlan) (schedule : Schedule) (failures : Nat),
      (scanFiles plan schedule failures).Consistent plan.rules) ∧
    ∀ (workers : Workers) (tree : FileTree) (plan : ScanPlan),
      match scan workers tree plan with
      | .ok outcome => outcome.Consistent plan.rules
      | .error e => plan.Fails workers tree e.cause :=
  ⟨scanFiles_consistent, fun workers tree plan =>
    forall_scan (P := fun o _ => o.Consistent plan.rules) (scanFiles_consistent plan) workers tree⟩

end ImportAtlas
