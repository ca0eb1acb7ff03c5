import ImportAtlas.Proofs.Scan.Conservation

/-!
# Scans with and without platform modules

A scan may leave out the imports of platform modules. Beside the same scan that keeps them, it loses
just these imports: what it says of all other modules is the same, down to the counts.

## Main definitions

* `ImportAtlas.Ledger.withoutPlatform`: a ledger without the kept imports of platform modules.
* `ImportAtlas.ScanOutcome.WithoutPlatform`: an outcome is another one without platform modules.

## Main results

* `ImportAtlas.Ledger.ofFiles_withoutPlatform`: leaving out platform modules while the files are
  read, or afterwards.
* `ImportAtlas.GraphBuilder.Holds.targets_filter`, `ImportAtlas.GraphBuilder.Holds.targets_custom`:
  the targets of a part of the imports, and of those of the project's own modules.
* `ImportAtlas.scan_without_platform`: the outcomes of the two scans.

## Design

Whether platform modules are wanted is asked after the exclude patterns and before the imports of a
module by itself. So it touches neither the tally of excluded modules nor an import of the project's
own modules, and on the ledger it comes to a filter.
-/

namespace ImportAtlas

/-- The outcome `off` is the outcome `on` without its platform modules. -/
structure ScanOutcome.WithoutPlatform (off on : ScanOutcome) : Prop where
  /-- The targets are those of the project, with their counts. -/
  targets : off.graph.targets = on.graph.targets.filter fun _ info => info.kind = .custom
  /-- The edges are those that lead to no platform module. -/
  edges : ∀ e, e ∈ off.graph.edges ↔ e ∈ on.graph.edges ∧ ModuleKind.classify e.target ≠ .system
  /-- The sources are the origins of these edges. -/
  sources : ∀ module, module ∈ off.graph.sources ↔
    ∃ e ∈ on.graph.edges, ModuleKind.classify e.target ≠ .system ∧ e.source = module
  /-- All counters are the same but for the kept imports and the platform modules. -/
  statistics : off.statistics =
    { on.statistics with
      qualifyingImports := off.statistics.qualifyingImports
      systemModules := 0 }
  /-- What is missing from the kept imports are the references to platform modules. -/
  references : on.statistics.qualifyingImports = off.statistics.qualifyingImports +
    ((on.graph.targets.filter fun _ info => info.kind = .system).values.map (·.count)).sum
  /-- The registry is the same. -/
  registry : off.registry = on.registry

/-! ### Ledgers -/

namespace Ledger

/-- The ledger without the kept imports of platform modules. -/
def withoutPlatform (d : Ledger) : Ledger :=
  { d with kept := d.kept.filter fun e => ModuleKind.classify e.target ≠ .system }

lemma withoutPlatform_append (d e : Ledger) :
    (d ++ e).withoutPlatform = d.withoutPlatform ++ e.withoutPlatform := by
  ext1 <;> simp [withoutPlatform]

variable (rules : RuleSet)

/-- An import is kept without platform modules just if it is kept with them and names none. -/
lemma keeps_iff (e : Edge) :
    Filter.Keeps ⟨rules, false⟩ e ↔
      Filter.Keeps ⟨rules, true⟩ e ∧ ModuleKind.classify e.target ≠ .system := by
  unfold Filter.Keeps
  simp only [and_true, Bool.true_eq_false, and_false, not_false_eq_true, true_and]
  tauto

/-- The imports of a file, without platform modules. -/
lemma ofImports_withoutPlatform (file : SourceFile) (tokens : List String) :
    ofImports ⟨rules, false⟩ file tokens =
      (ofImports ⟨rules, true⟩ file tokens).withoutPlatform := by
  ext1
  case kept =>
    simp only [ofImports, withoutPlatform, List.filter_filter]
    apply List.filter_congr
    intro e _
    rw [decide_eq_decide.2 (keeps_iff rules e), Bool.decide_and, Bool.and_comm]
  all_goals rfl

/-- A file, without platform modules. Whether it is left out, read or unreadable does not depend on
them. -/
lemma ofFile_withoutPlatform (file : FoundFile) :
    ofFile ⟨rules, false⟩ file = (ofFile ⟨rules, true⟩ file).withoutPlatform := by
  unfold ofFile Filter.skipsFile
  split
  · rfl
  · cases file.content with
    | error cause => rfl
    | ok content =>
      have h := ofImports_withoutPlatform rules
        ⟨file.path, resolveModule rules.modules file.path, importsOfBytes content⟩
        (importsOfBytes content)
      simp only [ofSource, h]
      rfl

/-- **Leaving out platform modules while the files are read, or afterwards**, gives the same
ledger. -/
lemma ofFiles_withoutPlatform (files : List FoundFile) :
    ofFiles ⟨rules, false⟩ files = (ofFiles ⟨rules, true⟩ files).withoutPlatform := by
  induction files with
  | nil => rfl
  | cons file rest ih =>
    rw [ofFiles_cons, ofFiles_cons, withoutPlatform_append, ofFile_withoutPlatform, ih]

end Ledger

/-! ### Graphs -/

namespace GraphBuilder.Holds

variable {b c : GraphBuilder} {l : List Edge}

/-- The edges of the imports whose names are accepted. -/
lemma mem_edges_filter {p : String → Prop} [DecidablePred p] (h : b.Holds l)
    (h' : c.Holds (l.filter fun e => p e.target)) {e : Edge} :
    e ∈ c.edges ↔ e ∈ b.edges ∧ p e.target := by
  rw [h'.edges, h.edges, List.mem_filter, decide_eq_true_eq]
  tauto

/-- The targets of the imports whose names are accepted, with their counts. -/
lemma targets_filter {p : String → Bool} (h : b.Holds l)
    (h' : c.Holds (l.filter fun e => p e.target)) :
    c.targets = b.targets.filter fun token _ => p token := by
  have hnames : (l.filter fun e => p e.target).map (·.target) = (l.map (·.target)).filter p := by
    rw [List.filter_map]
    rfl
  apply SortedMap.ext_find?
  intro token
  rw [SortedMap.find?_filter, h'.targets, h.targets, hnames]
  simp only [List.mem_filter]
  by_cases hmem : token ∈ l.map (·.target)
  · by_cases hp : p token = true
    · simp only [hmem, hp, and_self, if_true, List.count_filter hp, Option.filter_some]
    · simp [hmem, hp]
  · simp only [hmem, false_and, if_false]
    rfl

/-- Among the targets, those of a kind are those whose names are of that kind. -/
lemma filter_kind (h : b.Holds l) (kind : ModuleKind) :
    b.targets.filter (fun _ info => info.kind = kind) =
      b.targets.filter fun token _ => ModuleKind.classify token = kind := by
  apply SortedMap.ext_find?
  intro token
  rw [SortedMap.find?_filter, SortedMap.find?_filter, h.targets]
  split <;> rfl

/-- The targets of the imports of the project's own modules are the targets of that kind. -/
lemma targets_custom (h : b.Holds l)
    (h' : c.Holds (l.filter fun e => ModuleKind.classify e.target ≠ .system)) :
    c.targets = b.targets.filter fun _ info => info.kind = .custom := by
  have hkind :
      (fun (token : String) (_ : ModuleInfo) => decide (ModuleKind.classify token ≠ .system)) =
        fun token _ => decide (ModuleKind.classify token = .custom) := by
    funext token _
    cases ModuleKind.classify token <;> rfl
  rw [h.filter_kind, ← hkind]
  exact h.targets_filter h'

end GraphBuilder.Holds

namespace ModuleGraph

/-- The references to platform modules and those to modules of the project are all references. -/
lemma sum_counts_filter (targets : SortedMap String ModuleInfo) :
    (targets.values.map (·.count)).sum =
      ((targets.filter fun _ info => info.kind = .custom).values.map (·.count)).sum +
        ((targets.filter fun _ info => info.kind = .system).values.map (·.count)).sum := by
  have hsplit := List.filter_append_perm (fun e : String × ModuleInfo => e.2.kind = .custom)
    targets.entries
  have hsystem : (fun e : String × ModuleInfo => !decide (e.2.kind = .custom)) =
      fun e => decide (e.2.kind = .system) := by
    funext ⟨_, ⟨kind, _⟩⟩
    cases kind <;> rfl
  rw [hsystem] at hsplit
  have hsum := ((hsplit.map (·.2)).map (·.count)).sum_eq
  rw [List.map_append, List.map_append, List.sum_append] at hsum
  exact hsum.symm

/-- A graph with the targets of one kind of another graph has as many of them, and no others. -/
lemma countOfKind_filter {g g' : ModuleGraph} {kept : ModuleKind}
    (h : g'.targets = g.targets.filter fun _ info => info.kind = kept) (kind : ModuleKind) :
    g'.countOfKind kind = if kind = kept then g.countOfKind kind else 0 := by
  have hentries : g'.targets.entries = g.targets.entries.filter fun e => e.2.kind = kept := by
    rw [h]
    rfl
  rw [countOfKind_eq, countOfKind_eq, hentries, List.filter_filter]
  split
  · rename_i heq
    simp [heq]
  · rename_i hne
    rw [List.length_eq_zero_iff, List.filter_eq_nil_iff]
    intro e _ hboth
    rw [Bool.and_eq_true, decide_eq_true_eq, decide_eq_true_eq] at hboth
    exact hne (hboth.1.symm.trans hboth.2)

end ModuleGraph

/-! ### Scans -/

/-- The scan of a schedule without platform modules, beside the scan of the same schedule with them.

**Proof sketch.** The builder without platform modules holds the part of the kept imports that the
other builder holds whose names are the project's own. The counters are read off the two ledgers,
which differ in their kept imports alone. The references are counted twice, once by the imports and
once by the targets. -/
lemma scanFiles_withoutPlatform (plan : ScanPlan) (schedule : Schedule) (failures : Nat) :
    (scanFiles { plan with includeSystem := false } schedule failures).WithoutPlatform
      (scanFiles { plan with includeSystem := true } schedule failures) := by
  set on := scanFiles { plan with includeSystem := true } schedule failures with hon
  set off := scanFiles { plan with includeSystem := false } schedule failures with hoff
  set d := Ledger.ofFiles ⟨plan.rules, true⟩ schedule.files with hd
  have hledger : Ledger.ofFiles ⟨plan.rules, false⟩ schedule.files = d.withoutPlatform :=
    Ledger.ofFiles_withoutPlatform plan.rules schedule.files
  have hbuilder : GraphBuilder.Holds ⟨on.graph.edges, on.graph.targets⟩ d.kept :=
    holds_scanFiles { plan with includeSystem := true } schedule failures
  have hreports : off.graph.Reports ⟨plan.rules, false⟩ schedule.files :=
    (holds_scanFiles { plan with includeSystem := false } schedule failures).reports
  have hbuilder' : GraphBuilder.Holds ⟨off.graph.edges, off.graph.targets⟩
      (d.kept.filter fun e => ModuleKind.classify e.target ≠ .system) := by
    have h := holds_scanFiles { plan with includeSystem := false } schedule failures
    dsimp only at h
    rwa [hledger] at h
  have htargets :
      off.graph.targets = on.graph.targets.filter fun _ info => info.kind = .custom :=
    hbuilder.targets_custom hbuilder'
  have hedges : ∀ e, e ∈ off.graph.edges ↔
      e ∈ on.graph.edges ∧ ModuleKind.classify e.target ≠ .system := by
    intro e
    exact hbuilder.mem_edges_filter (p := fun token => ModuleKind.classify token ≠ .system)
      hbuilder'
  have hexcluded : off.statistics.excludedModules = on.statistics.excludedModules := by
    have hcounts := (schedule.run_records ⟨plan.rules, false⟩).excluded
    rw [hledger] at hcounts
    exact hcounts.eq_of_perm (schedule.run_records ⟨plan.rules, true⟩).excluded (.refl _)
  have hstatistics := statistics_scanFiles { plan with includeSystem := true } schedule failures
  have hstatistics' := statistics_scanFiles { plan with includeSystem := false } schedule failures
  simp only [hledger, ← hon, ← hoff, ← hd] at hstatistics hstatistics'
  have hreferences :
      (on.graph.targets.values.map (·.count)).sum = on.statistics.qualifyingImports :=
    (scanFiles_balanced { plan with includeSystem := true } schedule failures).references
  have hreferences' :
      (off.graph.targets.values.map (·.count)).sum = off.statistics.qualifyingImports :=
    (scanFiles_balanced { plan with includeSystem := false } schedule failures).references
  exact
    { targets := htargets
      edges := hedges
      sources := by
        intro module
        rw [hreports.sources]
        simp only [hedges, and_assoc]
      statistics := by
        rw [hstatistics', hstatistics, hexcluded, ModuleGraph.countOfKind_filter htargets,
          ModuleGraph.countOfKind_filter htargets]
        rfl
      references := by
        rw [← hreferences, ← hreferences', htargets]
        exact ModuleGraph.sum_counts_filter _
      registry := rfl }

/-- Outcomes that agree are the same outcome without platform modules. -/
lemma ScanOutcome.WithoutPlatform.of_agrees {o off on : ScanOutcome} (h : o.Agrees off)
    (h' : off.WithoutPlatform on) : o.WithoutPlatform on where
  targets := h.graph ▸ h'.targets
  edges := h.graph ▸ h'.edges
  sources := h.graph ▸ h'.sources
  statistics := h.statistics ▸ h'.statistics
  references := h.statistics ▸ h'.references
  registry := h.registry.trans h'.registry

/-- **A scan without platform modules is the same scan with them, less the platform modules.** This
holds of any two schedules of the same files, and of the two scans of a file tree. -/
theorem scan_without_platform :
    (∀ (plan : ScanPlan) (s t : Schedule) (failures : Nat), s.files.Perm t.files →
      (scanFiles { plan with includeSystem := false } s failures).WithoutPlatform
        (scanFiles { plan with includeSystem := true } t failures)) ∧
    ∀ (workers : Workers) (tree : FileTree) (plan : ScanPlan),
      match scan workers tree { plan with includeSystem := false },
        scan workers tree { plan with includeSystem := true } with
      | .ok off, .ok on => off.WithoutPlatform on
      | .error e, .error e' => e.cause = e'.cause
      | _, _ => False := by
  have hfiles : ∀ (plan : ScanPlan) (s t : Schedule) (failures : Nat), s.files.Perm t.files →
      (scanFiles { plan with includeSystem := false } s failures).WithoutPlatform
        (scanFiles { plan with includeSystem := true } t failures) := by
    intro plan s t failures h
    exact .of_agrees (scanFiles_agrees _ failures h) (scanFiles_withoutPlatform plan t failures)
  refine ⟨hfiles, fun workers tree plan => ?_⟩
  exact forall_scan_pair (p := { plan with includeSystem := false })
    (q := { plan with includeSystem := true }) rfl rfl rfl (hfiles plan) tree

/-- Two files that import a platform module and each other's module, the second of them twice,
folded in two parts without platform modules and in one with them. -/
theorem scan_without_platform_shared :
    let a : FoundFile := ⟨"A/a.swift", .ok (Utf8.encode "import UIKit\nimport B".toList)⟩
    let b : FoundFile := ⟨"B/b.swift", .ok (Utf8.encode "import A\nimport UIKit\nimport A".toList)⟩
    let plan : ScanPlan := ⟨".", .empty, false, false, 2⟩
    let parts : Schedule := .join (.part [b]) (.part [a])
    parts.files.Perm [a, b] ∧
      (scanFiles { plan with includeSystem := false } parts 0).WithoutPlatform
        (scanFiles { plan with includeSystem := true } (.part [a, b]) 0) := by
  intro a b plan parts
  have hfiles : parts.files.Perm [a, b] := List.reverse_perm [a, b]
  exact ⟨hfiles, scan_without_platform.1 plan parts (.part [a, b]) 0 hfiles⟩

end ImportAtlas
