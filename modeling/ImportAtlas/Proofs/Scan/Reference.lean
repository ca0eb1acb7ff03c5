import ImportAtlas.Proofs.Scan.Schedule
import Mathlib.Algebra.BigOperators.Group.List.Basic
import Mathlib.Tactic.Lemma

/-!
# The graph of a scan

The graph of a scan told from the files alone: which imports give an edge, and how often each module
is imported. Nothing here folds, merges or deduplicates.

## Main definitions

* `ImportAtlas.FoundFile.Live`: a file counts, with its content.
* `ImportAtlas.Filter.Finds`: a file of a module imports another module, and the import is kept.
* `ImportAtlas.Filter.occurrences`: how many kept imports of a module a file has.
* `ImportAtlas.ModuleGraph.Reports`: a graph tells just that of some files.

## Main results

* `ImportAtlas.GraphBuilder.Holds.reports`: the graph of a builder that holds the imports of some
  files reports the files.
* `ImportAtlas.scan_graph_reports`: the graph of every scan reports the files that it found.
-/

namespace ImportAtlas

/-! ### Reference -/

/-- A file is live with a content if no exclude pattern matches its path and it can be read. -/
def FoundFile.Live (rules : RuleSet) (file : FoundFile) (content : List UInt8) : Prop :=
  rules.excludesText file.path = false ∧ file.content = .ok content

/-- A live file of the module `e.source` imports `e.target`, and the filter keeps the import. -/
def Filter.Finds (filter : Filter) (files : List FoundFile) (e : Edge) : Prop :=
  ∃ file ∈ files, ∃ content, file.Live filter.rules content ∧
    resolveModule filter.rules.modules file.path = e.source ∧
    e.target ∈ importsOfBytes content ∧ filter.Keeps e

/-- How many kept imports of a module a file has, repetitions included. -/
def Filter.occurrences (filter : Filter) (token : String) (file : FoundFile) : Nat :=
  match file.content with
  | .ok content =>
    if filter.rules.excludesText file.path = false ∧
        filter.Keeps ⟨resolveModule filter.rules.modules file.path, token⟩ then
      (importsOfBytes content).count token
    else 0
  | .error _ => 0

/-- A graph reports some files: its edges are the kept imports, its targets are the modules that
they name, each with the kind that its name gives and the number of its kept imports in all files,
and its sources are the modules that an edge starts at. -/
structure ModuleGraph.Reports (g : ModuleGraph) (filter : Filter) (files : List FoundFile) :
    Prop where
  /-- The edges are the kept imports. -/
  edges : ∀ e, e ∈ g.edges ↔ filter.Finds files e
  /-- The targets are the imported modules with their kinds and counts. -/
  targets : ∀ token info, g.targets.find? token = some info ↔
    (∃ module, filter.Finds files ⟨module, token⟩) ∧
      info = ⟨.classify token, (files.map (filter.occurrences token)).sum⟩
  /-- The sources are the origins of the edges. -/
  sources : ∀ module, module ∈ g.sources ↔ ∃ e ∈ g.edges, e.source = module

/-! ### The imports of a file -/

section File

variable {filter : Filter} {file : FoundFile} {files : List FoundFile}

/-- A file writes down a kept import exactly when it is live and has the import. -/
lemma mem_kept_ofFile {e : Edge} :
    e ∈ (Ledger.ofFile filter file).kept ↔ ∃ content, file.Live filter.rules content ∧
      resolveModule filter.rules.modules file.path = e.source ∧
      e.target ∈ importsOfBytes content ∧ filter.Keeps e := by
  obtain ⟨source, target⟩ := e
  unfold Ledger.ofFile FoundFile.Live Filter.skipsFile
  by_cases hskip : filter.rules.excludesText file.path = true
  · simp [hskip, Ledger.nil]
  · rw [if_neg hskip]
    cases file.content with
    | error cause => simp [Ledger.nil]
    | ok content =>
      simp only [Ledger.ofSource, Ledger.ofImports, List.mem_filter, List.mem_map, Edge.mk.injEq,
        decide_eq_true_eq, Except.ok.injEq]
      constructor
      · rintro ⟨⟨token, htoken, hsource, rfl⟩, hkeeps⟩
        exact ⟨content, ⟨by simpa using hskip, rfl⟩, hsource, htoken, hkeeps⟩
      · rintro ⟨_, ⟨-, rfl⟩, hsource, htarget, hkeeps⟩
        exact ⟨⟨target, htarget, hsource, rfl⟩, hkeeps⟩

/-- Among the imports that a module keeps, a name is kept as often as it occurs, or never. -/
lemma count_kept_imports (filter : Filter) (module token : String) (tokens : List String) :
    (((tokens.map (Edge.mk module)).filter (decide <| filter.Keeps ·)).map (·.target)).count token =
      if filter.Keeps ⟨module, token⟩ then tokens.count token else 0 := by
  have htarget : (fun e : Edge => e.target) ∘ Edge.mk module = id := rfl
  rw [List.filter_map, List.map_map, htarget, List.map_id]
  split
  · rename_i hkeeps
    exact List.count_filter (by simpa using hkeeps)
  · rename_i hdrops
    refine List.count_eq_zero_of_not_mem fun hmem => hdrops ?_
    simpa using List.of_mem_filter hmem

/-- A file writes down a kept import of a module as often as it has one. -/
lemma count_kept_ofFile (token : String) :
    ((Ledger.ofFile filter file).kept.map (·.target)).count token =
      filter.occurrences token file := by
  unfold Ledger.ofFile Filter.occurrences Filter.skipsFile
  by_cases hskip : filter.rules.excludesText file.path = true
  · rw [if_pos hskip]
    cases file.content <;> simp [hskip, Ledger.nil]
  · rw [if_neg hskip]
    cases file.content with
    | error cause => simp [Ledger.nil]
    | ok content =>
      simp only [Bool.not_eq_true] at hskip
      simp only [hskip, Ledger.ofSource, Ledger.ofImports, true_and]
      exact count_kept_imports filter _ token (importsOfBytes content)

/-- Some files write down a kept import exactly when one of them has it. -/
lemma mem_kept_ofFiles {e : Edge} :
    e ∈ (Ledger.ofFiles filter files).kept ↔ filter.Finds files e := by
  rw [Ledger.kept_ofFiles, List.mem_flatMap]
  exact exists_congr fun _ => and_congr_right fun _ => mem_kept_ofFile

/-- Some files write down the kept imports of a module as often as they have them together. -/
lemma count_kept_ofFiles (token : String) :
    ((Ledger.ofFiles filter files).kept.map (·.target)).count token =
      (files.map (filter.occurrences token)).sum := by
  rw [Ledger.kept_ofFiles, List.map_flatMap, List.count_flatMap]
  exact congrArg List.sum (List.map_congr_left fun _ _ => count_kept_ofFile token)

end File

/-! ### The graph -/

/-- **The graph of a builder that holds the imports of some files reports the files.**

**Proof sketch.** The edges, and the tokens of the targets, are the kept imports of the files
without their repetitions, and the count of a token is the number of times it is kept. The sources
are read off the edges. -/
lemma GraphBuilder.Holds.reports {b : GraphBuilder} {filter : Filter} {files : List FoundFile}
    (h : b.Holds (Ledger.ofFiles filter files).kept) : b.finish.Reports filter files where
  edges e := by
    have hfinish : b.finish.edges = b.edges := rfl
    rw [hfinish, h.edges, mem_kept_ofFiles, and_iff_left_iff_imp]
    rintro ⟨_, _, _, _, _, _, hkeeps⟩
    exact hkeeps.2.2.symm
  targets token info := by
    have hfinish : b.finish.targets = b.targets := rfl
    have hmem : token ∈ (Ledger.ofFiles filter files).kept.map (·.target) ↔
        ∃ module, filter.Finds files ⟨module, token⟩ := by
      simp only [List.mem_map, mem_kept_ofFiles]
      constructor
      · rintro ⟨⟨module, _⟩, hfinds, rfl⟩
        exact ⟨module, hfinds⟩
      · rintro ⟨module, hfinds⟩
        exact ⟨_, hfinds, rfl⟩
    rw [hfinish, h.targets, count_kept_ofFiles, ← hmem]
    split
    · rename_i hin
      simp [hin, eq_comm]
    · rename_i hout
      simp [hout]
  sources module := by
    have hfinish : b.finish.sources = SortedSet.ofList (b.edges.toList.map (·.source)) := rfl
    rw [hfinish, SortedSet.mem_ofList, List.mem_map]
    rfl

/-! ### Scans -/

/-- **The graph of every scan reports the files that it found**: those of any schedule, and for the
scan of a file tree those that the walk finds below the root. A scan without a graph has a reason to
have none: its root is no directory, or its workers do not start. -/
theorem scan_graph_reports :
    (∀ (plan : ScanPlan) (schedule : Schedule) (failures : Nat),
      (scanFiles plan schedule failures).graph.Reports ⟨plan.rules, plan.includeSystem⟩
        schedule.files) ∧
    ∀ (workers : Workers) (tree : FileTree) (plan : ScanPlan),
      match scan workers tree plan with
      | .ok outcome => outcome.graph.Reports ⟨plan.rules, plan.includeSystem⟩
          (foundFiles tree plan.root plan.noIgnore).1
      | .error e => plan.Fails workers tree e.cause := by
  have hfiles : ∀ (plan : ScanPlan) (schedule : Schedule) (failures : Nat),
      (scanFiles plan schedule failures).graph.Reports ⟨plan.rules, plan.includeSystem⟩
        schedule.files :=
    fun plan schedule _ => (schedule.run_records ⟨plan.rules, plan.includeSystem⟩).builder.reports
  exact ⟨hfiles, fun workers tree plan => forall_scan (hfiles plan) workers tree⟩

end ImportAtlas
