import ImportAtlas.Proofs.Scan.Reference
import Mathlib.Tactic.Set

/-!
# The counters of a scan

Nothing is lost between the counters of a scan: every file found is read, left out or unreadable,
every import found is kept, excluded, suppressed or a self-import, and what the graph and the
registry count adds up to what the counters say.

## Main definitions

* `ImportAtlas.Filter.occurrencesDecided`: how many imports of a file get some decision.
* `ImportAtlas.ScanOutcome.Balanced`: the counters of a scan agree with each other, with the graph
  and with the registry.

## Main results

* `ImportAtlas.Ledger.found_ofFiles`: the imports in a ledger, by the decisions on them.
* `ImportAtlas.holds_scanFiles`, `ImportAtlas.statistics_scanFiles`: graph and counters of a scan,
  read off the ledger of its files.
* `ImportAtlas.scan_balanced`: every scan is balanced.

## Design

The laws are proved of the ledger of the files, file by file. The tally of any schedule records the
ledger, so that no fold and no merge has to be looked at again.
-/

namespace ImportAtlas

/-! ### Decisions on the imports of a file -/

/-- How many imports of a file get a decision, repetitions included. The imports of a file that is
left out or cannot be read get none. -/
def Filter.occurrencesDecided (filter : Filter) (decision : Decision) (file : FoundFile) : Nat :=
  match file.content with
  | .ok content =>
    if filter.rules.excludesText file.path = true then 0
    else
      (importsOfBytes content).countP fun token =>
        filter.decide (resolveModule filter.rules.modules file.path) token = decision
  | .error _ => 0

/-- The counters of a scan of some files agree with each other, with the graph and with the
registry. -/
structure ScanOutcome.Balanced (o : ScanOutcome) (filter : Filter) (files : List FoundFile) :
    Prop where
  /-- Every file is discovered. -/
  discovered : o.statistics.filesDiscovered = files.length
  /-- A file that is discovered is read, left out or unreadable. -/
  accounted : o.statistics.filesDiscovered =
    o.statistics.filesProcessed + o.statistics.filesExcluded + o.statistics.unreadable.length
  /-- The registry counts every file that is discovered. -/
  registry : o.registry.values.sum = o.statistics.filesDiscovered
  /-- The project has the modules of the registry. -/
  projectModules : o.statistics.projectModules = o.registry.size
  /-- The graph counts every import that is kept. -/
  references : (o.graph.targets.values.map (·.count)).sum = o.statistics.qualifyingImports
  /-- The platform modules are the targets of that kind. -/
  systemModules : o.statistics.systemModules =
    (o.graph.targets.entries.filter fun e => e.2.kind = .system).length
  /-- The project's imported modules are the targets of the other kind. -/
  customModules : o.statistics.customModules =
    (o.graph.targets.entries.filter fun e => e.2.kind = .custom).length
  /-- The imported modules are the targets. -/
  uniqueModules : o.statistics.uniqueModules = o.graph.targets.size
  /-- An import that is found is kept, excluded, suppressed or a self-import. -/
  imports : o.statistics.importsFound =
    o.statistics.qualifyingImports + o.statistics.excludedModules.values.sum +
      (files.map (filter.occurrencesDecided .suppressed)).sum +
      (files.map (filter.occurrencesDecided .selfImport)).sum
  /-- An excluded module matches an exclude pattern, was imported, and is no target. -/
  excluded : ∀ token n, o.statistics.excludedModules.find? token = some n →
    filter.rules.excludesText token = true ∧ 1 ≤ n ∧ o.graph.targets.find? token = none
  /-- The unreadable files are sorted. -/
  sorted : o.statistics.unreadable.Pairwise fun a b => (compare a b).isLE = true
  /-- No unreadable file is one that an exclude pattern leaves out. -/
  unreadable : ∀ path ∈ o.statistics.unreadable, filter.rules.excludesText path = false

/-! ### The books of a ledger -/

namespace Ledger

variable (filter : Filter)

/-- Every file is read, left out or unreadable. -/
lemma length_ofFiles (files : List FoundFile) :
    (ofFiles filter files).processed + (ofFiles filter files).skipped +
      (ofFiles filter files).unreadable.length = files.length := by
  have hfile : ∀ file, (ofFile filter file).processed + (ofFile filter file).skipped +
      (ofFile filter file).unreadable.length = 1 := by
    intro file
    obtain ⟨-, h⟩ | ⟨-, _, -, h⟩ | ⟨-, _, -, h⟩ := ofFile_cases filter file <;> rw [h] <;> rfl
  induction files with
  | nil => rfl
  | cons f rest ih =>
    have hf := hfile f
    simp only [ofFiles_cons, processed_append, skipped_append, unreadable_append,
      List.length_append, List.length_cons]
    omega

/-- An import that is suppressed or a self-import makes no entry. -/
lemma ofImports_of_unrecorded {file : SourceFile} {token : String}
    (h : filter.decide file.module token = .suppressed ∨
      filter.decide file.module token = .selfImport) : ofImports filter file [token] = nil := by
  refine ofImports_of_dropped (fun hkeeps => ?_) fun hexcluded => ?_
  · rw [Filter.decide_eq_keep_iff.2 ⟨hkeeps, rfl⟩] at h
    simp at h
  · rw [Filter.decide_eq_excluded_iff.2 hexcluded] at h
    simp at h

/-- Every import of a file is kept, excluded, suppressed or a self-import.

**Proof sketch.** Induction on the imports. The decision on the first of them says which of the four
numbers goes up by one. -/
lemma length_ofImports (file : SourceFile) (tokens : List String) :
    tokens.length =
      (ofImports filter file tokens).kept.length + (ofImports filter file tokens).excluded.length +
        tokens.countP (fun token => filter.decide file.module token = .suppressed) +
        tokens.countP fun token => filter.decide file.module token = .selfImport := by
  induction tokens with
  | nil => rfl
  | cons token rest ih =>
    rw [ofImports_cons]
    simp only [kept_append, excluded_append, List.length_append, List.length_cons,
      List.countP_cons, decide_eq_true_eq]
    cases hd : filter.decide file.module token with
    | keep kind =>
      rw [ofImports_of_keeps (Filter.decide_eq_keep_iff.1 hd).1]
      simp only [nil, List.length_cons, List.length_nil, reduceCtorEq, if_false]
      omega
    | excluded =>
      rw [ofImports_of_excluded (Filter.decide_eq_excluded_iff.1 hd)]
      simp only [nil, List.length_cons, List.length_nil, reduceCtorEq, if_false]
      omega
    | suppressed =>
      rw [ofImports_of_unrecorded filter (.inl hd)]
      simp only [nil, List.length_nil, reduceCtorEq, if_false, if_true]
      omega
    | selfImport =>
      rw [ofImports_of_unrecorded filter (.inr hd)]
      simp only [nil, List.length_nil, reduceCtorEq, if_false, if_true]
      omega

/-- The imports found in a file, by the decisions on them. -/
lemma found_ofFile (file : FoundFile) :
    (ofFile filter file).found =
      (ofFile filter file).kept.length + (ofFile filter file).excluded.length +
        filter.occurrencesDecided .suppressed file +
        filter.occurrencesDecided .selfImport file := by
  unfold Filter.occurrencesDecided
  obtain ⟨hskip, h⟩ | ⟨hskip, content, hc, h⟩ | ⟨-, _, hc, h⟩ := ofFile_cases filter file
  · cases file.content <;> simp [h, hskip, nil]
  · simp only [h, hc, hskip, Bool.false_eq_true, if_false]
    exact length_ofImports filter
      ⟨file.path, resolveModule filter.rules.modules file.path, importsOfBytes content⟩ _
  · simp [h, hc, nil]

/-- **The imports found in some files, by the decisions on them.** -/
lemma found_ofFiles (files : List FoundFile) :
    (ofFiles filter files).found =
      (ofFiles filter files).kept.length + (ofFiles filter files).excluded.length +
        (files.map (filter.occurrencesDecided .suppressed)).sum +
        (files.map (filter.occurrencesDecided .selfImport)).sum := by
  induction files with
  | nil => rfl
  | cons f rest ih =>
    have hf := found_ofFile filter f
    simp only [ofFiles_cons, found_append, kept_append, excluded_append, List.length_append,
      List.map_cons, List.sum_cons]
    omega

variable {filter} {files : List FoundFile}

/-- Only a name that an exclude pattern matches is entered as excluded. -/
lemma excludesText_of_mem_excluded {token : String}
    (h : token ∈ (ofFiles filter files).excluded) : filter.rules.excludesText token = true := by
  induction files with
  | nil => simp [ofFiles, nil] at h
  | cons f rest ih =>
    rw [ofFiles_cons, excluded_append, List.mem_append] at h
    refine h.elim (fun hf => ?_) ih
    obtain ⟨-, hfile⟩ | ⟨-, _, -, hfile⟩ | ⟨-, _, -, hfile⟩ := ofFile_cases filter f
    · simp [hfile, nil] at hf
    · rw [hfile] at hf
      exact List.of_mem_filter hf
    · simp [hfile, nil] at hf

/-- A file that an exclude pattern leaves out is not entered as unreadable. -/
lemma excludesText_of_mem_unreadable {path : String}
    (h : path ∈ (ofFiles filter files).unreadable) : filter.rules.excludesText path = false := by
  induction files with
  | nil => simp [ofFiles, nil] at h
  | cons f rest ih =>
    rw [ofFiles_cons, unreadable_append, List.mem_append] at h
    refine h.elim (fun hf => ?_) ih
    obtain ⟨-, hfile⟩ | ⟨-, _, -, hfile⟩ | ⟨hskip, _, -, hfile⟩ := ofFile_cases filter f
    · simp [hfile, nil] at hf
    · simp [hfile, ofSource, ofImports] at hf
    · obtain rfl : path = f.path := by simpa [hfile] using hf
      exact hskip

end Ledger

/-! ### What the graph counts -/

/-- A builder that holds some imports counts as many references. -/
lemma GraphBuilder.Holds.sum_counts {b : GraphBuilder} {l : List Edge} (h : b.Holds l) :
    (b.targets.values.map (·.count)).sum = l.length := by
  have hcounts := ((SortedMap.entries_perm h.targets).map (·.2)).map (·.count)
  rw [SortedMap.values, ← List.length_map (·.target), hcounts.sum_eq, List.map_map, List.map_map]
  exact List.sum_map_count_dedup_eq_length _

/-- The modules of both kinds are all targets. -/
lemma ModuleGraph.countOfKind_add (g : ModuleGraph) :
    g.countOfKind .system + g.countOfKind .custom = g.targets.size := by
  have hkind : (fun info : ModuleInfo => info.kind == .custom) =
      fun info => decide ¬(info.kind == .system) = true := by
    funext ⟨kind, _⟩
    cases kind <;> rfl
  rw [countOfKind, countOfKind, hkind, ← List.length_eq_countP_add_countP]
  exact List.length_map _

/-- The modules of a kind are the targets of that kind. -/
lemma ModuleGraph.countOfKind_eq (g : ModuleGraph) (kind : ModuleKind) :
    g.countOfKind kind = (g.targets.entries.filter fun e => e.2.kind = kind).length := by
  rw [countOfKind, SortedMap.values, List.countP_map, List.countP_eq_length_filter]
  rfl

/-! ### Scans -/

/-- The graph of a scan holds the kept imports of its files. -/
lemma holds_scanFiles (plan : ScanPlan) (schedule : Schedule) (failures : Nat) :
    let graph := (scanFiles plan schedule failures).graph
    GraphBuilder.Holds ⟨graph.edges, graph.targets⟩
      (Ledger.ofFiles ⟨plan.rules, plan.includeSystem⟩ schedule.files).kept :=
  (schedule.run_records ⟨plan.rules, plan.includeSystem⟩).builder

/-- The counters of a scan, read off the ledger of its files, the registry and the graph. -/
lemma statistics_scanFiles (plan : ScanPlan) (schedule : Schedule) (failures : Nat) :
    let o := scanFiles plan schedule failures
    let d := Ledger.ofFiles ⟨plan.rules, plan.includeSystem⟩ schedule.files
    o.statistics =
      { filesDiscovered := schedule.files.length
        filesProcessed := d.processed
        filesExcluded := d.skipped
        importsFound := d.found
        qualifyingImports := d.kept.length
        systemModules := o.graph.countOfKind .system
        customModules := o.graph.countOfKind .custom
        projectModules := o.registry.size
        excludedModules := o.statistics.excludedModules
        unreadable := d.unreadable.mergeSort fun a b => (compare a b).isLE } := by
  have hstatistics := (schedule.run_records ⟨plan.rules, plan.includeSystem⟩).statistics
  intro o d
  simp only [o, scanFiles, Statistics.complete]
  rw [hstatistics]
  simp [Statistics.zero, d]

/-- The scan of the files of a schedule is balanced.

**Proof sketch.** The tally of the schedule records the ledger of its files. The laws of the ledger
give those of the counters, and the counters that the end of the scan fills in are sizes and sums
over the graph and the registry. -/
lemma scanFiles_balanced (plan : ScanPlan) (schedule : Schedule) (failures : Nat) :
    (scanFiles plan schedule failures).Balanced ⟨plan.rules, plan.includeSystem⟩
      schedule.files := by
  set filter : Filter := ⟨plan.rules, plan.includeSystem⟩
  set o := scanFiles plan schedule failures
  set d := Ledger.ofFiles filter schedule.files
  have hrecords := schedule.run_records filter
  have hbuilder : GraphBuilder.Holds ⟨o.graph.edges, o.graph.targets⟩ d.kept :=
    holds_scanFiles plan schedule failures
  have hexcluded : o.statistics.excludedModules.Counts d.excluded := hrecords.excluded
  have hregistry : SortedMap.Counts o.registry
      ((schedule.files.map (·.path)).map (resolveModule plan.rules.modules)) :=
    ModuleRegistry.collect_counts _ _
  have hstatistics : o.statistics = _ := statistics_scanFiles plan schedule failures
  exact
    { discovered := by rw [hstatistics]
      accounted := by
        rw [hstatistics, List.length_mergeSort]
        exact (Ledger.length_ofFiles filter schedule.files).symm
      registry := by
        rw [hstatistics]
        simpa using hregistry.sum_values
      projectModules := by rw [hstatistics]
      references := by
        rw [hstatistics]
        exact hbuilder.sum_counts
      systemModules := by
        rw [hstatistics]
        exact o.graph.countOfKind_eq .system
      customModules := by
        rw [hstatistics]
        exact o.graph.countOfKind_eq .custom
      uniqueModules := by
        rw [hstatistics]
        exact o.graph.countOfKind_add
      imports := by
        rw [hexcluded.sum_values, hstatistics]
        exact Ledger.found_ofFiles filter schedule.files
      excluded := fun token n hn => by
        rw [hexcluded token] at hn
        obtain ⟨hmem, rfl⟩ : token ∈ d.excluded ∧ d.excluded.count token = n := by simpa using hn
        have hmatch := Ledger.excludesText_of_mem_excluded hmem
        refine ⟨hmatch, List.one_le_count_iff.2 hmem, ?_⟩
        have htarget : token ∉ d.kept.map (·.target) := by
          intro hin
          obtain ⟨e, he, rfl⟩ := List.mem_map.1 hin
          obtain ⟨_, _, _, _, _, _, hkeeps⟩ := mem_kept_ofFiles.1 he
          simp [hkeeps.1] at hmatch
        have hnone := hbuilder.targets token
        rwa [if_neg htarget] at hnone
      sorted := by
        rw [hstatistics]
        exact pairwise_mergeSort_compare _
      unreadable := fun path hpath => by
        rw [hstatistics, List.mem_mergeSort] at hpath
        exact Ledger.excludesText_of_mem_unreadable hpath }

/-- **Every scan is balanced**: that of any schedule, and for the scan of a file tree with the files
that the walk finds below the root. -/
theorem scan_balanced :
    (∀ (plan : ScanPlan) (schedule : Schedule) (failures : Nat),
      (scanFiles plan schedule failures).Balanced ⟨plan.rules, plan.includeSystem⟩
        schedule.files) ∧
    ∀ (workers : Workers) (tree : FileTree) (plan : ScanPlan),
      match scan workers tree plan with
      | .ok outcome => outcome.Balanced ⟨plan.rules, plan.includeSystem⟩
          (foundFiles tree plan.root plan.noIgnore).1
      | .error e => plan.Fails workers tree e.cause :=
  ⟨scanFiles_balanced, fun workers tree plan => forall_scan (scanFiles_balanced plan) workers tree⟩

end ImportAtlas
