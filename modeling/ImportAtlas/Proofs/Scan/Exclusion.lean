import ImportAtlas.Proofs.Rules.Validity
import ImportAtlas.Proofs.Scan.Conservation

/-!
# More exclude patterns

An exclude pattern acts on whole files by their paths and on single imports by their names. More
patterns move files from those that are read to those that are left out, and imports from those that
are kept to those that are not, and never the other way round.

## Main definitions

* `ImportAtlas.Filter.KeepsAt`: the import at some place in a file is kept.
* `ImportAtlas.Ledger.Within`: a ledger has only entries that another one has.
* `ImportAtlas.ScanOutcome.Within`: an outcome is a part of another one.

## Main results

* `ImportAtlas.Filter.keepsAt_iff`: which imports more patterns keep.
* `ImportAtlas.Ledger.ofFiles_within`: more patterns, fewer entries.
* `ImportAtlas.Schedule.run_congr`: patterns count by what they match, not by order or repetition.
* `ImportAtlas.scan_excludes_monotone`: the outcomes of two scans, one with more patterns.
-/

namespace ImportAtlas

/-! ### Imports in a file -/

/-- The import at a place among the imports of a file, if the file can be read. -/
def FoundFile.importAt? (file : FoundFile) (place : Nat) : Option String :=
  match file.content with
  | .ok content => (importsOfBytes content)[place]?
  | .error _ => none

/-- The import at a place in a file is kept: the file is not left out, and the decision on what
stands there is to keep it. -/
def Filter.KeepsAt (filter : Filter) (file : FoundFile) (place : Nat) : Prop :=
  filter.skipsFile file.path = false ∧ ∃ token kind, file.importAt? place = some token ∧
    filter.decide (resolveModule filter.rules.modules file.path) token = .keep kind

/-- The plan with other exclude patterns. -/
def ScanPlan.excluding (plan : ScanPlan) (excludes : List ExcludeRule) : ScanPlan :=
  { plan with rules := { plan.rules with excludes := excludes } }

/-- The filter of a plan. -/
def ScanPlan.filter (plan : ScanPlan) : Filter := ⟨plan.rules, plan.includeSystem⟩

/-! ### Outcomes -/

/-- An outcome is a part of another one, found in the same files. -/
structure ScanOutcome.Within (o' o : ScanOutcome) : Prop where
  /-- Every edge is an edge of the other graph. -/
  edges : ∀ e ∈ o'.graph.edges, e ∈ o.graph.edges
  /-- Every source is a source of the other graph. -/
  sources : ∀ module ∈ o'.graph.sources, module ∈ o.graph.sources
  /-- Every target is a target of the other graph, of the same kind and with no smaller count. -/
  targets : ∀ token info', o'.graph.targets.find? token = some info' →
    ∃ info, o.graph.targets.find? token = some info ∧ info'.kind = info.kind ∧
      info'.count ≤ info.count
  /-- The unreadable files are among those of the other scan, each at most as often. -/
  unreadable : o'.statistics.unreadable.Sublist o.statistics.unreadable
  /-- No more files are read. -/
  processed : o'.statistics.filesProcessed ≤ o.statistics.filesProcessed
  /-- No fewer files are left out. -/
  excluded : o.statistics.filesExcluded ≤ o'.statistics.filesExcluded
  /-- As many files are discovered. -/
  discovered : o'.statistics.filesDiscovered = o.statistics.filesDiscovered
  /-- The registry is the same. -/
  registry : o'.registry = o.registry

/-- Two outcomes have the same graph, the same counters and the same registry. -/
structure ScanOutcome.Alike (o o' : ScanOutcome) : Prop where
  /-- The graphs are equal. -/
  graph : o.graph = o'.graph
  /-- All counters are equal. -/
  statistics : o.statistics = o'.statistics
  /-- The registries are equal. -/
  registry : o.registry = o'.registry

/-! ### Decisions -/

section Decisions

variable {modules : List ModuleRule} {few many : List ExcludeRule} {includeSystem : Bool}

/-- What some patterns leave out, more patterns leave out. -/
lemma RuleSet.excludesText_mono (h : ∀ rule ∈ few, rule ∈ many) {text : String}
    (hfew : RuleSet.excludesText ⟨modules, few⟩ text = true) :
    RuleSet.excludesText ⟨modules, many⟩ text = true := by
  obtain ⟨rule, hrule, hmatch⟩ := List.any_eq_true.1 hfew
  exact List.any_eq_true.2 ⟨rule, h rule hrule, hmatch⟩

/-- What more patterns do not leave out, some of them do not leave out. -/
lemma RuleSet.excludesText_anti (h : ∀ rule ∈ few, rule ∈ many) {text : String}
    (hmany : RuleSet.excludesText ⟨modules, many⟩ text = false) :
    RuleSet.excludesText ⟨modules, few⟩ text = false := by
  by_contra hfew
  rw [Bool.not_eq_false] at hfew
  rw [excludesText_mono h hfew] at hmany
  cases hmany

/-- An import is kept under more patterns just if it is kept under some of them and none of them
matches its name. -/
lemma Filter.keeps_iff_of_subset (h : ∀ rule ∈ few, rule ∈ many) {e : Edge} :
    Filter.Keeps ⟨⟨modules, many⟩, includeSystem⟩ e ↔
      Filter.Keeps ⟨⟨modules, few⟩, includeSystem⟩ e ∧
        RuleSet.excludesText ⟨modules, many⟩ e.target = false := by
  constructor
  · rintro ⟨hmany, hkind, hself⟩
    exact ⟨⟨RuleSet.excludesText_anti h hmany, hkind, hself⟩, hmany⟩
  · rintro ⟨⟨-, hkind, hself⟩, hmany⟩
    exact ⟨hmany, hkind, hself⟩

/-- **Which imports more patterns keep**: those that some of them keep, where no pattern matches the
path of the file or the name of the import. -/
lemma Filter.keepsAt_iff (h : ∀ rule ∈ few, rule ∈ many) (file : FoundFile) (place : Nat) :
    Filter.KeepsAt ⟨⟨modules, many⟩, includeSystem⟩ file place ↔
      Filter.KeepsAt ⟨⟨modules, few⟩, includeSystem⟩ file place ∧
        (∀ rule ∈ many, rule.isMatch file.path = false) ∧
        ∀ token, file.importAt? place = some token → ∀ rule ∈ many, rule.isMatch token = false := by
  have hmatch : ∀ text, (∀ rule ∈ many, rule.isMatch text = false) ↔
      RuleSet.excludesText ⟨modules, many⟩ text = false := fun text =>
    (RuleSet.excludesText_eq_false_iff ⟨modules, many⟩ text).symm
  simp only [hmatch, KeepsAt, skipsFile, decide_eq_keep_iff, keeps_iff_of_subset h]
  constructor
  · rintro ⟨hpath, token, kind, htoken, ⟨hfew, hname⟩, hkind⟩
    refine ⟨⟨RuleSet.excludesText_anti h hpath, token, kind, htoken, hfew, hkind⟩, hpath, ?_⟩
    intro token' htoken'
    obtain rfl := Option.some.inj (htoken.symm.trans htoken')
    exact hname
  · rintro ⟨⟨-, token, kind, htoken, hfew, hkind⟩, hpath, hname⟩
    exact ⟨hpath, token, kind, htoken, ⟨hfew, hname token htoken⟩, hkind⟩

end Decisions

/-! ### Ledgers -/

namespace Ledger

/-- A ledger has only entries that another one has, but for the files that it leaves out. -/
structure Within (d' d : Ledger) : Prop where
  /-- The kept imports are a part of those of the other ledger. -/
  kept : d'.kept.Sublist d.kept
  /-- The unreadable files are a part of those of the other ledger. -/
  unreadable : d'.unreadable.Sublist d.unreadable
  /-- No more files are read. -/
  processed : d'.processed ≤ d.processed
  /-- No fewer files are left out. -/
  skipped : d.skipped ≤ d'.skipped

lemma Within.refl (d : Ledger) : d.Within d := ⟨.refl _, .refl _, le_rfl, le_rfl⟩

/-- Ledgers that are parts of others piece by piece are a part as a whole. -/
lemma Within.append {d d' e e' : Ledger} (h : d'.Within d) (h' : e'.Within e) :
    (d' ++ e').Within (d ++ e) where
  kept := h.kept.append h'.kept
  unreadable := h.unreadable.append h'.unreadable
  processed := Nat.add_le_add h.processed h'.processed
  skipped := Nat.add_le_add h.skipped h'.skipped

variable {modules : List ModuleRule} {few many : List ExcludeRule} {includeSystem : Bool}

/-- **More patterns, fewer entries of a file.**

**Proof sketch.** A file that more patterns leave out has no entry but that one. A file that they do
not leave out is not left out by some of them either, so it is read or unreadable under both, and
the imports that more patterns keep are among those that some of them keep. -/
lemma ofFile_within (h : ∀ rule ∈ few, rule ∈ many) (file : FoundFile) :
    (ofFile ⟨⟨modules, many⟩, includeSystem⟩ file).Within
      (ofFile ⟨⟨modules, few⟩, includeSystem⟩ file) := by
  cases hmany : RuleSet.excludesText ⟨modules, many⟩ file.path with
  | true =>
    have hskip : ofFile ⟨⟨modules, many⟩, includeSystem⟩ file =
        { nil with skipped := 1, events := [.fileExcluded file.path] } := if_pos hmany
    have hone : (ofFile ⟨⟨modules, few⟩, includeSystem⟩ file).skipped ≤ 1 := by
      obtain ⟨-, hd⟩ | ⟨-, _, -, hd⟩ | ⟨-, _, -, hd⟩ :=
        ofFile_cases ⟨⟨modules, few⟩, includeSystem⟩ file
      · rw [hd]
      · rw [hd]
        exact Nat.zero_le 1
      · rw [hd]
        exact Nat.zero_le 1
    rw [hskip]
    exact ⟨List.nil_sublist _, List.nil_sublist _, Nat.zero_le _, hone⟩
  | false =>
    have hfew := RuleSet.excludesText_anti h hmany
    unfold ofFile Filter.skipsFile
    rw [if_neg (by simp [hmany]), if_neg (by simp [hfew])]
    cases file.content with
    | error cause => exact .refl _
    | ok content =>
      refine ⟨?_, .refl _, le_rfl, le_rfl⟩
      apply List.monotone_filter_right
      intro e he
      rw [decide_eq_true_eq] at he ⊢
      exact ((Filter.keeps_iff_of_subset h).1 he).1

/-- **More patterns, fewer entries.** -/
lemma ofFiles_within (h : ∀ rule ∈ few, rule ∈ many) (files : List FoundFile) :
    (ofFiles ⟨⟨modules, many⟩, includeSystem⟩ files).Within
      (ofFiles ⟨⟨modules, few⟩, includeSystem⟩ files) := by
  induction files with
  | nil => exact .refl _
  | cons file rest ih =>
    rw [ofFiles_cons, ofFiles_cons]
    exact (ofFile_within h file).append ih

end Ledger

/-! ### Graphs -/

namespace GraphBuilder.Holds

variable {b c : GraphBuilder} {l l' : List Edge}

/-- A builder that holds a part of the imports has a part of the edges. -/
lemma mem_edges_of_sublist (h : b.Holds l) (h' : c.Holds l') (hl : l'.Sublist l) {e : Edge}
    (he : e ∈ c.edges) : e ∈ b.edges := by
  obtain ⟨hmem, hproper⟩ := (h'.edges e).1 he
  exact (h.edges e).2 ⟨hl.subset hmem, hproper⟩

/-- A builder that holds a part of the imports has a part of the targets, with smaller counts. -/
lemma find?_of_sublist (h : b.Holds l) (h' : c.Holds l') (hl : l'.Sublist l) {token : String}
    {info' : ModuleInfo} (hinfo' : c.targets.find? token = some info') :
    ∃ info, b.targets.find? token = some info ∧ info'.kind = info.kind ∧
      info'.count ≤ info.count := by
  have hnames := hl.map (·.target)
  rw [h'.targets] at hinfo'
  split at hinfo'
  · rename_i hmem
    obtain rfl := Option.some.inj hinfo'
    exact ⟨_, (h.targets token).trans (if_pos (hnames.subset hmem)), rfl, hnames.count_le token⟩
  · cases hinfo'

end GraphBuilder.Holds

/-! ### Equal patterns -/

section Alike

variable {filter filter' : Filter}

/-- What becomes of an import depends on the patterns through what they match. -/
lemma Filter.decide_congr (hsystem : filter.includeSystem = filter'.includeSystem)
    (htext : ∀ text, filter.rules.excludesText text = filter'.rules.excludesText text)
    (module token : String) : filter.decide module token = filter'.decide module token := by
  unfold Filter.decide
  rw [hsystem, htext]

/-- So does what a file adds to a tally. -/
lemma Tally.foldFile_congr (hmodules : filter.rules.modules = filter'.rules.modules)
    (hsystem : filter.includeSystem = filter'.includeSystem)
    (htext : ∀ text, filter.rules.excludesText text = filter'.rules.excludesText text)
    (t : Tally) (file : FoundFile) : t.foldFile filter file = t.foldFile filter' file := by
  have himport : ∀ source, Tally.foldImport filter source = Tally.foldImport filter' source := by
    intro source
    funext t token
    unfold Tally.foldImport
    rw [Filter.decide_congr hsystem htext]
  unfold Tally.foldFile Filter.skipsFile Tally.foldSource
  simp only [himport, htext, hmodules]

/-- **Patterns count by what they match**, whatever their order and repetitions. -/
lemma Schedule.run_congr (hmodules : filter.rules.modules = filter'.rules.modules)
    (hsystem : filter.includeSystem = filter'.includeSystem)
    (htext : ∀ text, filter.rules.excludesText text = filter'.rules.excludesText text)
    (s : Schedule) : s.run filter = s.run filter' := by
  induction s with
  | part files =>
    have hfile : Tally.foldFile filter = Tally.foldFile filter' := by
      funext t file
      exact Tally.foldFile_congr hmodules hsystem htext t file
    rw [Schedule.run, Schedule.run, hfile]
  | join left right hleft hright => rw [Schedule.run, Schedule.run, hleft, hright]

end Alike

/-- Two lists of the same patterns leave out the same texts. -/
lemma RuleSet.excludesText_congr {modules : List ModuleRule} {few many : List ExcludeRule}
    (h : ∀ rule ∈ few, rule ∈ many) (h' : ∀ rule ∈ many, rule ∈ few) (text : String) :
    RuleSet.excludesText ⟨modules, many⟩ text = RuleSet.excludesText ⟨modules, few⟩ text := by
  rw [Bool.eq_iff_iff]
  exact ⟨excludesText_mono h', excludesText_mono h⟩

/-! ### Scans -/

section Scans

variable {few many : List ExcludeRule} {plan : ScanPlan} {s t : Schedule}

/-- The scan of a schedule with more patterns, beside the scan of the same schedule with some of
them.

**Proof sketch.** The ledger with more patterns is a part of the other ledger. Graph and counters
are read off the ledgers, the registry off the paths of all files. -/
lemma scanFiles_within (h : ∀ rule ∈ few, rule ∈ many) (plan : ScanPlan) (s : Schedule)
    (failures : Nat) :
    (scanFiles (plan.excluding many) s failures).Within
      (scanFiles (plan.excluding few) s failures) := by
  set o := scanFiles (plan.excluding few) s failures
  set o' := scanFiles (plan.excluding many) s failures
  have hbuilder : GraphBuilder.Holds ⟨o.graph.edges, o.graph.targets⟩ _ :=
    holds_scanFiles (plan.excluding few) s failures
  have hbuilder' : GraphBuilder.Holds ⟨o'.graph.edges, o'.graph.targets⟩ _ :=
    holds_scanFiles (plan.excluding many) s failures
  have hreports : o.graph.Reports (plan.excluding few).filter s.files := hbuilder.reports
  have hreports' : o'.graph.Reports (plan.excluding many).filter s.files := hbuilder'.reports
  have hstatistics : o.statistics = _ := statistics_scanFiles (plan.excluding few) s failures
  have hstatistics' : o'.statistics = _ := statistics_scanFiles (plan.excluding many) s failures
  have hwithin : (Ledger.ofFiles (plan.excluding many).filter s.files).Within
      (Ledger.ofFiles (plan.excluding few).filter s.files) := Ledger.ofFiles_within h s.files
  have hedges : ∀ e ∈ o'.graph.edges, e ∈ o.graph.edges := fun e he =>
    hbuilder.mem_edges_of_sublist hbuilder' hwithin.kept he
  exact
    { edges := hedges
      sources := by
        intro module hmodule
        obtain ⟨e, he, hsource⟩ := (hreports'.sources module).1 hmodule
        exact (hreports.sources module).2 ⟨e, hedges e he, hsource⟩
      targets := fun token info' hinfo' =>
        hbuilder.find?_of_sublist hbuilder' hwithin.kept hinfo'
      unreadable := by
        rw [hstatistics, hstatistics']
        exact mergeSort_sublist hwithin.unreadable.subperm
      processed := by
        rw [hstatistics, hstatistics']
        exact hwithin.processed
      excluded := by
        rw [hstatistics, hstatistics']
        exact hwithin.skipped
      discovered := by rw [hstatistics, hstatistics']
      registry := rfl }

/-- An outcome that agrees with a part of an outcome is a part of it. -/
lemma ScanOutcome.Within.of_agrees {o o' o'' : ScanOutcome} (h : o''.Agrees o')
    (h' : o'.Within o) : o''.Within o where
  edges := h.graph ▸ h'.edges
  sources := h.graph ▸ h'.sources
  targets := h.graph ▸ h'.targets
  unreadable := h.statistics ▸ h'.unreadable
  processed := h.statistics ▸ h'.processed
  excluded := h.statistics ▸ h'.excluded
  discovered := h.statistics ▸ h'.discovered
  registry := h.registry.trans h'.registry

/-- Two schedules of the same files, scanned with the same patterns in some order and with some
repetitions. -/
lemma scanFiles_alike (h : ∀ rule ∈ few, rule ∈ many) (h' : ∀ rule ∈ many, rule ∈ few)
    (hfiles : s.files.Perm t.files) (failures : Nat) :
    (scanFiles (plan.excluding many) s failures).Alike
      (scanFiles (plan.excluding few) t failures) := by
  have hagrees := scanFiles_agrees (plan.excluding many) failures hfiles
  have hrun : t.run (plan.excluding many).filter = t.run (plan.excluding few).filter := by
    apply Schedule.run_congr
    · rfl
    · rfl
    · exact RuleSet.excludesText_congr h h'
  have hgraph : (scanFiles (plan.excluding many) t failures).graph =
      (scanFiles (plan.excluding few) t failures).graph :=
    congrArg (fun tally : Tally => tally.builder.finish) hrun
  have hstatistics : (scanFiles (plan.excluding many) t failures).statistics =
      (scanFiles (plan.excluding few) t failures).statistics := by
    set registry := ModuleRegistry.collect plan.rules.modules (t.files.map FoundFile.path)
    exact congrArg (fun tally : Tally =>
      tally.statistics.complete t.files.length registry tally.builder.finish) hrun
  exact ⟨hagrees.graph.trans hgraph, hagrees.statistics.trans hstatistics, hagrees.registry⟩

end Scans

/-- **More exclude patterns never add anything to a scan.** With more patterns the outcome is a part
of the outcome with some of them, for any two schedules of the same files and for the two scans of a
file tree. An import is kept under more patterns just if it is kept under some of them and none of
them matches the path of its file or its own name. If both lists have the same patterns, in whatever
order and with whatever repetitions, the outcomes are alike.

**Proof sketch.** Two schedules of the same files agree, so it is enough to compare two scans of one
schedule. The two scans of a tree find the same files, since the patterns are not asked before a
file is folded. -/
theorem scan_excludes_monotone (few many : List ExcludeRule) (h : ∀ rule ∈ few, rule ∈ many)
    (plan : ScanPlan) :
    (∀ (s t : Schedule) (failures : Nat), s.files.Perm t.files →
      (scanFiles (plan.excluding many) s failures).Within
          (scanFiles (plan.excluding few) t failures) ∧
        ((∀ rule ∈ many, rule ∈ few) → (scanFiles (plan.excluding many) s failures).Alike
          (scanFiles (plan.excluding few) t failures))) ∧
    (∀ (file : FoundFile) (place : Nat), (plan.excluding many).filter.KeepsAt file place ↔
      (plan.excluding few).filter.KeepsAt file place ∧
        (∀ rule ∈ many, rule.isMatch file.path = false) ∧
        ∀ token, file.importAt? place = some token →
          ∀ rule ∈ many, rule.isMatch token = false) ∧
    ∀ (workers : Workers) (tree : FileTree),
      match scan workers tree (plan.excluding many), scan workers tree (plan.excluding few) with
      | .ok o', .ok o => o'.Within o ∧ ((∀ rule ∈ many, rule ∈ few) → o'.Alike o)
      | .error e', .error e => e'.cause = e.cause
      | _, _ => False := by
  have hscans : ∀ (s t : Schedule) (failures : Nat), s.files.Perm t.files →
      (scanFiles (plan.excluding many) s failures).Within
          (scanFiles (plan.excluding few) t failures) ∧
        ((∀ rule ∈ many, rule ∈ few) → (scanFiles (plan.excluding many) s failures).Alike
          (scanFiles (plan.excluding few) t failures)) := by
    intro s t failures hfiles
    have hagrees := scanFiles_agrees (plan.excluding many) failures hfiles
    exact ⟨.of_agrees hagrees (scanFiles_within h plan t failures),
      fun h' => scanFiles_alike h h' hfiles failures⟩
  refine ⟨hscans, Filter.keepsAt_iff h, fun workers tree => ?_⟩
  exact forall_scan_pair (p := plan.excluding many) (q := plan.excluding few)
    (P := fun o' o => o'.Within o ∧ ((∀ rule ∈ many, rule ∈ few) → o'.Alike o)) rfl rfl rfl hscans
    tree

/-- A pattern for test files and one for a module, the second of them added and repeated. -/
theorem scan_excludes_monotone_tests :
    ∃ tests kit, ExcludeRule.compile "*Tests/*" = .ok tests ∧ ExcludeRule.compile "Kit" = .ok kit ∧
      let a : FoundFile := ⟨"A/a.swift", .ok (Utf8.encode "import Kit\nimport B".toList)⟩
      let b : FoundFile := ⟨"BTests/b.swift", .ok (Utf8.encode "import A".toList)⟩
      let plan : ScanPlan := ⟨".", .empty, false, false, 2⟩
      let parts : Schedule := .join (.part [b]) (.part [a])
      parts.files.Perm [a, b] ∧
        (scanFiles (plan.excluding [kit, tests, kit]) parts 0).Within
          (scanFiles (plan.excluding [tests]) (.part [a, b]) 0) ∧
        (scanFiles (plan.excluding [kit, tests, kit]) parts 0).Alike
          (scanFiles (plan.excluding [tests, kit]) (.part [a, b]) 0) := by
  obtain ⟨tests, htests⟩ := ExcludeRule.exists_compile_of_length_le "*Tests/*" (by decide)
  obtain ⟨kit, hkit⟩ := ExcludeRule.exists_compile_of_length_le "Kit" (by decide)
  refine ⟨tests, kit, htests, hkit, ?_⟩
  intro a b plan parts
  have hfiles : parts.files.Perm [a, b] := List.reverse_perm [a, b]
  have hmore := scan_excludes_monotone [tests] [kit, tests, kit] (by simp) plan
  have hsame := scan_excludes_monotone [tests, kit] [kit, tests, kit] (by simp) plan
  exact ⟨hfiles, (hmore.1 parts (.part [a, b]) 0 hfiles).1,
    (hsame.1 parts (.part [a, b]) 0 hfiles).2 (by simp)⟩

end ImportAtlas
