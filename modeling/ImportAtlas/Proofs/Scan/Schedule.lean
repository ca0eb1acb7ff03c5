import ImportAtlas.Proofs.Scan.Endings
import ImportAtlas.Proofs.Scan.Ledger
import Mathlib.Data.List.Sort

/-!
# Schedules of a scan

However the files of a scan are ordered, cut into parts and merged, the outcome is the same. Only
the order of the events can differ.

## Main definitions

* `ImportAtlas.ScanOutcome.Agrees`: two outcomes are the same but for the order of events.

## Main results

* `ImportAtlas.ModuleRegistry.collect_counts`: the registry counts the files of each module.
* `ImportAtlas.Tally.Records.statistics_complete`: the counters at the end of a scan depend on what
  was recorded, and not on its order.
* `ImportAtlas.scan_schedule_independent`: every schedule of the files gives the same outcome, and
  so does every number of workers that start.
-/

namespace ImportAtlas

/-- Two outcomes are the same but for the order of events. -/
structure ScanOutcome.Agrees (o p : ScanOutcome) : Prop where
  /-- The graphs are equal. -/
  graph : o.graph = p.graph
  /-- All counters are equal, with the tally of excluded modules and the unreadable files. -/
  statistics : o.statistics = p.statistics
  /-- The registries are equal. -/
  registry : o.registry = p.registry
  /-- The same events happened. -/
  events : o.events.Perm p.events

/-! ### What does not depend on the order -/

/-- The registry of some paths counts how many of them each module has. -/
lemma ModuleRegistry.collect_counts (rules : List ModuleRule) (paths : List String) :
    (ModuleRegistry.collect rules paths).Counts (paths.map (resolveModule rules)) := by
  have hfold : ∀ (m : ModuleRegistry) (l : List String), m.Counts l →
      (paths.foldl (fun m path => m.adjust (resolveModule rules path) fun n => n.getD 0 + 1)
        m).Counts (l ++ paths.map (resolveModule rules)) := by
    induction paths with
    | nil =>
      intro m l h
      simpa using h
    | cons path rest ih =>
      intro m l h
      have hrest := ih _ _ (h.add (resolveModule rules path))
      rwa [List.append_assoc] at hrest
  exact hfold ∅ [] .empty

/-- Sorting sorts. -/
lemma pairwise_mergeSort_compare (l : List String) :
    (l.mergeSort fun a b => (compare a b).isLE).Pairwise fun a b => (compare a b).isLE = true :=
  List.pairwise_mergeSort (fun _ _ _ => Std.TransCmp.isLE_trans)
    (fun a b => by
      rw [@Std.OrientedCmp.eq_swap String compare _ b]
      cases compare a b <;> rfl)
    l

/-- A part of a list sorts to a part of the sorted list. -/
lemma mergeSort_sublist {l l' : List String} (h : l.Subperm l') :
    (l.mergeSort fun a b => (compare a b).isLE).Sublist
      (l'.mergeSort fun a b => (compare a b).isLE) := by
  have hantisymm : Std.Antisymm fun a b : String => (compare a b).isLE = true :=
    ⟨fun _ _ hab hba => Std.LawfulEqCmp.eq_of_compare (Std.OrientedCmp.isLE_antisymm hab hba)⟩
  have hsorted := (List.mergeSort_perm l fun a b => (compare a b).isLE).subperm.trans h
  have hsorted' := (List.mergeSort_perm l' fun a b => (compare a b).isLE).symm.subperm
  exact List.sublist_of_subperm_of_pairwise (hsorted.trans hsorted') (pairwise_mergeSort_compare l)
    (pairwise_mergeSort_compare l')

/-- Sorting does not see the order of a list. -/
lemma mergeSort_eq_of_perm {l l' : List String} (h : l.Perm l') :
    l.mergeSort (fun a b => (compare a b).isLE) = l'.mergeSort fun a b => (compare a b).isLE :=
  (mergeSort_sublist h.subperm).antisymm (mergeSort_sublist h.symm.subperm)

/-- **The counters at the end of a scan depend on what was recorded, and not on its order.** -/
lemma Tally.Records.statistics_complete {s t : Tally} {d e : Ledger} (h : s.Records d)
    (h' : t.Records e) (hsame : d.Same e) (discovered : Nat) (registry : ModuleRegistry)
    (graph : ModuleGraph) :
    s.statistics.complete discovered registry graph =
      t.statistics.complete discovered registry graph := by
  have hexcluded : s.statistics.excludedModules = t.statistics.excludedModules :=
    h.excluded.eq_of_perm h'.excluded hsame.excluded
  rw [Statistics.complete, Statistics.complete, h.statistics, h'.statistics, hexcluded,
    hsame.processed, hsame.skipped, hsame.found, hsame.kept.length_eq,
    mergeSort_eq_of_perm hsame.unreadable]

/-! ### Outcomes -/

/-- Schedules of the same files, in whatever order, have the same outcome.

**Proof sketch.** The tallies of the two schedules record ledgers that agree but for the order of
their entries. So the builders are equal, the counters become equal at the end, and the registries
count the same paths. -/
lemma scanFiles_agrees (plan : ScanPlan) (failures : Nat) {s t : Schedule}
    (h : s.files.Perm t.files) :
    (scanFiles plan s failures).Agrees (scanFiles plan t failures) := by
  set filter : Filter := ⟨plan.rules, plan.includeSystem⟩
  have hs := s.run_records filter
  have ht := t.run_records filter
  have hsame := Ledger.ofFiles_perm filter h
  have hbuilder : (s.run filter).builder = (t.run filter).builder :=
    hs.builder.eq_of_perm ht.builder hsame.kept
  have hpaths := h.map (·.path)
  have hregistry : plan.registry s.files = plan.registry t.files :=
    (ModuleRegistry.collect_counts _ _).eq_of_perm (ModuleRegistry.collect_counts _ _)
      (hpaths.map _)
  have hstatistics := hs.statistics_complete ht hsame
  have hevents : (s.run filter).events.Perm (t.run filter).events := by
    rw [hs.events, ht.events]
    exact hsame.events
  exact
    { graph := by simp only [scanFiles, filter, hbuilder]
      statistics := by
        simp only [scanFiles]
        rw [hbuilder, hregistry, h.length_eq, hstatistics]
      registry := hregistry
      events := by
        simp only [scanFiles, ScanPlan.opening]
        rw [hbuilder, hregistry, h.length_eq, hstatistics]
        exact (hevents.append_left _).append_right _ }

/-- **Every schedule gives the same outcome.** Whatever order the files come in, however they are
cut into parts, empty parts included, and in whatever tree the parts are merged, the outcome is that
of the files folded one by one in their order. So the number of workers does not matter to the scan
of a file tree, as long as the system starts them. -/
theorem scan_schedule_independent :
    (∀ (plan : ScanPlan) (failures : Nat) (files : List FoundFile) (schedule : Schedule),
      schedule.files.Perm files →
        (scanFiles plan schedule failures).Agrees (scanFiles plan (.part files) failures)) ∧
    ∀ (workers : Workers) (tree : FileTree) (plan : ScanPlan) (jobs : Nat),
      plan.start workers = .ok () → { plan with jobs := jobs }.start workers = .ok () →
        match scan workers tree plan, scan workers tree { plan with jobs := jobs } with
        | .ok one, .ok other => one.Agrees other
        | .error e, .error e' => e = e'
        | _, _ => False := by
  refine ⟨fun plan failures files schedule h => scanFiles_agrees plan failures h,
    fun workers tree plan jobs hstart hstart' => ?_⟩
  exact forall_scan_jobs hstart hstart'
    (fun s t failures h => scanFiles_agrees plan failures h) tree

/-- Two files that import each other and one that cannot be read, folded in two parts with an empty
part between them, in reverse order; and the scan of an empty tree by four workers and by two, on a
system that starts no more than four. -/
theorem scan_schedule_independent_reversed :
    let a : FoundFile := ⟨"A/a.swift", .ok (Utf8.encode "import B".toList)⟩
    let b : FoundFile := ⟨"B/b.swift", .ok (Utf8.encode "import A".toList)⟩
    let c : FoundFile := ⟨"C/c.swift", .error .permissionDenied⟩
    let schedule : Schedule := .join (.part [c, b]) (.join (.part []) (.part [a]))
    let plan : ScanPlan := ⟨".", .empty, false, false, 2⟩
    schedule.files.Perm [a, b, c] ∧
      (scanFiles plan schedule 0).Agrees (scanFiles plan (.part [a, b, c]) 0) ∧
      plan.start (.upTo 4) = .ok () ∧ { plan with jobs := 4 }.start (.upTo 4) = .ok () ∧
      match scan (.upTo 4) (.bare []) plan, scan (.upTo 4) (.bare []) { plan with jobs := 4 } with
      | .ok one, .ok other => one.Agrees other
      | .error e, .error e' => e = e'
      | _, _ => False := by
  intro a b c schedule plan
  have hfiles : schedule.files.Perm [a, b, c] := List.reverse_perm [a, b, c]
  exact ⟨hfiles, scan_schedule_independent.1 plan 0 [a, b, c] schedule hfiles, rfl, rfl,
    scan_schedule_independent.2 (.upTo 4) (.bare []) plan 4 rfl rfl⟩

end ImportAtlas
