import ImportAtlas.Proofs.Discovery.Exact
import ImportAtlas.Proofs.Path.Relative
import ImportAtlas.Proofs.Rules.Validity
import ImportAtlas.Proofs.Scan.Conservation

/-!
# The events of a scan agree with its counters

Events and counters are written down by separate statements, and only the counters are merged by
adding. They tell the same all the same: what is excluded, left out or unreadable has as many events
as the counters say, and no file has events of two kinds.

## Main definitions

* `ImportAtlas.Event.file?`: the file that an event is about.
* `ImportAtlas.Filter.eventsOf`: the events that a file gives by itself.
* `ImportAtlas.Event.OneKind`: all events of a file are of one kind.
* `ImportAtlas.ScanOutcome.Logged`: the events of a scan agree with its counters.
* `ImportAtlas.Ledger.Told`: the entries of a ledger can be read off its events.

## Main results

* `ImportAtlas.Ledger.told_ofFiles`: the entries of all files can be read off their events.
* `ImportAtlas.Ledger.oneKind_filter`: the events about a path are of one kind, if no two files
  share the path.
* `ImportAtlas.filterMap_events_scanFiles`: what the events of a scan say about files.
* `ImportAtlas.nodup_foundFiles`: no two files of a walk have the same path below the root.
* `ImportAtlas.scan_logged`: every scan has events that agree with its counters, and the same events
  in whatever order its files are folded.
-/

namespace ImportAtlas

/-! ### What events are about -/

namespace Event

/-- The module whose import an event says was left out. -/
def excludedModule? : Event → Option String
  | .importExcluded module _ => some module
  | _ => none

/-- The file that an event says was left out. -/
def excludedFile? : Event → Option String
  | .fileExcluded file => some file
  | _ => none

/-- The file that an event says could not be read. -/
def unreadableFile? : Event → Option String
  | .fileUnreadable file _ => some file
  | _ => none

/-- The file that an event is about. -/
def file? : Event → Option String
  | .importExcluded _ file => some file
  | .fileExcluded file => some file
  | .fileUnreadable file _ => some file
  | _ => none

/-- An event that is about no file tells of nothing that was left out or unreadable. -/
lemma eq_none_of_file? {e : Event} (h : e.file? = none) :
    e.excludedModule? = none ∧ e.excludedFile? = none ∧ e.unreadableFile? = none := by
  cases e <;> first | exact ⟨rfl, rfl, rfl⟩ | cases h

/-- All events about a path are of one kind: the file was left out, it could not be read, or imports
of it were left out, if anything at all happened. -/
def OneKind (path : String) (events : List Event) : Prop :=
  events = [.fileExcluded path] ∨ (∃ cause, events = [.fileUnreadable path cause]) ∨
    ∃ modules : List String, events = modules.map (.importExcluded · path)

/-- Events of one kind are about the path. -/
lemma OneKind.file?_eq {path : String} {events : List Event} {e : Event} (h : OneKind path events)
    (he : e ∈ events) : e.file? = some path := by
  obtain rfl | ⟨cause, rfl⟩ | ⟨modules, rfl⟩ := h
  · obtain rfl := List.mem_singleton.1 he
    rfl
  · obtain rfl := List.mem_singleton.1 he
    rfl
  · obtain ⟨module, -, rfl⟩ := List.mem_map.1 he
    rfl

end Event

/-- The events that a file gives by itself. -/
def Filter.eventsOf (filter : Filter) (file : FoundFile) : List Event :=
  (Tally.empty.foldFile filter file).events

/-- The events of a scan of some files agree with its counters. -/
structure ScanOutcome.Logged (o : ScanOutcome) (filter : Filter) (files : List FoundFile) :
    Prop where
  /-- Each file gives its own events, whatever other files there are, and no other event is about a
  file. -/
  shares : ∃ others : List Event, (∀ e ∈ others, e.file? = none) ∧
    o.events.Perm (files.flatMap filter.eventsOf ++ others)
  /-- An excluded module is counted as often as events tell of its imports. -/
  imports : o.statistics.excludedModules.Counts (o.events.filterMap Event.excludedModule?)
  /-- Events tell of just the files that an exclude pattern leaves out. -/
  excluded : (o.events.filterMap Event.excludedFile?).Perm
    ((files.filter fun file => filter.skipsFile file.path).map (·.path))
  /-- There are as many of them as are counted. -/
  skipped : o.statistics.filesExcluded = (o.events.filterMap Event.excludedFile?).length
  /-- Events tell of just the files that are counted as unreadable. -/
  unreadable : (o.events.filterMap Event.unreadableFile?).Perm o.statistics.unreadable
  /-- No file gives events of two kinds. -/
  oneKind : ∀ file ∈ files, Event.OneKind file.path (filter.eventsOf file)
  /-- If no two files have the same path, no path has events of two kinds. -/
  oneKindOf : (files.map (·.path)).Nodup → ∀ path,
    Event.OneKind path (o.events.filter fun e => e.file? = some path)

/-! ### The events of a ledger -/

namespace Ledger

variable (filter : Filter)

/-- The events that a file gives by itself are those of its ledger. -/
lemma eventsOf_eq (file : FoundFile) : filter.eventsOf file = (ofFile filter file).events := by
  have hrecords := Tally.Records.empty.foldFile filter file
  rw [nil_append] at hrecords
  exact hrecords.events

/-- The events of some files are those that each of them gives by itself. -/
lemma events_ofFiles (files : List FoundFile) :
    (ofFiles filter files).events = files.flatMap filter.eventsOf := by
  induction files with
  | nil => rfl
  | cons f rest ih =>
    rw [ofFiles_cons, events_append, ih, List.flatMap_cons, eventsOf_eq]

/-- The events of a file are of one kind. -/
lemma oneKind_eventsOf (file : FoundFile) : Event.OneKind file.path (filter.eventsOf file) := by
  rw [eventsOf_eq]
  obtain ⟨-, h⟩ | ⟨-, content, -, h⟩ | ⟨-, cause, -, h⟩ := ofFile_cases filter file
  · exact .inl (by rw [h])
  · exact .inr (.inr ⟨(importsOfBytes content).filter filter.rules.excludesText, by rw [h]; rfl⟩)
  · exact .inr (.inl ⟨cause, by rw [h]⟩)

/-- The entries of a ledger can be read off its events. -/
structure Told (d : Ledger) : Prop where
  /-- An event tells of each excluded import. -/
  excluded : d.events.filterMap Event.excludedModule? = d.excluded
  /-- An event tells of each file that could not be read. -/
  unreadable : d.events.filterMap Event.unreadableFile? = d.unreadable
  /-- An event tells of each file that was left out. -/
  skipped : (d.events.filterMap Event.excludedFile?).length = d.skipped

/-- What is told of two ledgers is told of both together. -/
lemma Told.append {d e : Ledger} (h : d.Told) (h' : e.Told) : (d ++ e).Told where
  excluded := by rw [events_append, List.filterMap_append, h.excluded, h'.excluded, excluded_append]
  unreadable := by
    rw [events_append, List.filterMap_append, h.unreadable, h'.unreadable, unreadable_append]
  skipped := by
    rw [events_append, List.filterMap_append, List.length_append, h.skipped, h'.skipped,
      skipped_append]

/-- Events about imports tell of nothing but imports. -/
lemma filterMap_map_importExcluded {α : Type} {read? : Event → Option α} (path : String)
    (h : ∀ module, read? (.importExcluded module path) = none) (modules : List String) :
    (modules.map (Event.importExcluded · path)).filterMap read? = [] := by
  rw [List.filterMap_map, List.filterMap_eq_nil_iff]
  exact fun module _ => h module

/-- The entries of a file can be read off its events. -/
lemma told_ofFile (file : FoundFile) : (ofFile filter file).Told := by
  obtain ⟨-, h⟩ | ⟨-, content, -, h⟩ | ⟨-, cause, -, h⟩ := ofFile_cases filter file
  · rw [h]
    exact ⟨rfl, rfl, rfl⟩
  · rw [h]
    exact
      { excluded := by
          simp [ofSource, ofImports, List.filterMap_map, Function.comp_def, Event.excludedModule?]
        unreadable := filterMap_map_importExcluded _ (fun _ => rfl) _
        skipped := congrArg _ (filterMap_map_importExcluded _ (fun _ => rfl) _) }
  · rw [h]
    exact ⟨rfl, rfl, rfl⟩

/-- **The entries of some files can be read off their events.** -/
lemma told_ofFiles (files : List FoundFile) : (ofFiles filter files).Told := by
  induction files with
  | nil => exact ⟨rfl, rfl, rfl⟩
  | cons f rest ih => exact (told_ofFile filter f).append ih

/-- Events tell of just the files that are left out. -/
lemma filterMap_excludedFile? (files : List FoundFile) :
    (ofFiles filter files).events.filterMap Event.excludedFile? =
      (files.filter fun file => filter.skipsFile file.path).map (·.path) := by
  induction files with
  | nil => rfl
  | cons f rest ih =>
    rw [ofFiles_cons, events_append, List.filterMap_append, ih, List.filter_cons, Filter.skipsFile]
    obtain ⟨hskip, h⟩ | ⟨hskip, content, -, h⟩ | ⟨hskip, cause, -, h⟩ := ofFile_cases filter f
    · rw [h, hskip]
      rfl
    · rw [h, hskip]
      exact congrArg (· ++ _) (filterMap_map_importExcluded _ (fun _ => rfl) _)
    · rw [h, hskip]
      rfl

section OneKind

variable {filter} {files : List FoundFile} {path : String}

/-- An event of a file is about the file. -/
lemma file?_of_mem_eventsOf {file : FoundFile} {e : Event} (h : e ∈ filter.eventsOf file) :
    e.file? = some file.path :=
  (oneKind_eventsOf filter file).file?_eq h

/-- No event is about a path that no file has. -/
lemma filter_flatMap_eventsOf (h : path ∉ files.map (·.path)) :
    (files.flatMap filter.eventsOf).filter (fun e => e.file? = some path) = [] := by
  rw [List.filter_eq_nil_iff]
  intro e he
  obtain ⟨file, hfile, hmem⟩ := List.mem_flatMap.1 he
  rw [file?_of_mem_eventsOf hmem, decide_eq_true_iff, Option.some.injEq]
  rintro rfl
  exact h (List.mem_map_of_mem hfile)

/-- **The events about a path are of one kind**, if no two files share the path: they are those of
one file, if any. -/
lemma oneKind_filter (h : (files.map (·.path)).Nodup) (path : String) :
    Event.OneKind path
      ((files.flatMap filter.eventsOf).filter fun e => e.file? = some path) := by
  induction files with
  | nil => exact .inr (.inr ⟨[], rfl⟩)
  | cons f rest ih =>
    rw [List.map_cons, List.nodup_cons] at h
    rw [List.flatMap_cons, List.filter_append]
    by_cases hpath : f.path = path
    · subst hpath
      have hall : (filter.eventsOf f).filter (fun e => e.file? = some f.path) =
          filter.eventsOf f :=
        List.filter_eq_self.2 fun e he => by simp [file?_of_mem_eventsOf he]
      rw [filter_flatMap_eventsOf h.1, hall, List.append_nil]
      exact oneKind_eventsOf filter f
    · have hnone : (filter.eventsOf f).filter (fun e => e.file? = some path) = [] :=
        List.filter_eq_nil_iff.2 fun e he => by simp [file?_of_mem_eventsOf he, hpath]
      rw [hnone, List.nil_append]
      exact ih h.2

end OneKind

end Ledger

/-! ### The paths of a walk -/

namespace Discovery

open FileTree ImportAtlas.Path

variable {t : FileTree} {root path : Path} {place : Place}

/-- The files of a walk are entries below the root. -/
lemma exists_names_of_mem_discoverBelow {noIgnore : Bool} (hwf : t.WellFormed)
    (h : path ∈ (discoverBelow t root place noIgnore).files) :
    ∃ names, (∀ name ∈ names, IsName name) ∧ path = pathOf root names := by
  rw [discoverBelow_files, List.mem_map] at h
  obtain ⟨e, he, rfl⟩ := h
  exact ⟨e.1, isName_of_mem_entriesBelow hwf (List.mem_filter.1 he).1, rfl⟩

/-- Different files of a walk have different paths below the root. -/
lemma nodup_relativeTo_discoverBelow (hwf : t.WellFormed) (noIgnore : Bool) :
    ((discoverBelow t root place noIgnore).files.map (relativeTo root)).Nodup := by
  rw [List.Nodup, List.pairwise_map]
  refine (pairwise_discoverBelow hwf noIgnore).imp_of_mem fun {a b} ha hb hlt heq => ?_
  obtain ⟨names, hnames, rfl⟩ := exists_names_of_mem_discoverBelow hwf ha
  obtain ⟨other, hother, rfl⟩ := exists_names_of_mem_discoverBelow hwf hb
  rw [relativeTo_of_components (components_pathOf hnames),
    relativeTo_of_components (components_pathOf hother)] at heq
  obtain rfl := eq_of_intercalate_eq hnames hother heq
  have hself : compare (pathOf root names).components (pathOf root names).components = .eq :=
    Std.ReflCmp.compare_self
  rw [hself] at hlt
  cases hlt

end Discovery

/-- **No two files of a walk have the same path below the root.** -/
lemma nodup_foundFiles {t : FileTree} (hwf : t.WellFormed) (root : Path) (noIgnore : Bool) :
    ((foundFiles t root noIgnore).1.map (·.path)).Nodup := by
  have hpaths : (foundFiles t root noIgnore).1.map (·.path) =
      (discover t root noIgnore).files.map (Path.relativeTo root) := by
    simp [foundFiles]
  rw [hpaths, discover]
  split
  · exact List.nodup_nil
  · split
    · exact Discovery.nodup_relativeTo_discoverBelow hwf noIgnore
    · split <;> simp
    · exact List.nodup_nil

/-! ### Scans -/

section ScanFiles

variable (plan : ScanPlan) (schedule : Schedule) (failures : Nat)

/-- The events of a scan are those of its files, between events that are about no file. -/
lemma exists_events_scanFiles :
    ∃ opening closing : List Event, (∀ e ∈ opening ++ closing, e.file? = none) ∧
      (scanFiles plan schedule failures).events =
        opening ++ (Ledger.ofFiles ⟨plan.rules, plan.includeSystem⟩ schedule.files).events ++
          closing := by
  have hrecords := schedule.run_records ⟨plan.rules, plan.includeSystem⟩
  refine ⟨plan.opening schedule.files failures, [_], ?_, by rw [← hrecords.events, scanFiles]⟩
  intro e he
  simp only [ScanPlan.opening, List.mem_append, List.mem_singleton, List.mem_replicate] at he
  obtain ((rfl | ⟨-, rfl⟩) | rfl) | rfl := he <;> rfl

/-- What is read off events about files alone is read off the events of the files. -/
lemma filterMap_events_scanFiles {α : Type} {read? : Event → Option α}
    (h : ∀ e, e.file? = none → read? e = none) :
    (scanFiles plan schedule failures).events.filterMap read? =
      (Ledger.ofFiles ⟨plan.rules, plan.includeSystem⟩ schedule.files).events.filterMap read? := by
  obtain ⟨opening, closing, hothers, hevents⟩ := exists_events_scanFiles plan schedule failures
  have hskip : ∀ l ⊆ opening ++ closing, l.filterMap read? = [] := fun l hl =>
    List.filterMap_eq_nil_iff.2 fun e he => h e (hothers e (hl he))
  rw [hevents, List.filterMap_append, List.filterMap_append,
    hskip opening (List.subset_append_left _ _), hskip closing (List.subset_append_right _ _),
    List.nil_append, List.append_nil]

/-- The events about a path are those of the files. -/
lemma filter_events_scanFiles (path : String) :
    (scanFiles plan schedule failures).events.filter (fun e => e.file? = some path) =
      (schedule.files.flatMap (Filter.eventsOf ⟨plan.rules, plan.includeSystem⟩)).filter
        fun e => e.file? = some path := by
  rw [← List.filterMap_eq_filter, filterMap_events_scanFiles _ _ _ fun e he => by simp [he],
    Ledger.events_ofFiles]

/-- The events of a scan agree with its counters.

**Proof sketch.** The events of a scan are those that the ledger of its files has, and a few that
are about no file. The counters are read off the same ledger, whose entries can be read off its
events. -/
lemma scanFiles_logged :
    (scanFiles plan schedule failures).Logged ⟨plan.rules, plan.includeSystem⟩
      schedule.files := by
  set filter : Filter := ⟨plan.rules, plan.includeSystem⟩
  have htold : (Ledger.ofFiles filter schedule.files).Told :=
    Ledger.told_ofFiles filter schedule.files
  have hstatistics := statistics_scanFiles plan schedule failures
  have hfiles := filterMap_events_scanFiles plan schedule failures
    fun e he => (Event.eq_none_of_file? he).2.1
  exact
    { shares := by
        obtain ⟨opening, closing, hothers, hevents⟩ :=
          exists_events_scanFiles plan schedule failures
        refine ⟨opening ++ closing, hothers, ?_⟩
        rw [hevents, Ledger.events_ofFiles, ← List.append_assoc]
        exact List.perm_append_comm.append_right closing
      imports := by
        rw [filterMap_events_scanFiles _ _ _ fun e he => (Event.eq_none_of_file? he).1,
          htold.excluded]
        exact (schedule.run_records filter).excluded
      excluded := by
        rw [hfiles, Ledger.filterMap_excludedFile?]
      skipped := by
        rw [hfiles, htold.skipped, hstatistics]
      unreadable := by
        rw [filterMap_events_scanFiles _ _ _ fun e he => (Event.eq_none_of_file? he).2.2,
          htold.unreadable, hstatistics]
        exact (List.mergeSort_perm _ _).symm
      oneKind := fun file _ => Ledger.oneKind_eventsOf filter file
      oneKindOf := fun h path => by
        rw [filter_events_scanFiles]
        exact Ledger.oneKind_filter h path }

end ScanFiles

/-- **Every scan has events that agree with its counters, and the same events in whatever order its
files are folded.** This holds of any schedule of some files, however it cuts them into parts and
merges the parts, and of the scan of a file tree, with any number of workers that start. In a file
tree no two files have the same path below the root, so no path has events of two kinds.

**Proof sketch.** The laws of a schedule are `scanFiles_logged` and `scanFiles_agrees`. A scan of a
tree folds the files that the walk finds by some schedule, and the paths of these are different in a
tree that is well formed. -/
theorem scan_logged :
    (∀ (plan : ScanPlan) (schedule : Schedule) (failures : Nat),
      (scanFiles plan schedule failures).Logged ⟨plan.rules, plan.includeSystem⟩ schedule.files ∧
      ∀ other : Schedule, other.files.Perm schedule.files →
        (scanFiles plan other failures).events.Perm (scanFiles plan schedule failures).events) ∧
    ∀ (workers : Workers) (tree : FileTree) (plan : ScanPlan),
      (match scan workers tree plan with
      | .ok outcome =>
        outcome.Logged ⟨plan.rules, plan.includeSystem⟩
          (foundFiles tree plan.root plan.noIgnore).1 ∧
        (tree.WellFormed → ((foundFiles tree plan.root plan.noIgnore).1.map (·.path)).Nodup)
      | .error e => plan.Fails workers tree e.cause) ∧
      ∀ jobs, plan.start workers = .ok () → { plan with jobs := jobs }.start workers = .ok () →
        match scan workers tree plan, scan workers tree { plan with jobs := jobs } with
        | .ok one, .ok other => one.events.Perm other.events
        | .error one, .error other => one = other
        | _, _ => False := by
  refine ⟨fun plan schedule failures => ⟨scanFiles_logged plan schedule failures,
    fun other h => (scanFiles_agrees plan failures h).events⟩,
    fun workers tree plan => ⟨?_, fun jobs hstart hstart' => ?_⟩⟩
  · have hlogged := forall_scan (P := fun o files =>
      o.Logged ⟨plan.rules, plan.includeSystem⟩ files) (scanFiles_logged plan) workers tree
    cases hscan : scan workers tree plan with
    | error e => rwa [hscan] at hlogged
    | ok o =>
      rw [hscan] at hlogged
      exact ⟨hlogged, fun hwf => nodup_foundFiles hwf plan.root plan.noIgnore⟩
  · exact forall_scan_jobs (P := fun o o' => o.events.Perm o'.events) hstart hstart'
      (fun s t failures h => (scanFiles_agrees plan failures h).events) tree

/-- A file that an exclude pattern leaves out, one that cannot be read and one with an import that
is left out twice, folded in two parts in reverse order; and the scan of an empty tree by two
workers and by four, on a system that starts no more than four. -/
theorem scan_logged_reversed :
    ∃ rule, ExcludeRule.compile "*T*" = .ok rule ∧
      let a : FoundFile := ⟨"AT/a.swift", .ok (Utf8.encode "import B".toList)⟩
      let b : FoundFile := ⟨"B/b.swift", .error .permissionDenied⟩
      let c : FoundFile := ⟨"C/c.swift", .ok (Utf8.encode "import BT\nimport BT".toList)⟩
      let plan : ScanPlan := ⟨".", ⟨[], [rule]⟩, false, false, 2⟩
      let schedule : Schedule := .join (.part [c, b]) (.part [a])
      schedule.files.Perm [a, b, c] ∧
        (scanFiles plan schedule 0).events.Perm (scanFiles plan (.part [a, b, c]) 0).events ∧
        plan.start (.upTo 4) = .ok () ∧ { plan with jobs := 4 }.start (.upTo 4) = .ok () ∧
        match scan (.upTo 4) (.bare []) plan, scan (.upTo 4) (.bare []) { plan with jobs := 4 } with
        | .ok one, .ok other => one.events.Perm other.events
        | .error one, .error other => one = other
        | _, _ => False := by
  obtain ⟨rule, hrule⟩ := ExcludeRule.exists_compile_of_length_le "*T*" (by decide)
  refine ⟨rule, hrule, ?_⟩
  intro a b c plan schedule
  have hfiles : schedule.files.Perm [a, b, c] := List.reverse_perm [a, b, c]
  exact ⟨hfiles, (scan_logged.1 plan (.part [a, b, c]) 0).2 schedule hfiles, rfl, rfl,
    (scan_logged.2 (.upTo 4) (.bare []) plan).2 4 rfl rfl⟩

end ImportAtlas
