import ImportAtlas.Proofs.Graph.Builder
import ImportAtlas.Scan.Tally

/-!
# Ledgers of a scan

A ledger writes down what a scan comes across, import by import and file by file, and does nothing
with it. A tally that folds files or merges parts keeps the books of a ledger: builder, counters and
events can be read off it.

## Main definitions

* `ImportAtlas.Filter.Keeps`: the filter keeps an import.
* `ImportAtlas.Ledger`: what was seen, and `ImportAtlas.Ledger.ofFiles`, the ledger of some files.
* `ImportAtlas.Ledger.Same`: two ledgers agree up to the order of their entries.
* `ImportAtlas.Tally.Records`: a tally agrees with a ledger.

## Main results

* `ImportAtlas.Tally.Records.foldImport`, `ImportAtlas.Tally.Records.foldFile`,
  `ImportAtlas.Tally.Records.merge`: every step of a scan writes on.
* `ImportAtlas.Schedule.run_records`: a schedule records the ledger of its files, however it cuts
  and merges them.
* `ImportAtlas.Schedule.wrap_builder_run`: no scan of a size that there is wraps a count.
-/

namespace ImportAtlas

/-! ### Decisions -/

/-- A text is not left out if no pattern matches it. -/
lemma RuleSet.excludesText_eq_false_iff (rules : RuleSet) (text : String) :
    rules.excludesText text = false ↔ ∀ rule ∈ rules.excludes, rule.isMatch text = false := by
  simp [excludesText, List.any_eq_false]

/-- The filter keeps an import: no exclude pattern matches the name, it is no platform module while
those are not wanted, and the module does not import itself. -/
def Filter.Keeps (filter : Filter) (e : Edge) : Prop :=
  filter.rules.excludesText e.target = false ∧
    ¬(ModuleKind.classify e.target = .system ∧ filter.includeSystem = false) ∧ e.target ≠ e.source

instance (filter : Filter) : DecidablePred filter.Keeps := fun _ =>
  inferInstanceAs (Decidable (_ ∧ ¬_ ∧ ¬_))

/-- An import is excluded exactly when a pattern matches its name, whoever imports it. -/
lemma Filter.decide_eq_excluded_iff {filter : Filter} {module token : String} :
    filter.decide module token = .excluded ↔ filter.rules.excludesText token = true := by
  simp only [Filter.decide]
  split_ifs <;> simp_all

/-- An import is kept exactly when the filter keeps it, under the kind that its name gives. -/
lemma Filter.decide_eq_keep_iff {filter : Filter} {module token : String} {kind : ModuleKind} :
    filter.decide module token = .keep kind ↔
      filter.Keeps ⟨module, token⟩ ∧ kind = .classify token := by
  simp only [Filter.decide, Filter.Keeps]
  by_cases hexcluded : filter.rules.excludesText token = true
  · simp [hexcluded]
  by_cases hsystem : ModuleKind.classify token = .system ∧ filter.includeSystem = false
  · simp [hexcluded, hsystem]
  by_cases hself : token = module
  · rw [if_neg hexcluded, if_neg hsystem, if_pos hself]
    simp [hself]
  · rw [if_neg hexcluded, if_neg hsystem, if_neg hself]
    simp only [Bool.not_eq_true] at hexcluded
    simp only [hexcluded, hsystem, hself, not_false_eq_true, ne_eq, true_and, and_self]
    exact ⟨fun h => (Decision.keep.inj h).symm, fun h => congrArg _ h.symm⟩

/-! ### Ledgers -/

/-- What a part of a scan has come across. -/
structure Ledger where
  /-- The imports that were kept. -/
  kept : List Edge
  /-- The names of the imports that were excluded. -/
  excluded : List String
  /-- How many files were read. -/
  processed : Nat
  /-- How many files were left out. -/
  skipped : Nat
  /-- How many imports the files have that were read. -/
  found : Nat
  /-- The files that could not be read. -/
  unreadable : List String
  /-- What happened. -/
  events : List Event

namespace Ledger

/-- The ledger without entries. -/
def nil : Ledger := ⟨[], [], 0, 0, 0, [], []⟩

/-- One ledger goes on with the entries of another. -/
instance : Append Ledger := ⟨fun d e =>
  ⟨d.kept ++ e.kept, d.excluded ++ e.excluded, d.processed + e.processed, d.skipped + e.skipped,
    d.found + e.found, d.unreadable ++ e.unreadable, d.events ++ e.events⟩⟩

@[ext] lemma ext {d e : Ledger} (kept : d.kept = e.kept) (excluded : d.excluded = e.excluded)
    (processed : d.processed = e.processed) (skipped : d.skipped = e.skipped)
    (found : d.found = e.found) (unreadable : d.unreadable = e.unreadable)
    (events : d.events = e.events) : d = e := by
  cases d
  cases e
  simp_all

section Fields

variable (d e : Ledger)

@[simp] lemma kept_append : (d ++ e).kept = d.kept ++ e.kept := rfl

@[simp] lemma excluded_append : (d ++ e).excluded = d.excluded ++ e.excluded := rfl

@[simp] lemma processed_append : (d ++ e).processed = d.processed + e.processed := rfl

@[simp] lemma skipped_append : (d ++ e).skipped = d.skipped + e.skipped := rfl

@[simp] lemma found_append : (d ++ e).found = d.found + e.found := rfl

@[simp] lemma unreadable_append : (d ++ e).unreadable = d.unreadable ++ e.unreadable := rfl

@[simp] lemma events_append : (d ++ e).events = d.events ++ e.events := rfl

end Fields

lemma append_nil (d : Ledger) : d ++ nil = d := by
  ext1 <;> simp [nil]

lemma nil_append (d : Ledger) : nil ++ d = d := by
  ext1 <;> simp [nil]

lemma append_assoc (d e f : Ledger) : d ++ e ++ f = d ++ (e ++ f) := by
  ext1 <;> simp [Nat.add_assoc]

/-! ### Entries -/

/-- The entries of some imports of a file. -/
def ofImports (filter : Filter) (file : SourceFile) (tokens : List String) : Ledger where
  kept := (tokens.map (Edge.mk file.module)).filter (decide <| filter.Keeps ·)
  excluded := tokens.filter filter.rules.excludesText
  processed := 0
  skipped := 0
  found := 0
  unreadable := []
  events := (tokens.filter filter.rules.excludesText).map (.importExcluded · file.path)

/-- The entries of a file with its imports. -/
def ofSource (filter : Filter) (file : SourceFile) : Ledger :=
  { ofImports filter file file.imports with processed := 1, found := file.imports.length }

/-- The entries of a file as the walk finds it. -/
def ofFile (filter : Filter) (file : FoundFile) : Ledger :=
  if filter.skipsFile file.path then { nil with skipped := 1, events := [.fileExcluded file.path] }
  else
    match file.content with
    | .ok content =>
      ofSource filter
        ⟨file.path, resolveModule filter.rules.modules file.path, importsOfBytes content⟩
    | .error cause =>
      { nil with unreadable := [file.path], events := [.fileUnreadable file.path cause] }

/-- The entries of some files, one after the other. -/
def ofFiles (filter : Filter) (files : List FoundFile) : Ledger :=
  files.foldr (fun file d => ofFile filter file ++ d) nil

/-- The first of some imports makes its entries before the others. -/
lemma ofImports_cons (filter : Filter) (file : SourceFile) (token : String)
    (tokens : List String) :
    ofImports filter file (token :: tokens) =
      ofImports filter file [token] ++ ofImports filter file tokens := by
  ext1 <;> simp [ofImports, List.filter_cons] <;> split_ifs <;> simp

/-- An import that is kept makes one entry among the kept ones. -/
lemma ofImports_of_keeps {filter : Filter} {file : SourceFile} {token : String}
    (h : filter.Keeps ⟨file.module, token⟩) :
    ofImports filter file [token] = { nil with kept := [⟨file.module, token⟩] } := by
  have hnot : filter.rules.excludesText token = false := h.1
  simp [ofImports, nil, h, hnot]

/-- An import that is excluded makes one entry among the excluded ones, and one event. -/
lemma ofImports_of_excluded {filter : Filter} {file : SourceFile} {token : String}
    (h : filter.rules.excludesText token = true) :
    ofImports filter file [token] =
      { nil with excluded := [token], events := [.importExcluded token file.path] } := by
  have hnot : ¬filter.Keeps ⟨file.module, token⟩ := fun hk => by simp [hk.1] at h
  simp [ofImports, nil, h, hnot]

/-- An import that is neither kept nor excluded makes no entry. -/
lemma ofImports_of_dropped {filter : Filter} {file : SourceFile} {token : String}
    (hkeeps : ¬filter.Keeps ⟨file.module, token⟩)
    (hexcluded : filter.rules.excludesText token ≠ true) :
    ofImports filter file [token] = nil := by
  simp [ofImports, nil, hkeeps, hexcluded]

/-- The entries of a file are those of a file that is left out, of one that is read, or of one that
cannot be read. -/
lemma ofFile_cases (filter : Filter) (file : FoundFile) :
    (filter.rules.excludesText file.path = true ∧
      ofFile filter file = { nil with skipped := 1, events := [.fileExcluded file.path] }) ∨
    (filter.rules.excludesText file.path = false ∧ ∃ content, file.content = .ok content ∧
      ofFile filter file = ofSource filter
        ⟨file.path, resolveModule filter.rules.modules file.path, importsOfBytes content⟩) ∨
    (filter.rules.excludesText file.path = false ∧ ∃ cause, file.content = .error cause ∧
      ofFile filter file =
        { nil with unreadable := [file.path], events := [.fileUnreadable file.path cause] }) := by
  unfold ofFile Filter.skipsFile
  cases hskip : filter.rules.excludesText file.path with
  | true => exact .inl ⟨rfl, rfl⟩
  | false =>
    cases hc : file.content with
    | ok content => exact .inr (.inl ⟨rfl, content, rfl, rfl⟩)
    | error cause => exact .inr (.inr ⟨rfl, cause, rfl, rfl⟩)

lemma ofFiles_cons (filter : Filter) (f : FoundFile) (files : List FoundFile) :
    ofFiles filter (f :: files) = ofFile filter f ++ ofFiles filter files := rfl

/-- The entries of two lists of files stand one after the other. -/
lemma ofFiles_append (filter : Filter) (fs gs : List FoundFile) :
    ofFiles filter (fs ++ gs) = ofFiles filter fs ++ ofFiles filter gs := by
  induction fs with
  | nil => exact (nil_append _).symm
  | cons f rest ih => rw [List.cons_append, ofFiles_cons, ofFiles_cons, ih, append_assoc]

/-- The kept imports of some files are those of each file. -/
lemma kept_ofFiles (filter : Filter) (files : List FoundFile) :
    (ofFiles filter files).kept = files.flatMap fun file => (ofFile filter file).kept := by
  induction files with
  | nil => rfl
  | cons f rest ih => exact congrArg ((ofFile filter f).kept ++ ·) ih

/-! ### The order of files -/

/-- Two ledgers agree up to the order of their entries. -/
structure Same (d e : Ledger) : Prop where
  /-- The same imports were kept. -/
  kept : d.kept.Perm e.kept
  /-- The same imports were excluded. -/
  excluded : d.excluded.Perm e.excluded
  /-- As many files were read. -/
  processed : d.processed = e.processed
  /-- As many files were left out. -/
  skipped : d.skipped = e.skipped
  /-- As many imports were found. -/
  found : d.found = e.found
  /-- The same files could not be read. -/
  unreadable : d.unreadable.Perm e.unreadable
  /-- The same happened. -/
  events : d.events.Perm e.events

lemma Same.refl (d : Ledger) : d.Same d :=
  ⟨.refl _, .refl _, rfl, rfl, rfl, .refl _, .refl _⟩

lemma Same.trans {d e f : Ledger} (h : d.Same e) (h' : e.Same f) : d.Same f :=
  ⟨h.kept.trans h'.kept, h.excluded.trans h'.excluded, h.processed.trans h'.processed,
    h.skipped.trans h'.skipped, h.found.trans h'.found, h.unreadable.trans h'.unreadable,
    h.events.trans h'.events⟩

/-- Ledgers that agree piece by piece agree as a whole. -/
lemma Same.append {d d' e e' : Ledger} (h : d.Same d') (h' : e.Same e') :
    (d ++ e).Same (d' ++ e') where
  kept := h.kept.append h'.kept
  excluded := h.excluded.append h'.excluded
  processed := by simp [h.processed, h'.processed]
  skipped := by simp [h.skipped, h'.skipped]
  found := by simp [h.found, h'.found]
  unreadable := h.unreadable.append h'.unreadable
  events := h.events.append h'.events

/-- Two ledgers can change places. -/
lemma Same.append_comm (d e : Ledger) : (d ++ e).Same (e ++ d) where
  kept := List.perm_append_comm
  excluded := List.perm_append_comm
  processed := Nat.add_comm _ _
  skipped := Nat.add_comm _ _
  found := Nat.add_comm _ _
  unreadable := List.perm_append_comm
  events := List.perm_append_comm

/-- The ledger of some files does not depend on their order, but for the order of its entries. -/
lemma ofFiles_perm (filter : Filter) {fs gs : List FoundFile} (h : fs.Perm gs) :
    (ofFiles filter fs).Same (ofFiles filter gs) := by
  induction h with
  | nil => exact .refl _
  | cons f _ ih => exact (Same.refl (ofFile filter f)).append ih
  | swap f g rest =>
    simp only [ofFiles_cons, ← append_assoc]
    exact (Same.append_comm _ _).append (.refl _)
  | trans _ _ ih ih' => exact ih.trans ih'

end Ledger

/-! ### Tallies -/

namespace Tally

/-- A tally agrees with a ledger: the builder holds the imports that were kept, the counters count
the entries, and the events are those of the ledger. The counters that only a whole scan knows are
still zero. -/
structure Records (t : Tally) (d : Ledger) : Prop where
  /-- The builder holds the imports that were kept. -/
  builder : t.builder.Holds d.kept
  /-- The excluded imports are counted by name. -/
  excluded : t.statistics.excludedModules.Counts d.excluded
  /-- The counters count the entries. -/
  statistics : t.statistics =
    { Statistics.zero with
      filesProcessed := d.processed
      filesExcluded := d.skipped
      importsFound := d.found
      qualifyingImports := d.kept.length
      excludedModules := t.statistics.excludedModules
      unreadable := d.unreadable }
  /-- The events are written down in their order. -/
  events : t.events = d.events

variable {filter : Filter} {file : SourceFile} {s t : Tally} {d e : Ledger}

@[simp] lemma builder_emit (t : Tally) (e : Event) : (t.emit e).builder = t.builder := rfl

@[simp] lemma statistics_emit (t : Tally) (e : Event) : (t.emit e).statistics = t.statistics := rfl

@[simp] lemma events_emit (t : Tally) (e : Event) : (t.emit e).events = t.events ++ [e] := rfl

/-- The empty tally records the empty ledger. -/
lemma Records.empty : Records .empty .nil :=
  ⟨.empty, .empty, rfl, rfl⟩

/-- A kept import goes to the builder and is counted. -/
lemma foldImport_of_keeps {token : String} (h : filter.Keeps ⟨file.module, token⟩) :
    t.foldImport filter file token =
      { t with
        builder := t.builder.keep ⟨file.module, token⟩
        statistics :=
          { t.statistics with qualifyingImports := t.statistics.qualifyingImports + 1 } } := by
  simp only [foldImport, Filter.decide_eq_keep_iff.2 ⟨h, rfl⟩, GraphBuilder.keep]

/-- An excluded import is counted by its name, and an event tells of it. -/
lemma foldImport_of_excluded {token : String} (h : filter.rules.excludesText token = true) :
    t.foldImport filter file token =
      { t with
        statistics := t.statistics.countExcluded token
        events := t.events ++ [.importExcluded token file.path] } := by
  simp only [foldImport, Filter.decide_eq_excluded_iff.2 h, emit]

/-- Any other import leaves the tally as it is. -/
lemma foldImport_of_dropped {token : String} (hkeeps : ¬filter.Keeps ⟨file.module, token⟩)
    (hexcluded : filter.rules.excludesText token ≠ true) : t.foldImport filter file token = t := by
  unfold foldImport
  split
  · rename_i hd
    exact absurd (Filter.decide_eq_keep_iff.1 hd).1 hkeeps
  · rename_i hd
    exact absurd (Filter.decide_eq_excluded_iff.1 hd) hexcluded
  · rfl
  · rfl

/-- **One more import** writes its entries. -/
lemma Records.foldImport (h : t.Records d) (filter : Filter) (file : SourceFile) (token : String) :
    (t.foldImport filter file token).Records (d ++ .ofImports filter file [token]) := by
  have hstat := h.statistics
  by_cases hkeeps : filter.Keeps ⟨file.module, token⟩
  · rw [foldImport_of_keeps hkeeps, Ledger.ofImports_of_keeps hkeeps]
    exact
      { builder := h.builder.keep _
        excluded := by simpa [Ledger.nil] using h.excluded
        statistics := by
          rw [hstat]
          simp [Ledger.nil]
        events := by simpa [Ledger.nil] using h.events }
  by_cases hexcluded : filter.rules.excludesText token = true
  · rw [foldImport_of_excluded hexcluded, Ledger.ofImports_of_excluded hexcluded]
    exact
      { builder := by simpa [Ledger.nil] using h.builder
        excluded := h.excluded.add token
        statistics := by
          rw [hstat]
          simp [Ledger.nil, Statistics.countExcluded]
        events := by simp [h.events] }
  · rw [foldImport_of_dropped hkeeps hexcluded, Ledger.ofImports_of_dropped hkeeps hexcluded,
      Ledger.append_nil]
    exact h

/-- Some imports of a file write their entries one after the other. -/
lemma Records.foldImports (h : t.Records d) (filter : Filter) (file : SourceFile)
    (tokens : List String) :
    (tokens.foldl (Tally.foldImport filter file) t).Records
      (d ++ .ofImports filter file tokens) := by
  induction tokens generalizing t d with
  | nil =>
    have hnil : Ledger.ofImports filter file [] = .nil := rfl
    rw [hnil, Ledger.append_nil]
    exact h
  | cons token rest ih =>
    rw [List.foldl_cons, Ledger.ofImports_cons, ← Ledger.append_assoc]
    exact ih (h.foldImport filter file token)

/-- A file with its imports writes its entries.

**Proof sketch.** The two counters of a file go up before its imports are folded one by one. -/
lemma Records.foldSource (h : t.Records d) (filter : Filter) (file : SourceFile) :
    (t.foldSource filter file).Records (d ++ .ofSource filter file) := by
  set opening : Ledger := { Ledger.nil with processed := 1, found := file.imports.length }
  have hstat := h.statistics
  have hopened : Records
      { t with
        statistics :=
          { t.statistics with
            filesProcessed := t.statistics.filesProcessed + 1
            importsFound := t.statistics.importsFound + file.imports.length } }
      (d ++ opening) :=
    { builder := by simpa [opening, Ledger.nil] using h.builder
      excluded := by simpa [opening, Ledger.nil] using h.excluded
      statistics := by
        rw [hstat]
        simp [opening, Ledger.nil]
      events := by simp [opening, Ledger.nil, h.events] }
  have hsource : Ledger.ofSource filter file =
      opening ++ Ledger.ofImports filter file file.imports := by
    ext1 <;> simp [Ledger.ofSource, Ledger.ofImports, opening, Ledger.nil]
  rw [hsource, ← Ledger.append_assoc]
  exact hopened.foldImports filter file file.imports

/-- **One more file** writes its entries, whether it is left out, read or unreadable. -/
lemma Records.foldFile (h : t.Records d) (filter : Filter) (file : FoundFile) :
    (t.foldFile filter file).Records (d ++ .ofFile filter file) := by
  have hstat := h.statistics
  unfold Tally.foldFile Ledger.ofFile
  split
  · exact
      { builder := by simpa [Ledger.nil] using h.builder
        excluded := by simpa [Ledger.nil] using h.excluded
        statistics := by
          rw [statistics_emit, hstat]
          simp [Ledger.nil]
        events := by simp [h.events] }
  · cases file.content with
    | ok content => exact h.foldSource filter _
    | error cause =>
      exact
        { builder := by simpa [Ledger.nil] using h.builder
          excluded := by simpa [Ledger.nil] using h.excluded
          statistics := by
            rw [statistics_emit, hstat]
            simp [Ledger.nil]
          events := by simp [h.events] }

/-- **Two parts of a scan together** record their ledgers one after the other. -/
lemma Records.merge (h : s.Records d) (h' : t.Records e) : (s.merge t).Records (d ++ e) where
  builder := h.builder.merge h'.builder
  excluded := h.excluded.absorb h'.excluded
  statistics := by
    have hstat := h.statistics
    have hstat' := h'.statistics
    rw [Tally.merge, Statistics.merge, hstat, hstat']
    simp
  events := by simp [Tally.merge, h.events, h'.events]

/-- Files folded one after the other write the ledger of all of them. -/
lemma Records.foldFiles (h : t.Records d) (filter : Filter) (files : List FoundFile) :
    (files.foldl (Tally.foldFile filter) t).Records (d ++ .ofFiles filter files) := by
  induction files generalizing t d with
  | nil =>
    have hnil : Ledger.ofFiles filter [] = .nil := rfl
    rw [hnil, Ledger.append_nil]
    exact h
  | cons file rest ih =>
    rw [List.foldl_cons, Ledger.ofFiles_cons, ← Ledger.append_assoc]
    exact ih (h.foldFile filter file)

end Tally

/-- **A schedule records the ledger of its files**, from left to right, however it cuts the files
into parts and merges the parts.

**Proof sketch.** Induction on the schedule: a part folds its files from nothing, and a join merges
what its two sides record. -/
theorem Schedule.run_records (filter : Filter) (s : Schedule) :
    (s.run filter).Records (.ofFiles filter s.files) := by
  induction s with
  | part files =>
    have h := Tally.Records.empty.foldFiles filter files
    rwa [Ledger.nil_append] at h
  | join left right hleft hright =>
    rw [Schedule.files, Ledger.ofFiles_append]
    exact hleft.merge hright

/-- **A scan wraps no count** unless it keeps more imports than a word can count. So it may be
written with counts that have no limit. -/
theorem Schedule.wrap_builder_run (filter : Filter) (s : Schedule)
    (hshort : (Ledger.ofFiles filter s.files).kept.length ≤ Numeral.maxWord) :
    (s.run filter).builder.wrap = (s.run filter).builder :=
  (s.run_records filter).builder.wrap_eq_self hshort

end ImportAtlas
