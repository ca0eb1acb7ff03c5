import ImportAtlas.Proofs.Discovery.Entries

/-!
# What a walk finds

A walk that ignores nothing lists the source files below its root that can be reached through
directories alone, each once and in the order of their paths. Ignore files and hidden names only
remove files from the list.

## Main definitions

* `ImportAtlas.Discovery.IsIgnoreContent`: the content of an ignore file that counts in a walk.
* `ImportAtlas.Discovery.IsExact`: what the files of a walk are, and what ignoring does to them.

## Main results

* `ImportAtlas.Discovery.exists_rule_of_verdict`: what the rules say of an entry is said by a rule
  of an ignore file that counts.
* `ImportAtlas.discover_exact`: which files are found.
-/

namespace ImportAtlas

open ImportAtlas.Path

namespace Discovery

open FileTree Ignore

variable {t : FileTree} {root path : Path} {place names other : Place} {node : FileNode}
  {name : String} {content : List UInt8} {isDirectory : Bool}

/-! ### Rules -/

/-- The names of ignore files. -/
def ignoreNames : List String := [".ignore", ".gitignore"]

/-- A directory whose ignore files count in a walk from a root at a place: the root, a directory
below it, or one above it. -/
inductive RuleDirectory (t : FileTree) (root : Path) (place : Place) : Path → Prop where
  /-- The root and the directories below it go by their paths from the root on. -/
  | within (names : Place) (h : t.node? (place ++ names) = some .directory) :
      RuleDirectory t root place (pathOf root names)
  /-- The directories above the root go by their places. -/
  | above (n : Nat) (h : n < place.length) :
      RuleDirectory t root place (absolutePath (place.take n))

/-- The directories below the root that a walk reads rules in. -/
lemma ruleDirectory_of_mem {e : Place × FileNode}
    (h : e ∈ (entriesBelow t place).filter fun e => isDirectoryNode e.2) :
    RuleDirectory t root place (pathOf root e.1) := by
  obtain ⟨names, node⟩ := e
  obtain ⟨he, hdir⟩ := List.mem_filter.1 h
  obtain rfl : node = .directory := by cases node <;> simp [isDirectoryNode] at hdir ⊢
  exact .within names (mem_entriesBelow_iff.1 he).2

/-- The content of an ignore file that counts in a walk. -/
def IsIgnoreContent (t : FileTree) (root : Path) (place : Place) (content : List UInt8) : Prop :=
  ∃ directory, RuleDirectory t root place directory ∧
    ∃ name ∈ ignoreNames, t.read (join directory name) = .ok content

/-- An ignore file has an exception: a rule that keeps what it matches. -/
def HasException (content : List UInt8) : Prop :=
  ∃ rule ∈ (RuleFile.parse [] content).1.rules, rule.verdict = .kept

/-- What the rules of a file say is said by one of them. -/
lemma exists_rule_of_verdict? {f : RuleFile} {text : List Char} {v : Verdict}
    (h : f.verdict? text isDirectory = some v) : ∃ rule ∈ f.rules, rule.verdict = v := by
  rw [RuleFile.verdict?] at h
  split at h
  · cases h
  · obtain ⟨rule, hfind, rfl⟩ := Option.map_eq_some_iff.1 h
    exact ⟨rule, List.mem_reverse.1 (List.mem_of_find?_eq_some hfind), rfl⟩

/-- A directory has rules only from an ignore file that can be read. -/
lemma exists_read_of_mem_rules {directory : Path} {rule : Rule}
    (h : rule ∈ (readRules t directory name).1.rules) :
    ∃ content, t.read (join directory name) = .ok content ∧
      rule ∈ (RuleFile.parse [] content).1.rules := by
  unfold readRules at h
  split at h
  · rename_i content hread
    exact ⟨content, hread, h⟩
  · simp [RuleFile.empty] at h

/-- The rules that a walk knows are those of directories whose ignore files count. -/
lemma exists_directory_of_verdictOf {kind : Level → RuleFile} {v : Verdict}
    (hplace : t.node? place = some .directory)
    (h : (scopeOf t root place).verdictOf? kind names isDirectory = some v) :
    ∃ directory, RuleDirectory t root place directory ∧
      ∃ rule ∈ (kind (readLevel t directory)).rules, rule.verdict = v := by
  rw [Scope.verdictOf?, Option.or_eq_some_iff] at h
  obtain hinner | ⟨-, houter⟩ := h
  · obtain ⟨level, hlevel, hverdict⟩ := List.exists_of_findSome?_eq_some hinner
    obtain ⟨n, -, hfind⟩ := List.mem_filterMap.1 hlevel
    rcases List.mem_cons.1 (SortedMap.mem_of_find?_ofList hfind) with heq | hmem
    · obtain ⟨-, rfl⟩ := Prod.mk.inj heq
      exact ⟨root, .within [] (by simpa using hplace), exists_rule_of_verdict? hverdict⟩
    · obtain ⟨e, he, heq⟩ := List.mem_map.1 hmem
      obtain ⟨-, rfl⟩ := Prod.mk.inj heq
      exact ⟨_, ruleDirectory_of_mem he, exists_rule_of_verdict? hverdict⟩
  · obtain ⟨level, hlevel, hverdict⟩ := List.exists_of_findSome?_eq_some houter
    obtain ⟨n, hn, rfl⟩ := List.mem_map.1 hlevel
    exact ⟨_, .above n (by simpa using hn), exists_rule_of_verdict? hverdict⟩

/-- **What the rules say of an entry** is said by a rule of an ignore file that counts. -/
lemma exists_rule_of_verdict {v : Verdict} (hplace : t.node? place = some .directory)
    (h : (scopeOf t root place).verdict? names isDirectory = some v) :
    ∃ content, IsIgnoreContent t root place content ∧
      ∃ rule ∈ (RuleFile.parse [] content).1.rules, rule.verdict = v := by
  have hfound : ∀ {name directory rule}, name ∈ ignoreNames → RuleDirectory t root place directory →
      rule ∈ (readRules t directory name).1.rules → rule.verdict = v →
      ∃ content, IsIgnoreContent t root place content ∧
        ∃ rule ∈ (RuleFile.parse [] content).1.rules, rule.verdict = v := by
    intro name directory rule hname hdirectory hrule hverdict
    obtain ⟨content, hread, hrule⟩ := exists_read_of_mem_rules hrule
    exact ⟨content, ⟨directory, hdirectory, name, hname, hread⟩, rule, hrule, hverdict⟩
  rw [Scope.verdict?, Option.or_eq_some_iff] at h
  obtain hown | ⟨-, hgit⟩ := h
  · obtain ⟨_, hdirectory, _, hrule, hverdict⟩ := exists_directory_of_verdictOf hplace hown
    exact hfound (List.mem_cons_self) hdirectory hrule hverdict
  · obtain ⟨_, hdirectory, _, hrule, hverdict⟩ := exists_directory_of_verdictOf hplace hgit
    exact hfound (List.mem_cons_of_mem _ List.mem_cons_self) hdirectory hrule hverdict

/-- If no entry has the name of an ignore file, no ignore file counts. -/
lemma not_isIgnoreContent (h : ∀ q, ∀ name ∈ ignoreNames, t.node? (q ++ [name]) = none)
    (content : List UInt8) : ¬IsIgnoreContent t root place content := by
  rintro ⟨directory, -, name, hname, hread⟩
  have hspelled : ∀ n ∈ ignoreNames, IsName n := by decide
  obtain ⟨q, hq⟩ := exists_node_of_read (hspelled name hname) hread
  exact hq (h q name hname)

/-- Without exceptions a walk skips every hidden name. -/
lemma isHidden_of_skips (hplace : t.node? place = some .directory)
    (hkept : ∀ content, IsIgnoreContent t root place content → ¬HasException content)
    (h : (scopeOf t root place).skips (names ++ [name]) isDirectory = false) :
    isHidden name = false := by
  rw [Scope.skips] at h
  split at h
  · cases h
  · rename_i hverdict
    obtain ⟨content, hcontent, hexception⟩ := exists_rule_of_verdict hplace hverdict
    exact absurd hexception (hkept content hcontent)
  · simpa using h

/-- Without rules a walk skips hidden names only. -/
lemma skips_eq_isHidden (hplace : t.node? place = some .directory)
    (hnone : ∀ content, ¬IsIgnoreContent t root place content) :
    (scopeOf t root place).skips (names ++ [name]) isDirectory = isHidden name := by
  have hverdict : (scopeOf t root place).verdict? (names ++ [name]) isDirectory = none := by
    rw [Option.eq_none_iff_forall_ne_some]
    intro v hv
    obtain ⟨content, hcontent, -⟩ := exists_rule_of_verdict hplace hv
    exact hnone content hcontent
  simp [Scope.skips, hverdict]

/-! ### Walks of a directory -/

/-- The names of an entry below a place are ones that a path can spell. -/
lemma isName_of_mem_entriesBelow {e : Place × FileNode} (hwf : t.WellFormed)
    (he : e ∈ entriesBelow t place) : ∀ name ∈ e.1, IsName name := fun name hname =>
  hwf.names _ e.2 (mem_entriesBelow_iff.1 he).2 name (by simp [hname])

/-- The files of a walk are in the order of their paths, and no file is listed twice. -/
lemma pairwise_discoverBelow (hwf : t.WellFormed) (noIgnore : Bool) :
    (discoverBelow t root place noIgnore).files.Pairwise fun a b =>
      compare a.components b.components = .lt := by
  rw [discoverBelow_files, List.pairwise_map]
  refine ((pairwise_entriesBelow t place).imp_of_mem fun ha hb hlt => ?_).filter _
  rwa [compare_pathOf (isName_of_mem_entriesBelow hwf ha) (isName_of_mem_entriesBelow hwf hb)]

/-- Ignoring only removes files from the list. -/
lemma discoverBelow_sublist (t : FileTree) (root : Path) (place : Place) :
    (discoverBelow t root place false).files.Sublist (discoverBelow t root place true).files := by
  rw [discoverBelow_files, discoverBelow_files]
  exact (List.monotone_filter_right _ fun _ => lists_none_of_some).map _

section Below

variable (hwf : t.WellFormed) (hplace : t.node? place = some .directory)
include hwf hplace

/-- The entries below a place that a walk can come to. -/
lemma mem_entriesBelow_reaches_iff :
    (names, node) ∈ entriesBelow t place ∧ reaches root none names (isDirectoryNode node) = true ↔
      names ≠ [] ∧ Reached t root place names node := by
  rw [mem_entriesBelow_iff, reaches_none_iff, reached_iff hwf hplace, and_assoc]

/-- A walk that ignores nothing lists the source files that it comes to. -/
lemma mem_discoverBelow_iff :
    path ∈ (discoverBelow t root place true).files ↔ ∃ names name content,
      Reached t root place (names ++ [name]) (.file content) ∧ IsSourceName name ∧
        path = pathOf root (names ++ [name]) := by
  simp only [discoverBelow_files, if_true, List.mem_map, List.mem_filter, lists, Bool.and_eq_true]
  constructor
  · rintro ⟨⟨names, node⟩, ⟨he, hreaches, hfile, hsource⟩, rfl⟩
    obtain ⟨hne, hreached⟩ := (mem_entriesBelow_reaches_iff hwf hplace).1 ⟨he, hreaches⟩
    obtain ⟨front, name, rfl⟩ := (List.eq_nil_or_concat' names).resolve_left hne
    obtain ⟨content, rfl⟩ : ∃ content, node = .file content := by
      cases node <;> simp [isFileNode] at hfile ⊢
    have hname := hreached.isName hwf hplace name (by simp)
    exact ⟨front, name, content, hreached, (isSource_pathOf_iff root hname).1 hsource, rfl⟩
  · rintro ⟨front, name, content, hreached, hsource, rfl⟩
    have hname := hreached.isName hwf hplace name (by simp)
    obtain ⟨he, hreaches⟩ := (mem_entriesBelow_reaches_iff hwf hplace).2 ⟨by simp, hreached⟩
    exact ⟨_, ⟨he, hreaches, rfl, (isSource_pathOf_iff root hname).2 hsource⟩, rfl⟩

/-- Without exceptions no name on the way to a file of a walk is hidden. -/
lemma isHidden_of_mem_discoverBelow
    (hkept : ∀ content, IsIgnoreContent t root place content → ¬HasException content)
    (hnames : ∀ name ∈ names, IsName name)
    (h : pathOf root names ∈ (discoverBelow t root place false).files) :
    ∀ name ∈ names, isHidden name = false := by
  simp only [discoverBelow_files, List.mem_map, List.mem_filter, lists, Bool.and_eq_true] at h
  obtain ⟨e, ⟨he, hreaches, -⟩, heq⟩ := h
  obtain rfl := eq_of_pathOf_eq (isName_of_mem_entriesBelow hwf he) hnames heq
  have hskips := (reaches_some_iff.1 hreaches).2
  intro name hname
  obtain ⟨n, hn, rfl⟩ := List.getElem_of_mem hname
  have hstep := hskips n hn
  rw [List.take_succ_eq_append_getElem hn] at hstep
  exact isHidden_of_skips hplace hkept hstep

/-- Without ignore files and hidden names nothing is left out. -/
lemma discoverBelow_eq (hnone : ∀ content, ¬IsIgnoreContent t root place content)
    (hshown : ∀ names node, Reached t root place names node →
      ∀ name ∈ names, isHidden name = false) :
    (discoverBelow t root place false).files = (discoverBelow t root place true).files := by
  rw [discoverBelow_files, discoverBelow_files]
  refine congrArg _ (List.filter_congr fun e he => ?_)
  refine Bool.eq_iff_iff.2 ⟨lists_none_of_some, fun h => ?_⟩
  simp only [lists, Bool.and_eq_true, if_true] at h
  have hreached : Reached t root place e.1 e.2 :=
    ((mem_entriesBelow_reaches_iff hwf hplace).1 ⟨he, h.1⟩).2
  simp only [lists, Bool.and_eq_true]
  refine ⟨reaches_some_iff.2 ⟨h.1, fun n hn => ?_⟩, h.2⟩
  rw [List.take_succ_eq_append_getElem hn, skips_eq_isHidden hplace hnone]
  exact hshown _ _ hreached _ (List.getElem_mem hn)

end Below

/-- A walk from a directory, unless a lone hyphen stands for no root. -/
lemma discover_of_directory (h : t.entry root = .ok (place, .directory)) (noIgnore : Bool) :
    discover t root noIgnore =
      if Path.same root "-" then ⟨[], 0⟩ else discoverBelow t root place noIgnore := by
  rw [discover, h]

/-- A file that a walk finds is an entry below the root with the name of a source file. -/
lemma exists_entry_of_mem_discover {noIgnore : Bool} (hwf : t.WellFormed)
    (hroot : t.entry root = .ok (place, .directory)) (h : path ∈ (discover t root noIgnore).files) :
    ∃ names name content, t.node? (place ++ (names ++ [name])) = some (.file content) ∧
      IsSourceName name ∧ path = pathOf root (names ++ [name]) := by
  have hplace : t.node? place = some .directory := isIn_of_locate (entry_eq_ok_iff.1 hroot)
  rw [discover_of_directory hroot] at h
  split at h
  · simp at h
  · have hall : path ∈ (discoverBelow t root place true).files := by
      cases noIgnore with
      | true => exact h
      | false => exact (discoverBelow_sublist t root place).subset h
    obtain ⟨names, name, content, hreached, hsource, hpath⟩ :=
      (mem_discoverBelow_iff hwf hplace).1 hall
    exact ⟨names, name, content, ((reached_iff hwf hplace).1 hreached).1, hsource, hpath⟩

/-- What the files of a walk from a root at a place are, and what ignoring does to them. -/
structure IsExact (t : FileTree) (root : Path) (place : Place) : Prop where
  /-- A walk that ignores nothing lists the source files that can be reached through directories
  alone, the path to each of them being at most `FileTree.maxPathBytes` long. A lone hyphen stands
  for no root. -/
  mem_files : Path.same root "-" = false → ∀ path,
    path ∈ (discover t root true).files ↔ ∃ names name content,
      Reached t root place (names ++ [name]) (.file content) ∧ IsSourceName name ∧
        path = pathOf root (names ++ [name])
  /-- Each is listed once, and they are in the order of their paths, component by component. -/
  ascending : (discover t root true).files.Pairwise fun a b =>
    compare a.components b.components = .lt
  /-- Ignoring only removes files from the list. -/
  sublist : (discover t root false).files.Sublist (discover t root true).files
  /-- If no ignore file has an exception, no name below the root on the way to a listed file starts
  with a dot. -/
  shown : (∀ content, IsIgnoreContent t root place content → ¬HasException content) →
    ∀ names node, Reached t root place names node →
      pathOf root names ∈ (discover t root false).files → ∀ name ∈ names,
        name.toList.head? ≠ some '.'
  /-- If there is no ignore file and no name below the root starts with a dot, nothing is left
  out. -/
  complete : (∀ content, ¬IsIgnoreContent t root place content) →
    (∀ names node, Reached t root place names node → ∀ name ∈ names,
      name.toList.head? ≠ some '.') →
      (discover t root false).files = (discover t root true).files

end Discovery

open Discovery in
/-- **A walk from a directory lists the source files below it that can be reached through
directories alone, each once and in the order of their paths. Ignoring only removes files.**

**Proof sketch.** A root that is a lone hyphen lists nothing. Any other root lists the entries below
it that are source files, and each field is a property of that list. -/
theorem discover_exact {t : FileTree} {root : Path} {place : Place} (hwf : t.WellFormed)
    (hroot : t.entry root = .ok (place, .directory)) : IsExact t root place := by
  have hlocate := FileTree.entry_eq_ok_iff.1 hroot
  have hplace : t.node? place = some .directory := FileTree.isIn_of_locate hlocate
  have hfound := discover_of_directory hroot
  cases hhyphen : Path.same root "-" with
  | true =>
    simp only [hhyphen, if_true] at hfound
    constructor <;> simp [hfound, hhyphen]
  | false =>
    simp only [hhyphen, Bool.false_eq_true, if_false] at hfound
    refine ⟨fun _ path => ?_, ?_, ?_, fun hkept names node hreached h name hname => ?_,
      fun hnone hshown => ?_⟩
    · rw [hfound, mem_discoverBelow_iff hwf hplace]
    · rw [hfound]
      exact pairwise_discoverBelow hwf true
    · rw [hfound, hfound]
      exact discoverBelow_sublist t root place
    · rw [hfound] at h
      have hhidden := isHidden_of_mem_discoverBelow hwf hplace hkept
        (hreached.isName hwf hplace) h name hname
      simpa [isHidden] using hhidden
    · rw [hfound, hfound]
      refine discoverBelow_eq hwf hplace hnone fun names node hreached name hname => ?_
      simp [isHidden, hshown names node hreached name hname]

/-! ### Trees of a single file -/

namespace FileTree

variable {directory file : String} {content : List UInt8} {place : Place}

/-- The tree of a directory in the root directory, with a file in it. -/
def single (directory file : String) (content : List UInt8) : FileTree :=
  ((bare []).put [directory] .directory).put [directory, file] (.file content)

/-- What is in a tree of a single file. -/
lemma node?_single : (single directory file content).node? place =
    if place = [directory, file] then some (.file content)
    else if place = [directory] then some .directory
    else if place = [] then some .directory else none := by
  simp only [single, node?_put (List.cons_ne_nil _ _), node?_bare]

/-- A tree of a single file is the tree of a file system. -/
lemma wellFormed_single (hdirectory : IsName directory) (hfile : IsName file) :
    (single directory file content).WellFormed := by
  have hroot : ((bare []).put [directory] .directory).WellFormed :=
    WellFormed.bare.put_name hdirectory (.inl rfl)
  refine hroot.put (node?_put_self (by simp)) hfile (.inl ?_)
  simp [node?_put, node?_bare]

/-- The names of all entries of a tree of a single file. -/
lemma mem_of_node?_single {node : FileNode} {name : String}
    (h : (single directory file content).node? place = some node) (hname : name ∈ place) :
    name = directory ∨ name = file := by
  rw [node?_single] at h
  split at h
  · simp_all
  split at h
  · simp_all
  split at h
  · simp_all
  · cases h

/-- A walk comes to a single file. -/
lemma reached_single {root : Path} (hroot : Discovery.canOpen root [] = true)
    (hdirectory : Discovery.canOpen root [directory] = true) :
    Discovery.Reached (single directory file content) root [] ([directory] ++ [file])
      (.file content) := by
  have habove : Discovery.Reached (single directory file content) root [] ([] ++ [directory])
      .directory := .entry .root hroot (by simp [node?_single])
  exact .entry habove hdirectory (by simp [node?_single])

end FileTree

open FileTree Discovery

/-- A source file in a directory. -/
theorem discover_exact_single :
    let t := single "Sources" "A.swift" []
    t.WellFormed ∧ t.entry "." = .ok ([], .directory) ∧ IsExact t "." [] ∧
      pathOf "." ["Sources", "A.swift"] ∈ (discover t "." true).files := by
  intro t
  have hwf : t.WellFormed := wellFormed_single (by decide) (by decide)
  have hroot : t.entry "." = .ok ([], .directory) := entry_eq_ok_iff.2 (locate_here hwf true)
  have hexact := discover_exact hwf hroot
  have hreached : Reached t "." [] ["Sources", "A.swift"] (.file []) :=
    reached_single (by decide +kernel) (by decide +kernel)
  refine ⟨hwf, hroot, hexact, (hexact.mem_files (by decide +kernel) _).2 ?_⟩
  exact ⟨["Sources"], "A.swift", [], hreached, ⟨"A", by decide, by decide⟩, rfl⟩

/-- A source file in a directory whose name is a hyphen. -/
def hyphened : FileTree := single "-" "A.swift" []

/-- The working directory, spelled with slashes behind the dot. -/
def slashed : Nat → Path
  | 0 => "."
  | n + 1 => slashed n ++ "/"

/-- The text of a path with slashes behind a dot. -/
lemma toList_slashed (n : Nat) : (slashed n).toList = '.' :: List.replicate n '/' := by
  induction n with
  | zero => rfl
  | succ n ih =>
    rw [slashed, String.toList_append, ih, List.replicate_succ']
    rfl

/-- The dot and each slash take one byte. -/
lemma utf8ByteSize_slashed (n : Nat) : (slashed n).utf8ByteSize = n + 1 := by
  induction n with
  | zero => rfl
  | succ n ih =>
    rw [slashed, String.utf8ByteSize_append, ih]
    rfl

/-- Slashes cut a text into empty segments only. -/
lemma filter_segments_replicate (n : Nat) :
    (segments (List.replicate n '/')).filter (· ≠ []) = [] := by
  induction n with
  | zero => rfl
  | succ n ih => rwa [List.replicate_succ, segments, if_pos rfl, List.filter_cons_of_neg (by simp)]

/-- The slashes at the end ask for a directory, as another dot would. -/
lemma steps_slashed (n : Nat) : steps (slashed (n + 1)) = [".", "."] := by
  have hends : endsInSlash (slashed (n + 1)) = true := by
    simp [endsInSlash, slashed, String.toList_append]
  have hsegments : segments ('.' :: List.replicate (n + 1) '/') =
      ['.'] :: segments (List.replicate n '/') := segments_append_slash ['.'] _
  rw [steps, hends, toList_slashed, hsegments, List.filter_cons_of_pos (by simp),
    filter_segments_replicate]
  rfl

/-- A path with slashes behind a dot leads to the working directory, unless it is too long. -/
lemma locate_slashed {t : FileTree} {n : Nat} (hwf : t.WellFormed) (hn : n + 2 ≤ maxPathBytes)
    (followLast : Bool) :
    t.locate followLast (slashed (n + 1)) = .ok (.found t.home .directory) := by
  have hrefusal : FileTree.refusal? (slashed (n + 1)) = none := by
    have hempty : slashed (n + 1) ≠ "" := by simp [slashed]
    have hlength : ¬maxPathBytes < (slashed (n + 1)).utf8ByteSize := by
      rw [utf8ByteSize_slashed]
      omega
    simp [FileTree.refusal?, toList_slashed, hempty, hlength]
  have hrelative : isAbsolute (slashed (n + 1)) = false := by simp [isAbsolute, toList_slashed]
  simp [locate, hrefusal, steps_slashed, origin, hrelative, walk_here hwf.home, walk_nil hwf.home]

/-- No directory can be opened by a path that is too long with its name. -/
lemma canOpen_slashed (n : Nat) :
    canOpen (slashed (n + 1)) ["Sources"] = decide (n + 9 ≤ maxPathBytes) := by
  have hpath : pathOf (slashed (n + 1)) ["Sources"] = slashed (n + 1) ++ "Sources" := by
    simp [pathOf, join, slashed, String.toList_append]
  rw [canOpen, hpath, String.utf8ByteSize_append, utf8ByteSize_slashed]
  rfl

/-- **A root that is a lone hyphen stands for no root**, even where a directory has that name, **and
a directory whose path is too long cannot be opened**, so that a source file in it is not found.

**Proof sketch.** For the hyphen nothing is listed, though the walk would come to the file. With the
long root the only file is in a directory that cannot be opened, so the walk does not come to it. -/
theorem not_exact_hyphened_slashed :
    (hyphened.WellFormed ∧ hyphened.entry "-" = .ok (["-"], .directory) ∧
      Reached hyphened "-" ["-"] ["A.swift"] (.file []) ∧ IsSourceName "A.swift" ∧
      (discover hyphened "-" true).files = []) ∧
    let t := single "Sources" "A.swift" []
    t.WellFormed ∧ t.entry (slashed 4090) = .ok ([], .directory) ∧
      t.node? ["Sources", "A.swift"] = some (.file []) ∧ IsSourceName "A.swift" ∧
      (discover t (slashed 4090) true).files = [] := by
  have hsource : IsSourceName "A.swift" := ⟨"A", by decide, by decide⟩
  constructor
  · have hwf : hyphened.WellFormed := wellFormed_single (by decide) (by decide)
    have hdirectory : hyphened.node? ["-"] = some .directory := by simp [hyphened, node?_single]
    have hroot : hyphened.entry "-" = .ok (["-"], .directory) :=
      entry_eq_ok_iff.2 (locate_near_found hwf (by decide +kernel) hdirectory (by simp) true)
    have hreached : Reached hyphened "-" ["-"] ([] ++ ["A.swift"]) (.file []) :=
      .entry .root (by decide +kernel) (by simp [hyphened, node?_single])
    have hhyphen : Path.same "-" "-" = true := by decide +kernel
    refine ⟨hwf, hroot, hreached, hsource, ?_⟩
    rw [discover_of_directory hroot, if_pos hhyphen]
  · intro t
    have hwf : t.WellFormed := wellFormed_single (by decide) (by decide)
    have hroot : t.entry (slashed 4090) = .ok ([], .directory) :=
      entry_eq_ok_iff.2 (locate_slashed hwf (by decide) true)
    refine ⟨hwf, hroot, by simp [t, node?_single], hsource, ?_⟩
    rw [discover_of_directory hroot]
    split
    · rfl
    -- The only file is in a directory that cannot be opened.
    refine List.eq_nil_iff_forall_not_mem.2 fun path hpath => ?_
    obtain ⟨names, name, content, hreached, -, -⟩ := (mem_discoverBelow_iff hwf rfl).1 hpath
    obtain ⟨hnode, hopen⟩ := (reached_iff hwf rfl).1 hreached
    obtain rfl : names = ["Sources"] := by
      have hplace : names ++ [name] = ["Sources"] ++ ["A.swift"] := by
        rw [List.nil_append, node?_single] at hnode
        split at hnode
        · assumption
        split at hnode
        · cases hnode
        split at hnode <;> cases hnode
      exact (List.append_inj' hplace rfl).1
    have hopened := hopen 1 (by simp)
    rw [List.take_append_of_le_length (by simp), List.take_of_length_le (by simp),
      canOpen_slashed] at hopened
    exact absurd hopened (by decide)

end ImportAtlas
