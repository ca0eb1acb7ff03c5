import ImportAtlas.Proofs.Discovery.Exact
import ImportAtlas.Scan.Run

/-!
# What a scan does not look at

A file that is no source file, no ignore file and not the end of a link with the name of one has no
part in a scan: whatever is written to it, the scan finds the same files with the same contents.

## Main definitions

* `ImportAtlas.Discovery.Overlooks`: a walk does not look at a place.

## Main results

* `ImportAtlas.FileTree.read_pathOf`: a file below a root is read by its path.
* `ImportAtlas.Discovery.Overlooks.foundFiles_put`: the files that are found after a file was put at
  such a place.
* `ImportAtlas.Discovery.Overlooks.scan_put`: the scan after a file was put at such a place.
-/

namespace ImportAtlas

open ImportAtlas.Path

/-! ### Lists of entries -/

/-- Entries that are left out have no part in what is made of the others. -/
lemma SortedMap.filterMap_adjustEntries {κ α β : Type} [Ord κ] [Std.LawfulEqOrd κ] {key : κ}
    {f : Option α → α} {g : κ × α → Option β} {entries : List (κ × α)}
    (hnew : ∀ old, g (key, f old) = none) (hold : ∀ v, (key, v) ∈ entries → g (key, v) = none) :
    (adjustEntries key f entries).filterMap g = entries.filterMap g := by
  induction entries with
  | nil => simp [adjustEntries, hnew]
  | cons e rest ih =>
    obtain ⟨k, v⟩ := e
    rw [adjustEntries]
    cases hc : compare key k with
    | lt => simp [hnew]
    | eq =>
      obtain rfl := Std.LawfulEqCmp.eq_of_compare hc
      simp [hnew, hold v List.mem_cons_self]
    | gt =>
      have hrest := ih fun w hw => hold w (List.mem_cons_of_mem _ hw)
      simp only [List.filterMap_cons, hrest]

namespace FileTree

variable {t : FileTree} {place : Place} {names : List String} {node : FileNode} {links : Nat}
  {root : Path} {content : List UInt8}

/-! ### Reading below a root -/

/-- What has an entry below it is a directory. -/
lemma WellFormed.directory_of_append (hwf : t.WellFormed) (hnames : names ≠ [])
    (h : t.node? (place ++ names) ≠ none) : t.node? place = some .directory := by
  induction names using List.reverseRecOn with
  | nil => exact absurd rfl hnames
  | append_singleton front last ih =>
    rw [← List.append_assoc] at h
    have hfront := hwf.above _ last h
    by_cases hnil : front = []
    · simpa [hnil] using hfront
    · exact ih hnil (by simp [hfront])

/-- A name that is too long for the system. -/
def isLong (name : String) : Bool := maxNameBytes < name.utf8ByteSize

/-- **A walk along names that are there** ends at their entry, unless a name is too long. -/
lemma walk_names (hwf : t.WellFormed) (hnode : t.node? (place ++ names) = some node)
    (hlink : ∀ target, node ≠ .link target) :
    t.walk true links names place =
      if names.any isLong then .error .nameTooLong else .ok (.found (place ++ names) node) := by
  induction names generalizing place with
  | nil =>
    rw [List.append_nil] at hnode
    simpa using walk_nil hnode
  | cons name more ih =>
    have hdir : t.node? place = some .directory :=
      hwf.directory_of_append (List.cons_ne_nil name more) (by simp [hnode])
    obtain ⟨-, -, hhere, hup⟩ := hwf.names _ node hnode name (by simp)
    rw [List.append_cons] at hnode
    obtain ⟨next, hnext, hplain⟩ : ∃ next, t.node? (place ++ [name]) = some next ∧
        ∀ target, next ≠ .link target := by
      by_cases hmore : more = []
      · exact ⟨node, by simpa [hmore] using hnode, hlink⟩
      · exact ⟨.directory, hwf.directory_of_append hmore (by rw [hnode]; simp), by simp⟩
    by_cases hlong : maxNameBytes < name.utf8ByteSize
    · rw [walk.eq_def, hdir]
      simp [hhere, hup, hlong, isLong]
    · rw [walk_into hdir hhere hup hlong hnext hplain, ih hnode]
      simp [isLong, hlong]

/-- A walk along the names on a path to a directory ends there, with or without a slash at the
end of the path. -/
lemma walk_namesAlong (hroot : t.entry root = .ok (place, .directory)) :
    t.walk true maxLinks (namesAlong root) (t.origin root) = .ok (.found place .directory) := by
  have hlocate := entry_eq_ok_iff.1 hroot
  unfold locate at hlocate
  split at hlocate
  · cases hlocate
  rw [steps_eq] at hlocate
  split at hlocate
  · obtain ⟨q, left, hq, hlast⟩ := exists_walk_append hlocate (by simp)
    have hdir : t.node? q = some .directory := isIn_of_walk hq
    rw [walk_here hdir, walk_nil hdir] at hlast
    rw [hq, hlast]
  · simpa using hlocate

/-- The steps along the path of an entry are the names on the path to the root, and its own. -/
lemma steps_pathOf (root : Path) (hnames : ∀ name ∈ names, IsName name) (hne : names ≠ []) :
    steps (Discovery.pathOf root names) = namesAlong root ++ names := by
  have halong : ∀ front : List String, (∀ name ∈ front, IsName name) →
      namesAlong (Discovery.pathOf root front) = namesAlong root ++ front := by
    intro front hfront
    induction front using List.reverseRecOn with
    | nil => simp [Discovery.pathOf]
    | append_singleton front last ih =>
      rw [Discovery.pathOf_concat, namesAlong_join _ (hfront last (by simp)),
        ih fun n hn => hfront n (by simp [hn]), List.append_assoc]
  obtain ⟨front, last, rfl⟩ := (List.eq_nil_or_concat' names).resolve_left hne
  have hlast := hnames last (by simp)
  rw [Discovery.pathOf_concat, steps_join _ hlast, halong front fun n hn => hnames n (by simp [hn]),
    List.append_assoc]

/-- The path of an entry starts where that of the root starts. -/
lemma origin_pathOf (t : FileTree) (hroot : root ≠ "") (hnames : ∀ name ∈ names, IsName name) :
    t.origin (Discovery.pathOf root names) = t.origin root := by
  induction names using List.reverseRecOn with
  | nil => simp [Discovery.pathOf]
  | append_singleton front last ih =>
    have hfront : ∀ name ∈ front, IsName name := fun n hn => hnames n (by simp [hn])
    rw [Discovery.pathOf_concat, origin_join t (Discovery.pathOf_ne_empty hfront hroot)
      (hnames last (by simp)), ih hfront]

/-- **A file below a root is read by its path**, unless the path or a name is too long for the
system or holds a character that no path may hold. -/
lemma read_pathOf (hwf : t.WellFormed) (hroot : t.entry root = .ok (place, .directory))
    (hne : names ≠ []) (hnode : t.node? (place ++ names) = some (.file content)) :
    t.read (Discovery.pathOf root names) =
      match refusal? (Discovery.pathOf root names) with
      | some e => .error e
      | none => if names.any isLong then .error .nameTooLong else .ok content := by
  have hnames : ∀ name ∈ names, IsName name := fun name hname =>
    hwf.names _ _ hnode name (by simp [hname])
  have hempty : root ≠ "" := ne_empty_of_locate (entry_eq_ok_iff.1 hroot)
  obtain ⟨left, hleft⟩ := walk_append (walk_namesAlong hroot)
  have hwalk := (hleft true names hne).trans (walk_names hwf hnode (by simp))
  rw [read, entry, locate]
  cases hrefusal : refusal? (Discovery.pathOf root names) with
  | some e => rfl
  | none =>
    simp only [steps_pathOf root hnames hne, origin_pathOf t hempty hnames, hwalk]
    cases names.any isLong <;> rfl

end FileTree

/-! ### Places that a walk does not look at -/

namespace Discovery

open FileTree

/-- A walk from a root at a place does not look at another place, where a file can be put. -/
structure Overlooks (t : FileTree) (root : Path) (place : Place) (noIgnore : Bool) (d : Place) :
    Prop where
  /-- There is no link or directory. -/
  free : t.IsFree d
  /-- The place has a name in a directory, and not that of a source file. -/
  named : ∃ q name, d = q ++ [name] ∧ t.node? q = some .directory ∧ IsName name ∧
    ¬IsSourceName name
  /-- No ignore file that counts is there, and no link in place of one leads there. -/
  noRules : noIgnore = false → ∀ directory, RuleDirectory t root place directory →
    ∀ name ∈ ignoreNames, t.filePlace? (join directory name) ≠ some d

variable {t : FileTree} {root : Path} {place d : Place} {noIgnore : Bool} {content : List UInt8}

/-- A part of the entries below a place that does not have a file is the same after the file was
written. -/
lemma filter_entriesBelow_put {p : Place × FileNode → Bool} (hfree : t.IsFree d)
    (hp : ∀ names c, d = place ++ names → p (names, .file c) = false) :
    (entriesBelow (t.put d (.file content)) place).filter p = (entriesBelow t place).filter p := by
  have hfile : ∀ c, (below? place (d, .file c)).filter p = none := by
    intro c
    cases hbelow : below? place (d, .file c) with
    | none => rfl
    | some e =>
      obtain ⟨-, heq⟩ := below?_eq_some_iff.1 hbelow
      obtain ⟨hd, hnode⟩ := Prod.mk.inj heq
      have he : p e = false := by
        have hnames := hp e.1 c hd
        rwa [hnode] at hnames
      simp [he]
  rw [entriesBelow_eq, entriesBelow_eq, List.filter_filterMap, List.filter_filterMap]
  refine SortedMap.filterMap_adjustEntries (fun _ => hfile content) fun node hnode => ?_
  have hd : t.node? d = some node := by
    rw [node?, if_neg hfree.ne_nil]
    exact SortedMap.find?_eq_some_iff.2 hnode
  obtain ⟨old, rfl⟩ := hfree.exists_file hd
  exact hfile old

/-- The rules in a directory are the same after a file was written that is no ignore file in it. -/
lemma readLevel_put {directory : Path} (hwf : t.WellFormed) (hfree : t.IsFree d)
    (h : ∀ name ∈ ignoreNames, t.filePlace? (join directory name) ≠ some d) :
    readLevel (t.put d (.file content)) directory = readLevel t directory := by
  have hrules : ∀ name ∈ ignoreNames,
      readRules (t.put d (.file content)) directory name = readRules t directory name := by
    intro name hname
    have hsame := read_put_eq_ok_iff hwf hfree (h name hname) content
    unfold readRules
    cases hread : t.read (join directory name) with
    | ok found => rw [(hsame found).2 hread]
    | error e =>
      cases hput : (t.put d (.file content)).read (join directory name) with
      | error e' => rfl
      | ok found =>
        rw [(hsame found).1 hput] at hread
        cases hread
  rw [readLevel, readLevel, hrules ".ignore" (by simp [ignoreNames]),
    hrules ".gitignore" (by simp [ignoreNames])]

namespace Overlooks

/-- The rules that bear on a walk are the same after a file was written that it overlooks. -/
lemma scopeOf_put (hwf : t.WellFormed) (hplace : t.node? place = some .directory)
    (h : Overlooks t root place false d) :
    scopeOf (t.put d (.file content)) root place = scopeOf t root place := by
  have hlevel : ∀ directory, RuleDirectory t root place directory →
      readLevel (t.put d (.file content)) directory = readLevel t directory := fun directory hd =>
    readLevel_put hwf h.free (h.noRules rfl directory hd)
  have hroot := hlevel root (.within [] (by simpa using hplace))
  have hinner : ((entriesBelow (t.put d (.file content)) place).filter fun e =>
        isDirectoryNode e.2).map (fun e =>
          (e.1, readLevel (t.put d (.file content)) (pathOf root e.1))) =
      ((entriesBelow t place).filter fun e => isDirectoryNode e.2).map fun e =>
        (e.1, readLevel t (pathOf root e.1)) := by
    rw [filter_entriesBelow_put h.free fun _ _ _ => rfl]
    refine List.map_congr_left fun e he => ?_
    rw [hlevel _ (ruleDirectory_of_mem he)]
  have houter : ((List.range place.length).reverse.map fun n =>
        readLevel (t.put d (.file content)) (absolutePath (place.take n))) =
      (List.range place.length).reverse.map fun n => readLevel t (absolutePath (place.take n)) := by
    refine List.map_congr_left fun n hn => hlevel _ (.above n ?_)
    simpa using hn
  rw [scopeOf, scopeOf, hroot, hinner, houter]

/-- A walk does not list a file that it overlooks. -/
lemma lists_eq_false (hplace : t.node? place = some .directory)
    (h : Overlooks t root place noIgnore d) (scope : Option Scope) {names : Place}
    (hd : d = place ++ names) (c : List UInt8) : lists root scope (names, .file c) = false := by
  obtain ⟨q, name, rfl, -, hname, hsource⟩ := h.named
  rcases List.eq_nil_or_concat' names with rfl | ⟨front, last, rfl⟩
  · rw [List.append_nil] at hd
    obtain ⟨old, hold⟩ := h.free.exists_file (hd ▸ hplace)
    cases hold
  · rw [← List.append_assoc] at hd
    obtain rfl := List.singleton_inj.1 (List.append_inj' hd rfl).2
    have hno : isSource (pathOf root (front ++ [name])) = false := by
      rwa [← Bool.not_eq_true, isSource_pathOf_iff root hname]
    simp [lists, hno]

/-- **A walk finds the same files** after a file was written that it overlooks. -/
lemma discoverBelow_put (hwf : t.WellFormed) (hplace : t.node? place = some .directory)
    (h : Overlooks t root place noIgnore d) :
    discoverBelow (t.put d (.file content)) root place noIgnore =
      discoverBelow t root place noIgnore := by
  have hscope : (if noIgnore then none else some (scopeOf (t.put d (.file content)) root place)) =
      if noIgnore then none else some (scopeOf t root place) := by
    cases noIgnore with
    | true => rfl
    | false => rw [h.scopeOf_put hwf hplace]
  have hfiles : (discoverBelow (t.put d (.file content)) root place noIgnore).files =
      (discoverBelow t root place noIgnore).files := by
    rw [discoverBelow_files, discoverBelow_files, hscope,
      filter_entriesBelow_put h.free fun _ c hd => h.lists_eq_false hplace _ hd c]
  have hfailures : (discoverBelow (t.put d (.file content)) root place noIgnore).failures =
      (discoverBelow t root place noIgnore).failures := by
    simp only [discoverBelow, hscope, List.filter_filter]
    rw [filter_entriesBelow_put h.free fun _ _ _ => rfl]
  have hext : ∀ a b : Discovery, a.files = b.files → a.failures = b.failures → a = b := by
    rintro ⟨⟩ ⟨⟩ rfl rfl
    rfl
  exact hext _ _ hfiles hfailures

/-- A root leads to the same directory after a file was written that a walk overlooks. -/
lemma entry_put (hroot : t.entry root = .ok (place, .directory))
    (h : Overlooks t root place noIgnore d) :
    (t.put d (.file content)).entry root = .ok (place, .directory) := by
  have hlocate := entry_eq_ok_iff.1 hroot
  have hne : place ≠ d := by
    rintro rfl
    obtain ⟨old, hold⟩ := h.free.exists_file (isIn_of_locate hlocate)
    cases hold
  rw [entry_eq_ok_iff, locate_put h.free content hlocate, Landing.put, if_neg hne]

/-- A file that a walk overlooks leaves the tree well-formed. -/
lemma wellFormed_put (hwf : t.WellFormed) (h : Overlooks t root place noIgnore d) :
    (t.put d (.file content)).WellFormed := by
  obtain ⟨q, name, rfl, hq, hname, -⟩ := h.named
  exact hwf.put hq hname h.free

/-- **The same files are found, with the same contents**, after a file was written that a walk
overlooks. -/
lemma foundFiles_put (hwf : t.WellFormed) (hroot : t.entry root = .ok (place, .directory))
    (h : Overlooks t root place noIgnore d) :
    foundFiles (t.put d (.file content)) root noIgnore = foundFiles t root noIgnore := by
  have hplace : t.node? place = some .directory := isIn_of_locate (entry_eq_ok_iff.1 hroot)
  have hdiscover : discover (t.put d (.file content)) root noIgnore = discover t root noIgnore := by
    rw [discover_of_directory hroot, discover_of_directory (h.entry_put hroot),
      h.discoverBelow_put hwf hplace]
  have hread : ∀ path ∈ (discover t root noIgnore).files,
      (t.put d (.file content)).read path = t.read path := by
    intro path hpath
    obtain ⟨names, name, found, hnode, hsource, rfl⟩ :=
      exists_entry_of_mem_discover hwf hroot hpath
    have hne : place ++ (names ++ [name]) ≠ d := by
      obtain ⟨q, last, rfl, -, -, hlast⟩ := h.named
      intro heq
      rw [← List.append_assoc] at heq
      obtain rfl := List.singleton_inj.1 (List.append_inj' heq rfl).2
      exact hlast hsource
    rw [read_pathOf hwf hroot (by simp) hnode, read_pathOf (h.wellFormed_put hwf)
      (h.entry_put hroot) (by simp) ((node?_put_of_ne hne).trans hnode)]
  rw [foundFiles, foundFiles, hdiscover]
  refine Prod.ext (List.map_congr_left fun path hpath => ?_) rfl
  rw [hread path hpath]

/-- After a file was written that a walk overlooks, the walk overlooks the same places as before. -/
lemma put {d' : Place} (hwf : t.WellFormed) (h : Overlooks t root place noIgnore d)
    (h' : Overlooks t root place noIgnore d') :
    Overlooks (t.put d (.file content)) root place noIgnore d' := by
  refine ⟨?_, ?_, fun hignore directory hdirectory name hname => ?_⟩
  · by_cases hsame : d' = d
    · subst hsame
      exact .inr ⟨content, h.free.node?_put⟩
    · rw [IsFree, node?_put_of_ne hsame]
      exact h'.free
  · obtain ⟨q, name, hd, hq, hname, hsource⟩ := h'.named
    exact ⟨q, name, hd, h.free.directory_put hq, hname, hsource⟩
  · rw [filePlace?_put hwf h.free]
    refine h'.noRules hignore directory ?_ name hname
    cases hdirectory with
    | within names hnode =>
      refine .within names ?_
      by_cases hsame : place ++ names = d
      · rw [hsame, h.free.node?_put] at hnode
        cases hnode
      · rwa [node?_put_of_ne hsame] at hnode
    | above n hn => exact .above n hn

end Overlooks

end Discovery

/-- **A scan has the same outcome** after a file was written that its walk overlooks. -/
lemma Discovery.Overlooks.scan_put {t : FileTree} {plan : ScanPlan} {place d : Place}
    {content : List UInt8} (workers : Workers) (hwf : t.WellFormed)
    (hroot : t.entry plan.root = .ok (place, .directory))
    (h : Overlooks t plan.root place plan.noIgnore d) :
    scan workers (t.put d (.file content)) plan = scan workers t plan := by
  have hput : (t.put d (.file content)).entry plan.root = .ok (place, .directory) :=
    h.entry_put hroot
  rw [scan, scan, h.foundFiles_put hwf hroot]
  simp only [FileTree.exists?, FileTree.isDirectory, hroot, hput]

end ImportAtlas
