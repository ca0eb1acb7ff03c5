import ImportAtlas.Proofs.FileTree.Writing
import ImportAtlas.Proofs.Path.Names

/-!
# Well-formed file trees

In the tree of a file system every entry has a name that a path can spell, and lies in a directory.
In such a tree a path names the same file before and after another file was written, and a path
that ends in the name of an entry, not of a link, names an entry of that name.

## Main definitions

* `ImportAtlas.FileTree.WellFormed`: the tree of a file system.

## Main results

* `ImportAtlas.FileTree.walk_append`: a walk to a directory and on from there.
* `ImportAtlas.FileTree.filePlace?_put`: a path names the same file after a file was written.
* `ImportAtlas.FileTree.WellFormed.write`: writing a file keeps a tree well-formed.
* `ImportAtlas.FileTree.exists_filePlace?_eq`: the name that a path ends in is that of its file.
-/

namespace ImportAtlas.FileTree

open ImportAtlas.Path

/-- The tree of a file system: every entry has names that a path can spell and lies in a directory,
and so does the place where relative paths start. -/
structure WellFormed (t : FileTree) : Prop where
  /-- Every name on the way to an entry is one that a path can spell. -/
  names : ∀ place node, t.node? place = some node → ∀ name ∈ place, IsName name
  /-- What has an entry is a directory. -/
  above : ∀ place name, t.node? (place ++ [name]) ≠ none → t.node? place = some .directory
  /-- Relative paths start in a directory. -/
  home : t.node? t.home = some .directory

variable {t : FileTree} {place start : Place} {node : FileNode} {content : List UInt8}
  {name : String} {path other : Path}

/-! ### Places -/

namespace WellFormed

/-- The tree of the root directory alone is well-formed. -/
lemma bare : (FileTree.bare []).WellFormed := by
  refine ⟨fun place node h => ?_, fun place name h => ?_, rfl⟩
  · rw [node?_bare] at h
    split at h
    · rename_i hplace
      simp [hplace]
    · cases h
  · simp [node?_bare] at h

/-- The directory above a directory is one. The root is above itself. -/
lemma dropLast (hwf : t.WellFormed) (h : t.node? place = some .directory) :
    t.node? place.dropLast = some .directory := by
  rcases List.eq_nil_or_concat' place with rfl | ⟨q, name, rfl⟩
  · exact h
  · simpa using hwf.above q name (by simp [h])

/-- An entry that is no directory has a name and lies in a directory. -/
lemma exists_parent (hwf : t.WellFormed) (h : t.node? place = some node)
    (hnode : node ≠ .directory) :
    ∃ q name, place = q ++ [name] ∧ IsName name ∧ t.node? q = some .directory := by
  rcases List.eq_nil_or_concat' place with rfl | ⟨q, name, rfl⟩
  · simp [node?, eq_comm, hnode] at h
  · exact ⟨q, name, rfl, hwf.names _ node h name (by simp), hwf.above q name (by simp [h])⟩

/-- A path starts at a directory. -/
lemma node?_origin (hwf : t.WellFormed) (path : Path) :
    t.node? (t.origin path) = some .directory := by
  rw [origin]
  split
  · rfl
  · exact hwf.home

/-- Something put at a free place of a directory keeps a tree well-formed. -/
lemma put (hwf : t.WellFormed) (hplace : t.node? place = some .directory) (hname : IsName name)
    (hfree : t.IsFree (place ++ [name])) : (t.put (place ++ [name]) node).WellFormed := by
  refine ⟨fun q found hq => ?_, fun q last hq => ?_, hfree.directory_put hwf.home⟩
  · by_cases hsame : q = place ++ [name]
    · subst hsame
      intro n hn
      rcases List.mem_append.1 hn with hn | hn
      · exact hwf.names place .directory hplace n hn
      · obtain rfl := List.mem_singleton.1 hn
        exact hname
    · rw [node?_put_of_ne hsame] at hq
      exact hwf.names q found hq
  · by_cases hsame : q ++ [last] = place ++ [name]
    · obtain ⟨rfl, -⟩ := List.append_inj' hsame rfl
      exact hfree.directory_put hplace
    · rw [node?_put_of_ne hsame] at hq
      exact hfree.directory_put (hwf.above q last hq)

/-- Something put at a free place of the root directory keeps a tree well-formed. -/
lemma put_name (hwf : t.WellFormed) (hname : IsName name) (hfree : t.IsFree [name]) :
    (t.put [name] node).WellFormed := by
  have hroot : t.node? [] = some .directory := rfl
  exact hwf.put hroot hname hfree

end WellFormed

/-! ### Walks -/

section Walk

variable {followLast : Bool} {links : Nat} {before rest pending : List String} {landing : Landing}

/-- **A walk to a directory goes on from there** with some links left, whatever steps come next.

**Proof sketch.** Induction on the walk: each step is made again in front of whatever comes next. A
link in last place is followed, because something comes next. -/
lemma walk_append (h : t.walk true links before start = .ok (.found place .directory)) :
    ∃ left, ∀ followLast rest, rest ≠ [] →
      t.walk followLast links (before ++ rest) start = t.walk followLast left rest place := by
  fun_induction walk t true links before start with
  | case1 => simp at h
  | case2 links start node hnode =>
    obtain ⟨rfl, -⟩ := Landing.found.inj (Except.ok.inj h)
    exact ⟨links, fun _ _ _ => rfl⟩
  | case3 links start more hdir ih =>
    obtain ⟨left, hleft⟩ := ih h
    refine ⟨left, fun f rest hrest => ?_⟩
    rw [List.cons_append, walk_here hdir, hleft f rest hrest]
  | case4 links start more hdir hhere ih =>
    obtain ⟨left, hleft⟩ := ih h
    refine ⟨left, fun f rest hrest => ?_⟩
    rw [List.cons_append, walk_up hdir, hleft f rest hrest]
  | case5 => simp at h
  | case6 => simp at h
  | case7 => simp at h
  | case8 links start step more hdir hhere hup hlength next target hnext hlast => simp at hlast
  | case9 => simp at h
  | case10 start step more hdir hhere hup hlength next target hnext hlast links ih =>
    obtain ⟨left, hleft⟩ := ih h
    refine ⟨left, fun f rest hrest => ?_⟩
    rw [List.cons_append, walk_link hdir hhere hup hlength hnext (by simp [hrest]),
      ← List.append_assoc]
    exact hleft f rest hrest
  | case11 links start step more hdir hhere hup hlength next node hplain hnext ih =>
    obtain ⟨left, hleft⟩ := ih h
    refine ⟨left, fun f rest hrest => ?_⟩
    rw [List.cons_append, walk_into hdir hhere hup hlength hnext hplain, hleft f rest hrest]
  | case12 => simp at h

/-- **A walk that leads somewhere passes through a directory** wherever its steps are cut.

**Proof sketch.** Induction on the walk to the cut. Where it fails or leads to anything else than a
directory, the whole walk fails too, as there is a step behind the cut. -/
lemma exists_walk_append (h : t.walk followLast links (before ++ rest) start = .ok landing)
    (hrest : rest ≠ []) :
    ∃ q left, t.walk true links before start = .ok (.found q .directory) ∧
      t.walk followLast left rest q = .ok landing := by
  obtain ⟨step, others, rfl⟩ := List.exists_cons_of_ne_nil hrest
  fun_induction walk t true links before start with
  | case1 links before start hnone =>
    rw [walk.eq_def, hnone] at h
    simp at h
  | case2 links start node hnode =>
    have hdir : node = .directory := by
      rw [List.nil_append, walk.eq_def, hnode] at h
      cases node <;> simp at h ⊢
    exact ⟨start, links, by rw [hdir], h⟩
  | case3 links start more hdir ih =>
    rw [List.cons_append, walk_here hdir] at h
    exact ih h
  | case4 links start more hdir hhere ih =>
    rw [List.cons_append, walk_up hdir] at h
    exact ih h
  | case5 links start step more hdir hhere hup hlength =>
    rw [List.cons_append, walk.eq_def, hdir] at h
    simp [hhere, hup, hlength] at h
  | case6 links start step hdir hhere hup hlength next hnext =>
    rw [List.cons_append, walk.eq_def, hdir] at h
    simp [hhere, hup, hlength, next, hnext] at h
  | case7 links start step more hdir hhere hup hlength next hnext hmore =>
    rw [List.cons_append, walk.eq_def, hdir] at h
    simp [hhere, hup, hlength, next, hnext] at h
  | case8 links start step more hdir hhere hup hlength next target hnext hlast => simp at hlast
  | case9 start step more hdir hhere hup hlength next target hnext hlast =>
    rw [List.cons_append, walk.eq_def, hdir] at h
    simp [hhere, hup, hlength, next, hnext] at h
  | case10 start step more hdir hhere hup hlength next target hnext hlast links ih =>
    rw [List.cons_append, walk_link hdir hhere hup hlength hnext (by simp),
      ← List.append_assoc] at h
    exact ih h
  | case11 links start step more hdir hhere hup hlength next node hplain hnext ih =>
    rw [List.cons_append, walk_into hdir hhere hup hlength hnext hplain] at h
    exact ih h
  | case12 links start step more node hnode hplain =>
    rw [List.cons_append, walk.eq_def, hplain] at h
    cases node <;> simp_all

/-- A name leads to the entry of that name in a directory, or where it is missing, unless it is the
name of a link and links are followed. -/
lemma walk_name (hdir : t.node? place = some .directory) (hname : IsName name)
    (h : t.walk followLast links [name] place = .ok landing) :
    landing = .vacant (place ++ [name]) ∨ (∃ node, landing = .found (place ++ [name]) node) ∨
      ∃ target, ∀ links',
        t.walk false links' [name] place = .ok (.found (place ++ [name]) (.link target)) := by
  obtain ⟨-, -, hhere, hup⟩ := hname
  have hlength : ¬maxNameBytes < name.utf8ByteSize := by
    intro hlong
    rw [walk.eq_def, hdir] at h
    simp [hhere, hup, hlong] at h
  cases hnext : t.node? (place ++ [name]) with
  | none =>
    rw [walk_missing hdir hhere hup hlength hnext] at h
    exact .inl (Except.ok.inj h).symm
  | some node =>
    by_cases hlink : ∃ target, node = .link target
    · obtain ⟨target, rfl⟩ := hlink
      exact .inr (.inr ⟨target, fun links' => walk_stop hdir hhere hup hlength hnext⟩)
    · rw [walk_into hdir hhere hup hlength hnext (fun target hn => hlink ⟨target, hn⟩),
        walk_nil hnext] at h
      exact .inr (.inl ⟨node, (Except.ok.inj h).symm⟩)

/-- Every step can be a name, or stands for the directory itself or the one above it. -/
def AreSteps (pending : List String) : Prop := ∀ step ∈ pending, step ≠ "" ∧ '/' ∉ step.toList

/-- The place of a missing name is in a directory, and the name is one that a path can spell. -/
lemma exists_parent_of_vacant (hsteps : AreSteps pending)
    (h : t.walk followLast links pending start = .ok (.vacant place)) :
    ∃ q name, place = q ++ [name] ∧ IsName name ∧ t.node? q = some .directory := by
  fun_induction walk t followLast links pending start with
  | case1 => simp at h
  | case2 => simp at h
  | case3 links start rest hdir ih => exact ih (fun s hs => hsteps s (.tail _ hs)) h
  | case4 links start rest hdir hhere ih => exact ih (fun s hs => hsteps s (.tail _ hs)) h
  | case5 => simp at h
  | case6 links start step hdir hhere hup hlength next hnext =>
    obtain ⟨hne, hslash⟩ := hsteps step List.mem_cons_self
    exact ⟨start, step, (Landing.vacant.inj (Except.ok.inj h)).symm, ⟨hne, hslash, hhere, hup⟩,
      hdir⟩
  | case7 => simp at h
  | case8 => simp at h
  | case9 => simp at h
  | case10 start step rest hdir hhere hup hlength next target hnext hlast left ih =>
    refine ih (fun s hs => ?_) h
    rcases List.mem_append.1 hs with hs | hs
    · exact of_mem_steps hs
    · exact hsteps s (.tail _ hs)
  | case11 links start step rest hdir hhere hup hlength next node hlink hnext ih =>
    exact ih (fun s hs => hsteps s (.tail _ hs)) h
  | case12 => simp at h

/-- **A walk that fails still fails after a file was put at a free place**, if perhaps for another
reason: what was missing in the middle of a path may be a file now.

**Proof sketch.** Induction on the walk. The new file changes no step but the one to its own place,
where something was missing or a file was already. A walk that goes on from there fails at the file.
-/
lemma exists_walk_put_error {e : FileError} (hwf : t.WellFormed) (hfree : t.IsFree place)
    (hstart : t.node? start ≠ none) (h : t.walk followLast links pending start = .error e) :
    ∃ e', (t.put place (.file content)).walk followLast links pending start = .error e' := by
  fun_induction walk t followLast links pending start with
  | case1 links pending start hnone => exact absurd hnone hstart
  | case2 => simp at h
  | case3 links start rest hdir ih =>
    rw [walk_here (hfree.directory_put hdir)]
    exact ih hstart h
  | case4 links start rest hdir hhere ih =>
    rw [walk_up (hfree.directory_put hdir)]
    exact ih (by simp [hwf.dropLast hdir]) h
  | case5 links start step rest hdir hhere hup hlength =>
    rw [walk.eq_def, hfree.directory_put hdir]
    simp [hhere, hup, hlength]
  | case6 => simp at h
  | case7 links start step rest hdir hhere hup hlength next hnext hrest =>
    obtain ⟨step', others, rfl⟩ := List.exists_cons_of_ne_nil hrest
    have hdir' : (t.put place (.file content)).node? start = some .directory :=
      hfree.directory_put hdir
    by_cases hend : next = place
    · obtain rfl : start ++ [step] = place := hend
      rw [walk_into hdir' hhere hup hlength hfree.node?_put (by simp), walk.eq_def,
        hfree.node?_put]
      exact ⟨_, rfl⟩
    · rw [walk.eq_def, hdir']
      simp [hhere, hup, hlength, next, (node?_put_of_ne hend).trans hnext]
  | case8 => simp at h
  | case9 start step rest hdir hhere hup hlength next target hnext hlast =>
    rw [walk.eq_def, hfree.directory_put hdir]
    simp [hhere, hup, hlength, next, hfree.link_put hnext, hlast]
  | case10 start step rest hdir hhere hup hlength next target hnext hlast left ih =>
    rw [walk_link (hfree.directory_put hdir) hhere hup hlength (hfree.link_put hnext) hlast]
    refine ih ?_ h
    split
    · simp [node?]
    · exact hstart
  | case11 links start step rest hdir hhere hup hlength next node hplain hnext ih =>
    rw [walk_into_put hdir hhere hup hlength hfree hnext hplain]
    exact ih (by simp [hnext]) h
  | case12 links start old step rest hnode hplain =>
    obtain ⟨new, hnew, hother⟩ : ∃ new,
        (t.put place (.file content)).node? start = some new ∧ new ≠ .directory := by
      by_cases hend : start = place
      · subst hend
        exact ⟨.file content, hfree.node?_put, by simp⟩
      · exact ⟨old, (node?_put_of_ne hend).trans hplain, by rintro rfl; exact hnode rfl⟩
    rw [walk.eq_def, hnew]
    cases new <;> simp_all

end Walk

/-! ### Files -/

/-- A lone dot leads to where relative paths start. -/
lemma locate_here (hwf : t.WellFormed) (followLast : Bool) :
    t.locate followLast "." = .ok (.found t.home .directory) := by
  have hrefusal : refusal? "." = none := by decide +kernel
  have hsteps : steps "." = ["."] := by decide +kernel
  have hrelative : isAbsolute "." = false := by decide +kernel
  simp [locate, hrefusal, hsteps, origin, hrelative, walk_here hwf.home, walk_nil hwf.home]

/-- A path of a single name, with or without a dot in front, that the system takes. -/
def IsNear (path : Path) (name : String) : Prop :=
  refusal? path = none ∧ isAbsolute path = false ∧
    (steps path = [name] ∨ steps path = [".", name]) ∧
    IsName name ∧ ¬maxNameBytes < name.utf8ByteSize

instance : Decidable (IsNear path name) :=
  inferInstanceAs (Decidable (_ ∧ _ ∧ (_ ∨ _) ∧ _ ∧ _))

/-- A path of a single name leads to the entry of that name where relative paths start. -/
lemma locate_near (hwf : t.WellFormed) (hnear : IsNear path name) (followLast : Bool) :
    t.locate followLast path = t.walk followLast maxLinks [name] t.home := by
  obtain ⟨hrefusal, hrelative, hsteps, -⟩ := hnear
  obtain h | h := hsteps <;> simp [locate, hrefusal, origin, hrelative, h, walk_here hwf.home]

/-- A path of a single name that is missing. -/
lemma locate_near_missing (hwf : t.WellFormed) (hnear : IsNear path name)
    (h : t.node? (t.home ++ [name]) = none) (followLast : Bool) :
    t.locate followLast path = .ok (.vacant (t.home ++ [name])) := by
  rw [locate_near hwf hnear]
  obtain ⟨-, -, -, ⟨-, -, hhere, hup⟩, hlength⟩ := hnear
  exact walk_missing hwf.home hhere hup hlength h

/-- A path of a single name that is there and is no link. -/
lemma locate_near_found (hwf : t.WellFormed) (hnear : IsNear path name)
    (h : t.node? (t.home ++ [name]) = some node) (hlink : ∀ target, node ≠ .link target)
    (followLast : Bool) : t.locate followLast path = .ok (.found (t.home ++ [name]) node) := by
  rw [locate_near hwf hnear]
  obtain ⟨-, -, -, ⟨-, -, hhere, hup⟩, hlength⟩ := hnear
  rw [walk_into hwf.home hhere hup hlength h hlink, walk_nil h]

/-- A path of a single name that is free names the file of that name. -/
lemma filePlace?_near (hwf : t.WellFormed) (hnear : IsNear path name)
    (h : t.IsFree (t.home ++ [name])) : t.filePlace? path = some (t.home ++ [name]) := by
  obtain hnone | ⟨old, hfile⟩ := h
  · rw [filePlace?, locate_near_missing hwf hnear hnone]
  · rw [filePlace?, locate_near_found hwf hnear hfile (by simp)]

/-- A path that leads nowhere still leads nowhere after a file was put at a free place. -/
lemma exists_locate_put_error {followLast : Bool} {e : FileError} (hwf : t.WellFormed)
    (hfree : t.IsFree place) (content : List UInt8) (h : t.locate followLast path = .error e) :
    ∃ e', (t.put place (.file content)).locate followLast path = .error e' := by
  unfold locate at h ⊢
  split at h
  · exact ⟨_, rfl⟩
  · have hstart : t.node? (t.origin path) ≠ none := by simp [hwf.node?_origin]
    exact exists_walk_put_error hwf hfree hstart h

/-- A file that can be read by a joined path has the name that the path ends in, or a link to it
has. -/
lemma exists_node_of_read {base : Path} (hname : IsName name)
    (h : t.read (join base name) = .ok content) : ∃ q, t.node? (q ++ [name]) ≠ none := by
  obtain ⟨place, hlocate⟩ := read_eq_ok_iff.1 h
  unfold locate at hlocate
  split at hlocate
  · cases hlocate
  rw [steps_join base hname] at hlocate
  obtain ⟨q, left, hq, hlast⟩ := exists_walk_append hlocate (by simp)
  have hne : ∀ {node}, t.node? (q ++ [name]) = some node → t.node? (q ++ [name]) ≠ none := by
    rintro node hnode hnone
    cases hnode.symm.trans hnone
  obtain hvacant | ⟨node, hfound⟩ | ⟨target, hlink⟩ := walk_name (isIn_of_walk hq) hname hlast
  · cases hvacant
  · exact ⟨q, hne (isIn_of_walk (hlast.trans (congrArg _ hfound)))⟩
  · exact ⟨q, hne (isIn_of_walk (hlink 0))⟩

/-- **A path names the same file before and after a file was put at a free place.** -/
lemma filePlace?_put (hwf : t.WellFormed) (hfree : t.IsFree place) (path : Path) :
    (t.put place (.file content)).filePlace? path = t.filePlace? path := by
  cases hlocate : t.locate true path with
  | error e =>
    obtain ⟨e', he'⟩ := exists_locate_put_error hwf hfree content hlocate
    rw [filePlace?, filePlace?, hlocate, he']
  | ok landing =>
    rw [filePlace?, filePlace?, hlocate, locate_put hfree content hlocate]
    have hin := isIn_of_locate hlocate
    cases landing with
    | vacant q =>
      by_cases hq : q = place <;> simp [Landing.put, hq]
    | found q node =>
      by_cases hq : q = place
      · subst hq
        obtain ⟨old, rfl⟩ := hfree.exists_file hin
        simp [Landing.put]
      · simp [Landing.put, hq]

/-- A file is read the same way after another file was put at a free place. -/
lemma read_put_eq_ok_iff (hwf : t.WellFormed) (hfree : t.IsFree place)
    (hpath : t.filePlace? path ≠ some place) (content found : List UInt8) :
    (t.put place (.file content)).read path = .ok found ↔ t.read path = .ok found := by
  cases hlocate : t.locate true path with
  | error e =>
    obtain ⟨e', he'⟩ := exists_locate_put_error hwf hfree content hlocate
    simp [read, entry, hlocate, he']
  | ok landing =>
    have hagain := locate_put hfree content hlocate
    have hin := isIn_of_locate hlocate
    have hend : landing.put place (.file content) = landing := by
      cases landing with
      | vacant q =>
        have hq : q ≠ place := by
          rintro rfl
          exact hpath (filePlace?_eq_some_iff.2 ⟨_, hlocate, .inl rfl⟩)
        simp [Landing.put, hq]
      | found q node =>
        have hq : q ≠ place := by
          rintro rfl
          obtain ⟨old, rfl⟩ := hfree.exists_file hin
          exact hpath (filePlace?_eq_some_iff.2 ⟨_, hlocate, .inr ⟨old, rfl⟩⟩)
        simp [Landing.put, hq]
    rw [read, read, entry, entry, hlocate, hagain, hend]

/-- A text is read the same way after another file was written. -/
lemma readText_put (hwf : t.WellFormed) (hfree : t.IsFree place)
    (hpath : t.filePlace? path ≠ some place) {text : String} (h : t.readText path = .ok text) :
    (t.put place (.file content)).readText path = .ok text := by
  unfold readText at h ⊢
  cases hread : t.read path with
  | error e => simp [hread] at h
  | ok found =>
    rw [(read_put_eq_ok_iff hwf hfree hpath content found).2 hread]
    rwa [hread] at h

/-- A path leads to a file just if the file can be read. -/
lemma isFile_iff : t.isFile path = true ↔ ∃ content, t.read path = .ok content := by
  rw [isFile, read]
  rcases t.entry path with e | ⟨q, node⟩
  · simp
  · cases node <;> simp

/-- A path leads to a file still, or still does not, after another file was written. -/
lemma isFile_put (hwf : t.WellFormed) (hfree : t.IsFree place)
    (hpath : t.filePlace? path ≠ some place) :
    (t.put place (.file content)).isFile path = t.isFile path := by
  rw [Bool.eq_iff_iff, isFile_iff, isFile_iff]
  exact exists_congr fun found => read_put_eq_ok_iff hwf hfree hpath content found

/-- The file that a path names is in a directory, with a name that a path can spell. -/
lemma exists_parent_of_filePlace? (hwf : t.WellFormed) (h : t.filePlace? path = some place) :
    ∃ q name, place = q ++ [name] ∧ IsName name ∧ t.node? q = some .directory := by
  obtain ⟨landing, hlocate, hlanding⟩ := filePlace?_eq_some_iff.1 h
  obtain rfl | ⟨old, rfl⟩ := hlanding
  · unfold locate at hlocate
    split at hlocate
    · simp at hlocate
    · exact exists_parent_of_vacant (fun _ hs => of_mem_steps hs) hlocate
  · exact hwf.exists_parent (isIn_of_locate hlocate) (by simp)

/-- **Writing a file keeps a tree well-formed.** -/
lemma WellFormed.write (hwf : t.WellFormed) (h : t.filePlace? path = some place) :
    (t.put place (.file content)).WellFormed := by
  obtain ⟨q, name, rfl, hname, hq⟩ := exists_parent_of_filePlace? hwf h
  exact hwf.put hq hname (isFree_of_filePlace? h)

/-- A path that names a file ends in a name.

**Proof sketch.** A path without steps, and one whose last step is a dot or two dots, leads to a
directory, because it is cut in front of the last step at a directory. So the last step is a name.
-/
lemma exists_steps_of_filePlace? (hwf : t.WellFormed) (h : t.filePlace? path = some place) :
    ∃ before name, steps path = before ++ [name] ∧ IsName name := by
  obtain ⟨landing, hlocate, hlanding⟩ := filePlace?_eq_some_iff.1 h
  unfold locate at hlocate
  split at hlocate
  · simp at hlocate
  rcases List.eq_nil_or_concat' (steps path) with hnil | ⟨before, name, hsteps⟩
  · rw [hnil, walk_nil (hwf.node?_origin path)] at hlocate
    obtain rfl := Except.ok.inj hlocate
    simp at hlanding
  refine ⟨before, name, hsteps, ?_⟩
  have hmem : name ∈ steps path := by simp [hsteps]
  obtain ⟨hne, hslash⟩ := of_mem_steps hmem
  rw [hsteps] at hlocate
  obtain ⟨q, left, hq, hlast⟩ := exists_walk_append hlocate (by simp)
  have hdir : t.node? q = some .directory := isIn_of_walk hq
  refine ⟨hne, hslash, ?_, ?_⟩
  · rintro rfl
    rw [walk_here hdir, walk_nil hdir] at hlast
    obtain rfl := Except.ok.inj hlast
    simp at hlanding
  · rintro rfl
    rw [walk_up hdir, walk_nil (hwf.dropLast hdir)] at hlast
    obtain rfl := Except.ok.inj hlast
    simp at hlanding

/-- **A path that names a file and leads to no link ends in the name of the file.** -/
lemma exists_filePlace?_eq (hwf : t.WellFormed) (h : t.filePlace? path = some place)
    (hlink : ∀ q target, t.locate false path ≠ .ok (.found q (.link target))) :
    ∃ q name, place = q ++ [name] ∧ IsName name ∧ path.fileName? = some name := by
  obtain ⟨before, name, hsteps, hname⟩ := exists_steps_of_filePlace? hwf h
  obtain ⟨landing, hlocate, hlanding⟩ := filePlace?_eq_some_iff.1 h
  unfold locate at hlocate hlink
  split at hlocate
  · simp at hlocate
  rename_i hrefusal
  simp only [hrefusal, hsteps] at hlink
  rw [hsteps] at hlocate
  obtain ⟨q, left, hq, hlast⟩ := exists_walk_append hlocate (by simp)
  refine ⟨q, name, ?_, hname, fileName?_of_steps hsteps hname⟩
  obtain rfl | ⟨node, rfl⟩ | ⟨target, htarget⟩ := walk_name (isIn_of_walk hq) hname hlast
  · simpa [eq_comm] using hlanding
  · obtain ⟨hplace, -⟩ : place = q ++ [name] ∧ ∃ old, node = .file old := by
      simpa [eq_comm] using hlanding
    exact hplace
  · obtain ⟨left, hleft⟩ := walk_append hq
    have hstop := hleft false [name] (by simp)
    exact absurd (hstop.trans (htarget left)) (hlink _ _)

end ImportAtlas.FileTree
