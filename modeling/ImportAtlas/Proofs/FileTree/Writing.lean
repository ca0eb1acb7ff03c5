import ImportAtlas.FileTree.Access
import ImportAtlas.Proofs.Sorted.Map
import ImportAtlas.Proofs.Text.Utf8

/-!
# Reading what was written

A file that was written is read back, by the path that it was written to. Writing changes one place
only, and that place is no directory and no link, so all paths lead the same way as before.

## Main definitions

* `ImportAtlas.Landing.IsIn`: a tree has what the end of a path says.
* `ImportAtlas.Landing.put`: the end of a path after a file was put at a place.
* `ImportAtlas.FileTree.IsFree`: a place where a file can be put.
* `ImportAtlas.FileTree.filePlace?`: the place of the file that a path names.

## Main results

* `ImportAtlas.FileTree.isIn_of_walk`: the end of a walk is in the tree.
* `ImportAtlas.FileTree.walk_put`: a walk leads the same way after a file was put somewhere.
* `ImportAtlas.FileTree.write_eq_ok_iff`: what a write does, and when it succeeds.
* `ImportAtlas.FileTree.read_write`, `ImportAtlas.FileTree.readText_writeText`: reading what was
  written.
-/

namespace ImportAtlas

/-- A tree has at a place what the end of a path says. -/
def Landing.IsIn (t : FileTree) : Landing → Prop
  | .found place node => t.node? place = some node
  | .vacant place => t.node? place = none

/-- The end of a path after a node was put at a place. -/
def Landing.put (place : Place) (node : FileNode) : Landing → Landing
  | .found other old => if other = place then .found place node else .found other old
  | .vacant other => if other = place then .found place node else .vacant other

namespace FileTree

variable {t t' : FileTree} {place other : Place} {node : FileNode}

/-! ### Places -/

/-- What is at a place after it was put there. -/
lemma node?_put_self (h : place ≠ []) : (t.put place node).node? place = some node := by
  rw [node?, if_neg h]
  exact SortedMap.find?_adjust_self t.nodes place fun _ => node

/-- What is at the other places stays. -/
lemma node?_put_of_ne (h : other ≠ place) : (t.put place node).node? other = t.node? other := by
  have hfind : (t.put place node).nodes.find? other = t.nodes.find? other :=
    SortedMap.find?_adjust_of_ne t.nodes h fun _ => node
  rw [node?, node?, hfind]

/-- What is where after something was put at a place. -/
lemma node?_put (h : place ≠ []) :
    (t.put place node).node? other = if other = place then some node else t.node? other := by
  by_cases hother : other = place
  · rw [hother, node?_put_self h, if_pos rfl]
  · rw [node?_put_of_ne hother, if_neg hother]

/-- The tree of the root directory alone. -/
lemma node?_bare : (bare []).node? place = if place = [] then some .directory else none := rfl

/-- What is put at a place replaces what was put there before. -/
lemma put_put_self (t : FileTree) (place : Place) (old new : FileNode) :
    (t.put place old).put place new = t.put place new := by
  have hnodes : (t.nodes.insert place old).insert place new = t.nodes.insert place new :=
    SortedMap.ext_find? fun key => by
      simp only [SortedMap.find?_insert]
      split <;> rfl
  rw [put, put, put, hnodes]

/-- What is put at different places can be put there in either order. -/
lemma put_comm (t : FileTree) (h : place ≠ other) (a b : FileNode) :
    (t.put place a).put other b = (t.put other b).put place a := by
  have hnodes : (t.nodes.insert place a).insert other b = (t.nodes.insert other b).insert place a :=
    SortedMap.ext_find? fun key => by
      simp only [SortedMap.find?_insert]
      grind
  rw [put, put, put, put, hnodes]

/-- There is nothing at a place, or a file. So a file can be put there. -/
def IsFree (t : FileTree) (place : Place) : Prop :=
  t.node? place = none ∨ ∃ old, t.node? place = some (.file old)

/-- The root is not free. -/
lemma IsFree.ne_nil (h : t.IsFree place) : place ≠ [] := by
  rintro rfl
  simp [IsFree, node?] at h

namespace IsFree

variable {new : FileNode}

/-- What is put at a free place is there. -/
lemma node?_put (h : t.IsFree place) : (t.put place new).node? place = some new :=
  node?_put_self h.ne_nil

/-- An entry at a free place is a file. -/
lemma exists_file (h : t.IsFree place) (hnode : t.node? place = some node) :
    ∃ old, node = .file old := by
  obtain hnone | ⟨old, hfile⟩ := h
  · rw [hnone] at hnode
    cases hnode
  · exact ⟨old, Option.some.inj (hnode.symm.trans hfile)⟩

/-- Directories and links stay when something is put at a free place. -/
lemma node?_put_of_not_file (h : t.IsFree place) (hother : t.node? other = some node)
    (hnode : ∀ old, node ≠ .file old) : (t.put place new).node? other = some node := by
  rw [node?_put_of_ne, hother]
  rintro rfl
  obtain ⟨old, rfl⟩ := h.exists_file hother
  exact hnode old rfl

/-- Directories stay when something is put at a free place. -/
lemma directory_put (h : t.IsFree place) (hother : t.node? other = some .directory) :
    (t.put place new).node? other = some .directory :=
  h.node?_put_of_not_file hother (by simp)

/-- Links stay when something is put at a free place. -/
lemma link_put {target : Path} (h : t.IsFree place) (hother : t.node? other = some (.link target)) :
    (t.put place new).node? other = some (.link target) :=
  h.node?_put_of_not_file hother (by simp)

end IsFree

/-! ### Walks -/

section Walk

variable {followLast : Bool} {links : Nat} {step : String} {rest pending : List String}

/-- Without steps a walk ends where it is. -/
lemma walk_nil (h : t.node? place = some node) :
    t.walk followLast links [] place = .ok (.found place node) := by
  rw [walk.eq_def, h]

/-- A dot stays in its directory. -/
lemma walk_here (h : t.node? place = some .directory) :
    t.walk followLast links ("." :: rest) place = t.walk followLast links rest place := by
  rw [walk.eq_def, h]
  simp

/-- Two dots go up. -/
lemma walk_up (h : t.node? place = some .directory) :
    t.walk followLast links (".." :: rest) place = t.walk followLast links rest place.dropLast := by
  rw [walk.eq_def, h]
  simp

section Step

variable (h : t.node? place = some .directory) (hhere : step ≠ ".") (hup : step ≠ "..")
  (hlength : ¬maxNameBytes < step.utf8ByteSize)
include h hhere hup hlength

/-- A last name that is missing leads to where it would be. -/
lemma walk_missing (hnext : t.node? (place ++ [step]) = none) :
    t.walk followLast links [step] place = .ok (.vacant (place ++ [step])) := by
  rw [walk.eq_def, h]
  simp [hhere, hup, hlength, hnext]

/-- A last name of a link that is not followed leads to the link. -/
lemma walk_stop {target : Path} (hnext : t.node? (place ++ [step]) = some (.link target)) :
    t.walk false links [step] place = .ok (.found (place ++ [step]) (.link target)) := by
  rw [walk.eq_def, h]
  simp [hhere, hup, hlength, hnext]

/-- A name of a link that is followed leads where the link does. -/
lemma walk_link {target : Path} (hnext : t.node? (place ++ [step]) = some (.link target))
    (hlast : ¬(rest = [] ∧ followLast = false)) :
    t.walk followLast (links + 1) (step :: rest) place =
      t.walk followLast links (steps target ++ rest) (if isAbsolute target then [] else place) := by
  rw [walk.eq_def, h]
  simp only [hhere, hup, hlength, if_false]
  split <;> simp_all

/-- Any other name leads to its entry. -/
lemma walk_into (hnext : t.node? (place ++ [step]) = some node)
    (hnode : ∀ target, node ≠ .link target) :
    t.walk followLast links (step :: rest) place =
      t.walk followLast links rest (place ++ [step]) := by
  rw [walk.eq_def, h]
  simp only [hhere, hup, hlength, if_false]
  cases node with
  | link target => exact absurd rfl (hnode target)
  | directory => split <;> simp_all
  | file content => split <;> simp_all

/-- A name of a directory or a file leads to its entry also after a file was put at a free place,
which may be that of the entry. -/
lemma walk_into_put {other : Place} {content : List UInt8} (hfree : t.IsFree other)
    (hnext : t.node? (place ++ [step]) = some node) (hnode : ∀ target, node ≠ .link target) :
    (t.put other (.file content)).walk followLast links (step :: rest) place =
      (t.put other (.file content)).walk followLast links rest (place ++ [step]) := by
  by_cases hend : place ++ [step] = other
  · subst hend
    exact walk_into (hfree.directory_put h) hhere hup hlength hfree.node?_put (by simp)
  · exact walk_into (hfree.directory_put h) hhere hup hlength ((node?_put_of_ne hend).trans hnext)
      hnode

end Step

/-- **The end of a walk is in the tree.** -/
lemma isIn_of_walk {start : Place} {landing : Landing}
    (h : t.walk followLast links pending start = .ok landing) : landing.IsIn t := by
  fun_induction walk t followLast links pending start with
  | case1 => simp at h
  | case2 links start node hnode =>
    obtain rfl := Except.ok.inj h
    exact hnode
  | case3 links start rest hdir ih => exact ih h
  | case4 links start rest hdir hhere ih => exact ih h
  | case5 => simp at h
  | case6 links start step hdir hhere hup hlength next hnext =>
    obtain rfl := Except.ok.inj h
    exact hnext
  | case7 => simp at h
  | case8 links start step rest hdir hhere hup hlength next target hnext hlast =>
    obtain rfl := Except.ok.inj h
    exact hnext
  | case9 => simp at h
  | case10 start step rest hdir hhere hup hlength next target hnext hlast left ih => exact ih h
  | case11 links start step rest hdir hhere hup hlength next node hlink hnext ih => exact ih h
  | case12 => simp at h

/-- A walk whose last step is a dot ends at a directory.

**Proof sketch.** Induction on the walk. The last dot is only reached at a directory, and stays in
last place as the walk goes on, also behind the steps of a link. -/
lemma found_directory_of_walk {start : Place} {landing : Landing}
    (h : t.walk followLast links pending start = .ok landing)
    (hlast : pending.getLast? = some ".") : ∃ place, landing = .found place .directory := by
  fun_induction walk t followLast links pending start with
  | case1 => simp at h
  | case2 => simp at hlast
  | case3 links start rest hdir ih =>
    cases rest with
    | nil =>
      rw [walk_nil hdir] at h
      exact ⟨start, (Except.ok.inj h).symm⟩
    | cons step more => exact ih h (by simpa using hlast)
  | case4 links start rest hdir hhere ih =>
    cases rest with
    | nil => simp at hlast
    | cons step more => exact ih h (by simpa using hlast)
  | case5 => simp at h
  | case6 links start step hdir hhere => simp [hhere] at hlast
  | case7 => simp at h
  | case8 links start step rest hdir hhere hup hlength next target hnext hstop =>
    simp [hstop.1, hhere] at hlast
  | case9 => simp at h
  | case10 start step rest hdir hhere hup hlength next target hnext hstop left ih =>
    refine ih h ?_
    cases rest with
    | nil => simp [hhere] at hlast
    | cons step more => simpa using hlast
  | case11 links start step rest hdir hhere hup hlength next node hlink hnext ih =>
    cases rest with
    | nil => simp [hhere] at hlast
    | cons step more => exact ih h (by simpa using hlast)
  | case12 => simp at h

/-- **A walk leads the same way after a file was put at a free place**, and finds the file if it
ends there.

**Proof sketch.** Induction on the walk. It passes through directories and links, none of which is
at the place that changes. At the last step the place had no entry or a file, and now has a file. -/
lemma walk_put {content : List UInt8} {start : Place} {landing : Landing} (hfree : t.IsFree place)
    (h : t.walk followLast links pending start = .ok landing) :
    (t.put place (.file content)).walk followLast links pending start =
      .ok (landing.put place (.file content)) := by
  fun_induction walk t followLast links pending start with
  | case1 => simp at h
  | case2 links start node hnode =>
    obtain rfl := Except.ok.inj h
    by_cases hend : start = place
    · subst hend
      simp [Landing.put, walk_nil hfree.node?_put]
    · simp [Landing.put, hend, walk_nil ((node?_put_of_ne hend).trans hnode)]
  | case3 links start rest hdir ih => rw [walk_here (hfree.directory_put hdir), ih h]
  | case4 links start rest hdir hhere ih => rw [walk_up (hfree.directory_put hdir), ih h]
  | case5 => simp at h
  | case6 links start step hdir hhere hup hlength next hnext =>
    obtain rfl := Except.ok.inj h
    have hdir' : (t.put place (.file content)).node? start = some .directory :=
      hfree.directory_put hdir
    by_cases hend : next = place
    · obtain rfl : start ++ [step] = place := hend
      rw [walk_into hdir' hhere hup hlength hfree.node?_put (by simp), walk_nil hfree.node?_put]
      simp [Landing.put, next]
    · rw [walk_missing hdir' hhere hup hlength ((node?_put_of_ne hend).trans hnext)]
      simp [Landing.put, hend, next]
  | case7 => simp at h
  | case8 links start step rest hdir hhere hup hlength next target hnext hlast =>
    obtain rfl := Except.ok.inj h
    obtain ⟨rfl, rfl⟩ := hlast
    have hend : next ≠ place := by
      rintro rfl
      obtain ⟨old, hold⟩ := hfree.exists_file hnext
      cases hold
    rw [walk_stop (hfree.directory_put hdir) hhere hup hlength (hfree.link_put hnext)]
    simp [Landing.put, hend, next]
  | case9 => simp at h
  | case10 start step rest hdir hhere hup hlength next target hnext hlast left ih =>
    rw [walk_link (hfree.directory_put hdir) hhere hup hlength (hfree.link_put hnext) hlast]
    exact ih h
  | case11 links start step rest hdir hhere hup hlength next node hplain hnext ih =>
    rw [walk_into_put hdir hhere hup hlength hfree hnext hplain]
    exact ih h
  | case12 => simp at h

end Walk

/-! ### Files -/

/-- A path leads to an entry. -/
lemma entry_eq_ok_iff {path : Path} :
    t.entry path = .ok (place, node) ↔ t.locate true path = .ok (.found place node) := by
  rw [entry]
  rcases t.locate true path with e | (⟨q, found⟩ | q) <;> simp

/-- A file that can be read is an entry. -/
lemma read_eq_ok_iff {path : Path} {content : List UInt8} :
    t.read path = .ok content ↔
      ∃ place, t.locate true path = .ok (.found place (.file content)) := by
  rw [read, entry]
  rcases t.locate true path with e | (⟨q, found⟩ | q)
  · simp
  · cases found <;> simp
  · simp

/-- The empty path leads nowhere. -/
lemma ne_empty_of_locate {followLast : Bool} {path : Path} {landing : Landing}
    (h : t.locate followLast path = .ok landing) : path ≠ "" := by
  rintro rfl
  have hrefusal : refusal? "" = some .notFound := by decide +kernel
  simp [locate, hrefusal] at h

/-- The end of a path is in the tree. -/
lemma isIn_of_locate {followLast : Bool} {path : Path} {landing : Landing}
    (h : t.locate followLast path = .ok landing) : landing.IsIn t := by
  unfold locate at h
  split at h
  · simp at h
  · exact isIn_of_walk h

/-- A path leads the same way after a file was put at a free place. -/
lemma locate_put {followLast : Bool} {path : Path} {landing : Landing} (hfree : t.IsFree place)
    (content : List UInt8) (h : t.locate followLast path = .ok landing) :
    (t.put place (.file content)).locate followLast path =
      .ok (landing.put place (.file content)) := by
  unfold locate at h ⊢
  split at h
  · simp at h
  · exact walk_put hfree h

/-- A path that leads to a file or to a missing last name leads to a free place. -/
lemma isFree_of_locate {followLast : Bool} {path : Path} {landing : Landing}
    (h : t.locate followLast path = .ok landing)
    (hlanding : landing = .vacant place ∨ ∃ old, landing = .found place (.file old)) :
    t.IsFree place := by
  have hin := isIn_of_locate h
  obtain rfl | ⟨old, rfl⟩ := hlanding
  · exact .inl hin
  · exact .inr ⟨old, hin⟩

/-- The place of the file that a path names: the place of a file, or of a name that alone is missing
from its directory. -/
def filePlace? (t : FileTree) (path : Path) : Option Place :=
  match t.locate true path with
  | .ok (.found place (.file _)) => some place
  | .ok (.vacant place) => some place
  | _ => none

/-- A path names a file where it leads to the file or to its missing name. -/
lemma filePlace?_eq_some_iff {path : Path} :
    t.filePlace? path = some place ↔ ∃ landing, t.locate true path = .ok landing ∧
      (landing = .vacant place ∨ ∃ old, landing = .found place (.file old)) := by
  unfold filePlace?
  split
  · rename_i hlocate
    simp [hlocate]
  · rename_i hlocate
    simp [hlocate]
  · rename_i hfile hvacant
    refine iff_of_false (by simp) ?_
    rintro ⟨landing, hlocate, rfl | ⟨old, rfl⟩⟩
    · exact hvacant place hlocate
    · exact hfile place old hlocate

/-- The place of a file that a path names is free. -/
lemma isFree_of_filePlace? {path : Path} (h : t.filePlace? path = some place) :
    t.IsFree place := by
  obtain ⟨landing, hlocate, hlanding⟩ := filePlace?_eq_some_iff.1 h
  exact isFree_of_locate hlocate hlanding

/-- A path that ends in a slash names no file. -/
lemma filePlace?_of_endsInSlash {path : Path} (h : endsInSlash path = true) :
    t.filePlace? path = none := by
  rw [Option.eq_none_iff_forall_ne_some]
  intro place hplace
  obtain ⟨landing, hlocate, hlanding⟩ := filePlace?_eq_some_iff.1 hplace
  unfold locate at hlocate
  split at hlocate
  · simp at hlocate
  · obtain ⟨other, rfl⟩ := found_directory_of_walk hlocate (by simp [steps, h])
    simp at hlanding

/-- **A write puts the content at the place that the path names**, and it succeeds just if there is
such a place. -/
lemma write_eq_ok_iff {path : Path} {content : List UInt8} :
    t.write path content = .ok t' ↔
      ∃ place, t.filePlace? path = some place ∧ t' = t.put place (.file content) := by
  unfold write
  split
  · rename_i hslash
    rw [filePlace?_of_endsInSlash hslash.2]
    split <;> simp
  · unfold filePlace?
    rcases t.locate true path with e | (⟨place, node⟩ | place)
    · simp
    · cases node <;> simp [eq_comm]
    · simp [eq_comm]

/-- **A file that was written is read back.** -/
lemma read_write {path : Path} {content : List UInt8} (h : t.write path content = .ok t') :
    t'.read path = .ok content := by
  obtain ⟨place, hplace, rfl⟩ := write_eq_ok_iff.1 h
  obtain ⟨landing, hlocate, hlanding⟩ := filePlace?_eq_some_iff.1 hplace
  have hagain := locate_put (isFree_of_filePlace? hplace) content hlocate
  have hend : landing.put place (.file content) = .found place (.file content) := by
    obtain rfl | ⟨old, rfl⟩ := hlanding <;> simp [Landing.put]
  rw [read, entry, hagain, hend]

/-- **A text that was written is read back.** -/
lemma readText_writeText {path : Path} {text : String} (h : t.writeText path text = .ok t') :
    t'.readText path = .ok text := by
  rw [readText, read_write h]
  simp [Utf8.decode?_encode]

end FileTree

end ImportAtlas
