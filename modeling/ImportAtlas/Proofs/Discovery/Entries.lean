import ImportAtlas.Discovery
import ImportAtlas.Proofs.FileTree.WellFormed

/-!
# The entries that a walk comes to

A walk without a scope comes to what can be reached through directories alone. It goes through the
entries of the tree in the order of their names, and that is the order of their paths.

## Main definitions

* `ImportAtlas.Discovery.Reached`: the entries that a walk comes to if nothing is left out.
* `ImportAtlas.Discovery.IsSourceName`: the name of a source file.
* `ImportAtlas.Discovery.lists`: whether a walk lists an entry.

## Main results

* `ImportAtlas.Discovery.components_pathOf`: the components of an entry's path.
* `ImportAtlas.Discovery.reached_iff`: a walk comes to an entry just if the directories above it can
  be opened.
* `ImportAtlas.Discovery.discoverBelow_files`: the files of a walk among the entries of the tree.
-/

namespace ImportAtlas

open ImportAtlas.Path

/-! ### The order of paths -/

namespace Path

/-- The rank of a component among those of other kinds. Names come last. -/
def Component.rank : Component → Nat
  | .root => 0
  | .here => 1
  | .up => 2
  | .name _ => 3

/-- Components are in the order of their kinds, and names in the order of their texts. -/
instance : Ord Component where
  compare a b := (compare a.rank b.rank).then (compare (a.name?.getD "") (b.name?.getD ""))

instance : Std.ReflOrd Component where
  compare_self {c} := by
    have hrank : compare c.rank c.rank = .eq := Std.ReflCmp.compare_self
    have hname : compare (c.name?.getD "") (c.name?.getD "") = .eq := Std.ReflCmp.compare_self
    rw [compare, instOrdComponent]
    simp only [hrank, hname, Ordering.then]

/-- What two lists start with has no part in their order. -/
lemma compare_append_left {α : Type} [Ord α] [Std.ReflOrd α] (front a b : List α) :
    compare (front ++ a) (front ++ b) = compare a b := by
  induction front with
  | nil => rfl
  | cons x more ih => simp [List.compare_cons_cons, Std.ReflCmp.compare_self, ih]

/-- Components that are names are in the order of the names. -/
lemma compare_map_name (a b : List String) :
    compare (a.map Component.name) (b.map Component.name) = compare a b := by
  induction a generalizing b with
  | nil => cases b <;> rfl
  | cons x more ih =>
    cases b with
    | nil => rfl
    | cons y others =>
      have hhead : compare (Component.name x) (Component.name y) = compare x y := rfl
      simp only [List.map_cons, List.compare_cons_cons, hhead, ih]

end Path

namespace Discovery

open FileTree Ignore

variable {t : FileTree} {root path : Path} {place names other : Place} {node : FileNode}
  {name : String} {content : List UInt8} {isDirectory : Bool}

/-! ### Paths of entries -/

/-- The path of an entry is that of its directory joined with its name. -/
lemma pathOf_concat (root : Path) (names : Place) (name : String) :
    pathOf root (names ++ [name]) = join (pathOf root names) name := by
  simp [pathOf]

section PathOf

variable (hnames : ∀ name ∈ names, IsName name)
include hnames

/-- The path of an entry is not empty. -/
lemma pathOf_ne_empty (hroot : root ≠ "") : pathOf root names ≠ "" := by
  rcases List.eq_nil_or_concat' names with rfl | ⟨front, name, rfl⟩
  · exact hroot
  · rw [pathOf_concat]
    exact join_ne_empty _ (hnames name (by simp))

/-- **The components of an entry's path** are those of the root and then its names. -/
lemma components_pathOf :
    (pathOf root names).components = root.components ++ names.map .name :=
  components_foldl_join root hnames

/-- Different entries have different paths. -/
lemma eq_of_pathOf_eq (hother : ∀ name ∈ other, IsName name)
    (h : pathOf root names = pathOf root other) : names = other := by
  have hmap : names.map Component.name = other.map Component.name := by
    have hcomponents : (pathOf root names).components = _ := components_pathOf hnames
    rw [h, components_pathOf hother] at hcomponents
    exact (List.append_cancel_left hcomponents).symm
  exact List.map_injective_iff.2 (fun _ _ h => Component.name.inj h) hmap

/-- Paths of entries are in the order of the entries. -/
lemma compare_pathOf (hother : ∀ name ∈ other, IsName name) :
    compare (pathOf root names).components (pathOf root other).components =
      compare names other := by
  rw [components_pathOf hnames, components_pathOf hother, compare_append_left, compare_map_name]

end PathOf

/-! ### Source files -/

/-- The name of a source file: something, and the extension after a dot. -/
def IsSourceName (name : String) : Prop := ∃ stem, stem ≠ "" ∧ name = stem ++ ".swift"

/-- A path has the extension of source files if it ends in the name of one. -/
lemma extension?_eq_source_iff (h : path.fileName? = some name) :
    path.extension? = some sourceExtension ↔ IsSourceName name := by
  have hdot : '.' ∉ sourceExtension.toList := by decide
  have htext : ∀ stem : String, stem ++ "." ++ sourceExtension = stem ++ ".swift" := fun stem =>
    String.append_assoc
  rw [extension?_eq_some_iff h]
  simp only [IsSourceName, htext, hdot, not_false_iff, and_true]

/-- The path of a source file ends in its name. -/
lemma isSource_pathOf_iff (root : Path) (hname : IsName name) :
    isSource (pathOf root (names ++ [name])) = true ↔ IsSourceName name := by
  rw [isSource, beq_iff_eq, extension?_eq_source_iff]
  rw [pathOf_concat, fileName?_join _ hname]

/-! ### Entries -/

/-- A walk from a root at a place comes to an entry of these names if nothing is left out: each
directory above it, the root among them, can be opened by its path. No link is followed, since a
link is no directory. -/
inductive Reached (t : FileTree) (root : Path) (place : Place) : Place → FileNode → Prop where
  /-- A walk starts at the root. -/
  | root : Reached t root place [] .directory
  /-- From a directory that can be opened it goes on to all entries. -/
  | entry {names : Place} {name : String} {node : FileNode}
      (above : Reached t root place names .directory) (opened : canOpen root names = true)
      (here : t.node? (place ++ (names ++ [name])) = some node) :
      Reached t root place (names ++ [name]) node

/-- In the tree of a file system a walk comes to an entry just if the directories above it can be
opened.

**Proof sketch.** Forwards by induction on the walk, which opens each directory before it goes on.
Backwards by induction on the names from behind, as what is above an entry is a directory. -/
lemma reached_iff (hwf : t.WellFormed) (hplace : t.node? place = some .directory) :
    Reached t root place names node ↔ t.node? (place ++ names) = some node ∧
      ∀ n < names.length, canOpen root (names.take n) = true := by
  constructor
  · intro h
    induction h with
    | root => simpa using hplace
    | @entry names name node above opened here ih =>
      refine ⟨here, fun n hn => ?_⟩
      rw [List.length_append, List.length_singleton, Nat.lt_succ_iff] at hn
      rw [List.take_append_of_le_length hn]
      rcases hn.lt_or_eq with hn | rfl
      · exact ih.2 n hn
      · simpa using opened
  · rintro ⟨hnode, hopen⟩
    induction names using List.reverseRecOn generalizing node with
    | nil =>
      obtain rfl : node = .directory := by simpa [hplace, eq_comm] using hnode
      exact .root
    | append_singleton front last ih =>
      have hdir : t.node? (place ++ front) = some .directory :=
        hwf.above _ last (by simp [hnode])
      refine .entry (ih hdir fun n hn => ?_) ?_ hnode
      · have hfront := hopen n (by simp; omega)
        rwa [List.take_append_of_le_length hn.le] at hfront
      · simpa using hopen front.length (by simp)

/-- The names on the way to an entry are ones that a path can spell. -/
lemma Reached.isName (hwf : t.WellFormed) (hplace : t.node? place = some .directory)
    (h : Reached t root place names node) : ∀ name ∈ names, IsName name := fun name hname =>
  hwf.names _ node ((reached_iff hwf hplace).1 h).1 name (by simp [hname])

/-- An entry of a tree as one below a place, if it is there. -/
def below? (place : Place) (e : Place × FileNode) : Option (Place × FileNode) :=
  match dropPrefix? e.1 place with
  | some (name :: names) => some (name :: names, e.2)
  | _ => none

/-- An entry is below a place if its names start with those of the place and go on. -/
lemma below?_eq_some_iff {e e' : Place × FileNode} :
    below? place e = some e' ↔ e'.1 ≠ [] ∧ e = (place ++ e'.1, e'.2) := by
  obtain ⟨p, node⟩ := e
  obtain ⟨names, node'⟩ := e'
  rw [below?]
  split
  · rename_i first more hdrop
    obtain rfl := dropPrefix?_eq_some_iff.1 hdrop
    constructor
    · rintro ⟨⟩
      exact ⟨by simp, rfl⟩
    · rintro ⟨-, heq⟩
      simpa using heq
  · rename_i hnone
    refine iff_of_false (by simp) ?_
    rintro ⟨hne, heq⟩
    obtain ⟨rfl, -⟩ := Prod.mk.inj heq
    obtain ⟨first, more, rfl⟩ := List.exists_cons_of_ne_nil hne
    exact hnone first more (dropPrefix?_eq_some_iff.2 rfl)

/-- The entries below a place are among those of the tree. -/
lemma entriesBelow_eq (t : FileTree) (place : Place) :
    entriesBelow t place = t.nodes.entries.filterMap (below? place) := rfl

/-- The entries below a place. -/
lemma mem_entriesBelow_iff :
    (names, node) ∈ entriesBelow t place ↔ names ≠ [] ∧ t.node? (place ++ names) = some node := by
  simp only [entriesBelow_eq, List.mem_filterMap, below?_eq_some_iff]
  constructor
  · rintro ⟨e, he, hne, rfl⟩
    exact ⟨hne, by simpa [node?, hne, SortedMap.find?_eq_some_iff] using he⟩
  · rintro ⟨hne, h⟩
    exact ⟨_, by simpa [node?, hne, SortedMap.find?_eq_some_iff] using h, hne, rfl⟩

/-- The entries below a place are in the order of their names. -/
lemma pairwise_entriesBelow (t : FileTree) (place : Place) :
    (entriesBelow t place).Pairwise fun a b => compare a.1 b.1 = .lt := by
  rw [entriesBelow_eq, List.pairwise_filterMap]
  refine t.nodes.ascending.imp fun hlt a ha b hb => ?_
  obtain ⟨-, rfl⟩ := below?_eq_some_iff.1 ha
  obtain ⟨-, rfl⟩ := below?_eq_some_iff.1 hb
  rwa [compare_append_left] at hlt

/-! ### Files -/

/-- Whether a walk lists an entry: it comes to the entry, which is a source file. -/
def lists (root : Path) (scope : Option Scope) (e : Place × FileNode) : Bool :=
  reaches root scope e.1 (isDirectoryNode e.2) && (isFileNode e.2 && isSource (pathOf root e.1))

/-- **The files of a walk** are the paths of the entries that it lists. -/
lemma discoverBelow_files (t : FileTree) (root : Path) (place : Place) (noIgnore : Bool) :
    (discoverBelow t root place noIgnore).files =
      ((entriesBelow t place).filter
        (lists root (if noIgnore then none else some (scopeOf t root place)))).map
          fun e => pathOf root e.1 := by
  simp only [discoverBelow, List.filter_filter, List.filter_map, Function.comp_def]
  refine congrArg _ (List.filter_congr fun e _ => ?_)
  rw [lists]
  ac_rfl

/-- A walk comes to an entry if nothing is left out. -/
lemma reaches_none_iff :
    reaches root none names isDirectory = true ↔
      ∀ n < names.length, canOpen root (names.take n) = true := by
  simp [reaches]

/-- A walk that leaves out what a scope skips comes to an entry if no step to it is skipped. -/
lemma reaches_some_iff {s : Scope} :
    reaches root (some s) names isDirectory = true ↔
      reaches root none names isDirectory = true ∧
        ∀ n < names.length,
          s.skips (names.take (n + 1)) (n + 1 != names.length || isDirectory) = false := by
  simp [reaches, forall_and]

/-- What a walk lists although it leaves out what a scope skips, it lists anyway. -/
lemma lists_none_of_some {s : Scope} {e : Place × FileNode} (h : lists root (some s) e = true) :
    lists root none e = true := by
  rw [lists, Bool.and_eq_true, reaches_some_iff] at h
  rw [lists, Bool.and_eq_true]
  exact ⟨h.1.1, h.2⟩

end Discovery

end ImportAtlas
