import ImportAtlas.FileTree.Basic
import Mathlib.Data.List.Basic
import Mathlib.Data.List.TakeWhile
import Mathlib.Tactic.Lemma

/-!
# Names on paths

A path that was joined from a directory and a name has the components of the directory and then the
name, and to walk along it is to walk to the directory and take one more step.

## Main definitions

* `ImportAtlas.Path.IsName`: a text that can name an entry of a directory.
* `ImportAtlas.Path.namesAlong`: the names on a path, dots among them.

## Main results

* `ImportAtlas.Path.components_join`, `ImportAtlas.Path.components_foldl_join`: the components of a
  joined path, and of a path joined with several names.
* `ImportAtlas.Path.fileName?_join`: the name that a joined path ends in.
* `ImportAtlas.Path.extension?_eq_some_iff`: the extension of a name.
* `ImportAtlas.FileTree.steps_join`: the steps along a joined path.
* `ImportAtlas.FileTree.fileName?_of_steps`: a path whose last step is a name ends in that name.
-/

namespace ImportAtlas

namespace Path

variable {name : String} {base path : Path} {text rest segment : List Char}

/-- A text that can name an entry of a directory: without a slash, and not taken by the directory
itself or the one above it. -/
def IsName (name : String) : Prop := name ≠ "" ∧ '/' ∉ name.toList ∧ name ≠ "." ∧ name ≠ ".."

instance : Decidable (IsName name) := inferInstanceAs (Decidable (_ ∧ _ ∧ _ ∧ _))

/-! ### Segments -/

/-- A text has at least one segment. -/
lemma exists_segments_eq_cons (text : List Char) : ∃ s more, segments text = s :: more := by
  cases text with
  | nil => exact ⟨[], [], rfl⟩
  | cons c rest =>
    rw [segments]
    split
    · exact ⟨_, _, rfl⟩
    · split <;> exact ⟨_, _, rfl⟩

/-- A text is cut at a slash. -/
lemma segments_append_slash (text rest : List Char) :
    segments (text ++ '/' :: rest) = segments text ++ segments rest := by
  induction text with
  | nil => simp [segments]
  | cons c more ih =>
    obtain ⟨s, others, hs⟩ := exists_segments_eq_cons more
    simp only [List.cons_append, segments, ih, hs]
    split <;> rfl

/-- A text without a slash is one segment. -/
lemma segments_of_not_mem (h : '/' ∉ text) : segments text = [text] := by
  induction text with
  | nil => rfl
  | cons c more ih =>
    rw [List.mem_cons, not_or] at h
    rw [segments, if_neg (Ne.symm h.1), ih h.2]

/-- No segment has a slash. -/
lemma not_mem_of_mem_segments (h : segment ∈ segments text) : '/' ∉ segment := by
  induction text generalizing segment with
  | nil =>
    obtain rfl := List.mem_singleton.1 h
    simp
  | cons c more ih =>
    obtain ⟨s, others, hs⟩ := exists_segments_eq_cons more
    rw [segments] at h
    split at h
    · rcases List.mem_cons.1 h with rfl | h
      · simp
      · exact ih h
    · rename_i hc
      rw [hs] at h ih
      rcases List.mem_cons.1 h with rfl | h
      · simpa [Ne.symm hc] using ih List.mem_cons_self
      · exact ih (List.mem_cons_of_mem _ h)

/-- Only the empty text is one empty segment. -/
lemma eq_nil_of_segments (h : segments text = [[]]) : text = [] := by
  cases text with
  | nil => rfl
  | cons c more =>
    obtain ⟨s, others, hs⟩ := exists_segments_eq_cons more
    rw [segments, hs] at h
    split at h <;> simp_all

/-! ### Joined paths -/

/-- A name does not start with a slash. -/
lemma IsName.head?_ne (h : IsName name) : name.toList.head? ≠ some '/' := fun hhead =>
  h.2.1 (List.mem_of_mem_head? hhead)

/-- A name has a character. -/
lemma IsName.toList_ne_nil (h : IsName name) : name.toList ≠ [] := by simpa using h.1

/-- The segments of a joined path are those of the directory and then the name. An empty segment
after the last slash of the directory gives way to the name. -/
lemma segments_join (base : Path) (h : IsName name) :
    ∃ before, segments (join base name).toList = before ++ [name.toList] ∧
      (segments base.toList = before ∨ segments base.toList = before ++ [[]]) := by
  have hname := segments_of_not_mem h.2.1
  rw [join, if_neg h.head?_ne]
  split
  · rename_i hbase
    obtain rfl | hslash := hbase
    · exact ⟨[], by simpa using hname, .inr rfl⟩
    · obtain ⟨front, hfront⟩ := List.getLast?_eq_some_iff.1 hslash
      refine ⟨segments front, ?_, .inr ?_⟩
      · simp [hfront, segments_append_slash, hname]
      · simp [hfront, segments_append_slash, segments]
  · exact ⟨segments base.toList, by simp [segments_append_slash, hname], .inl rfl⟩

/-- A joined path starts as its directory does. -/
lemma head?_join (hbase : base ≠ "") (h : IsName name) :
    (join base name).toList.head? = base.toList.head? := by
  obtain ⟨c, more, hc⟩ := List.exists_cons_of_ne_nil (l := base.toList) (by simpa using hbase)
  rw [join, if_neg h.head?_ne]
  split <;> simp [hc]

/-- A joined path ends as its name does. -/
lemma getLast?_join (h : IsName name) :
    (join base name).toList.getLast? = name.toList.getLast? := by
  have hlast : ∀ front : List Char, (front ++ name.toList).getLast? = name.toList.getLast? :=
    fun front => by simp [List.getLast?_append, List.getLast?_eq_some_getLast h.toList_ne_nil]
  rw [join, if_neg h.head?_ne]
  split <;> simp only [String.toList_append, hlast]

/-- A name is its own component. -/
lemma segmentComponent?_name (h : IsName name) :
    segmentComponent? name.toList = some (.name name) := by
  have hdot : name.toList ≠ ['.'] := fun hn => h.2.2.1 (String.toList_injective hn)
  have hdots : name.toList ≠ ['.', '.'] := fun hn => h.2.2.2 (String.toList_injective hn)
  simp [segmentComponent?, h.1, hdot, hdots]

/-- A name is a path of one component. -/
lemma components_name (h : IsName name) : components name = [.name name] := by
  have hdot : name.toList ≠ ['.'] := fun hn => h.2.2.1 (String.toList_injective hn)
  rw [components, leadingComponents, if_neg h.head?_ne, segments_of_not_mem h.2.1]
  simp [hdot, segmentComponent?_name h]

/-- **A joined path has the components of its directory and then the name.** -/
lemma components_join (base : Path) (h : IsName name) :
    (join base name).components = base.components ++ [.name name] := by
  by_cases hbase : base = ""
  · subst hbase
    have hjoin : join "" name = name := by simp [join, h.head?_ne]
    rw [hjoin, components_name h]
    rfl
  obtain ⟨before, hjoin, hbefore⟩ := segments_join base h
  have hne : before ≠ [] := by
    rintro rfl
    obtain hnil | hempty := hbefore
    · obtain ⟨s, more, hs⟩ := exists_segments_eq_cons base.toList
      simp [hs] at hnil
    · exact hbase (by simpa using eq_nil_of_segments hempty)
  have hhead : (segments (join base name).toList).head? = (segments base.toList).head? := by
    obtain ⟨s, more, rfl⟩ := List.exists_cons_of_ne_nil hne
    obtain hb | hb := hbefore <;> rw [hjoin, hb] <;> rfl
  have hmiddle : (segments base.toList).filterMap segmentComponent? =
      before.filterMap segmentComponent? := by
    obtain hb | hb := hbefore <;> simp [hb, segmentComponent?]
  have hleading : leadingComponents (join base name).toList = leadingComponents base.toList := by
    rw [leadingComponents, leadingComponents, head?_join hbase h, hhead]
  rw [components, components, hleading, hmiddle, hjoin]
  simp [segmentComponent?_name h]

/-- **A path joined with names one after the other has the components of its directory and then the
names.** -/
lemma components_foldl_join (root : Path) {names : List String} (h : ∀ n ∈ names, IsName n) :
    (names.foldl join root).components = root.components ++ names.map .name := by
  induction names generalizing root with
  | nil => simp
  | cons n rest ih =>
    obtain ⟨hn, hrest⟩ := List.forall_mem_cons.1 h
    rw [List.foldl_cons, ih _ hrest, components_join root hn, List.append_assoc]
    rfl

/-- The names on a path, those among them that stand for the directory itself or the one above it
included. -/
def namesAlong (path : Path) : List String :=
  ((segments path.toList).filter (· ≠ [])).map String.ofList

/-- The names on a joined path. -/
lemma namesAlong_join (base : Path) (h : IsName name) :
    namesAlong (join base name) = namesAlong base ++ [name] := by
  obtain ⟨before, hjoin, hbefore⟩ := segments_join base h
  have hfilter : (segments base.toList).filter (· ≠ []) = before.filter (· ≠ []) := by
    obtain hb | hb := hbefore <;> simp [hb]
  rw [namesAlong, namesAlong, hjoin, hfilter]
  simp [h.1]

/-- A name on a path is not empty and has no slash. -/
lemma of_mem_namesAlong (h : name ∈ namesAlong path) : name ≠ "" ∧ '/' ∉ name.toList := by
  obtain ⟨segment, hsegment, rfl⟩ := List.mem_map.1 h
  obtain ⟨hmem, hne⟩ := List.mem_filter.1 hsegment
  exact ⟨by simpa using hne, by simpa using not_mem_of_mem_segments hmem⟩

/-- A path whose last name is one of an entry ends in that name. -/
lemma fileName?_of_namesAlong {before : List String} (h : namesAlong path = before ++ [name])
    (hname : IsName name) : path.fileName? = some name := by
  have hskip : (segments path.toList).filterMap segmentComponent? =
      (namesAlong path).filterMap fun n => segmentComponent? n.toList := by
    rw [namesAlong, List.filterMap_map, List.filterMap_filter]
    refine List.filterMap_congr fun s _ => ?_
    by_cases hs : s = [] <;> simp [hs, segmentComponent?]
  rw [fileName?, components, hskip, h]
  simp [segmentComponent?_name hname, Component.name?]

/-- **A joined path ends in its name.** -/
lemma fileName?_join (base : Path) (h : IsName name) : (join base name).fileName? = some name :=
  fileName?_of_namesAlong (namesAlong_join base h) h

/-- A joined path is not empty. -/
lemma join_ne_empty (base : Path) (h : IsName name) : join base name ≠ "" := by
  intro hjoin
  have hlast : (join base name).toList.getLast? = name.toList.getLast? := getLast?_join h
  rw [hjoin] at hlast
  exact h.toList_ne_nil (by simpa using hlast.symm)

/-- A list leaves `rest` after another just if it is the other and then `rest`. -/
lemma dropPrefix?_eq_some_iff {α : Type} [DecidableEq α] {whole front rest : List α} :
    dropPrefix? whole front = some rest ↔ whole = front ++ rest := by
  fun_induction dropPrefix? whole front with
  | case1 => simp
  | case2 a whole front ih => simpa using ih
  | case3 a whole b front hne => simp [hne]
  | case4 => simp

/-! ### Extensions -/

/-- A name is cut at its last dot, if anything stands before that dot. -/
lemma splitName_append {stem ext : List Char} (hstem : stem ≠ []) (hext : '.' ∉ ext) :
    splitName (stem ++ '.' :: ext) = (stem, some ext) := by
  obtain ⟨c, before, hc⟩ := List.exists_cons_of_ne_nil (l := stem.reverse) (by simpa using hstem)
  obtain rfl : stem = (c :: before).reverse := by rw [← hc, List.reverse_reverse]
  have hplain : ∀ x ∈ ext.reverse, decide (x ≠ '.') = true := by
    intro x hx
    rw [decide_eq_true_iff]
    rintro rfl
    exact hext (List.mem_reverse.1 hx)
  have hreverse : ((c :: before).reverse ++ '.' :: ext).reverse =
      ext.reverse ++ '.' :: c :: before := by simp
  rw [splitName, hreverse, List.dropWhile_append_of_pos hplain,
    List.takeWhile_append_of_pos hplain]
  simp

/-- The extension of a name is what follows its last dot, if anything stands before that dot. -/
lemma splitName_snd_eq_some_iff {ext : List Char} :
    (splitName text).2 = some ext ↔ ∃ stem, stem ≠ [] ∧ text = stem ++ '.' :: ext ∧ '.' ∉ ext := by
  constructor
  · intro h
    rw [splitName] at h
    split at h
    · rename_i d c before hdrop
      obtain rfl := Option.some.inj h
      have hdot : d = '.' := by
        have hhead := List.head?_dropWhile_not (· ≠ '.') text.reverse
        rw [hdrop] at hhead
        simpa using hhead
      have hwhole : text.reverse.takeWhile (· ≠ '.') ++ d :: c :: before = text.reverse :=
        hdrop ▸ List.takeWhile_append_dropWhile
      refine ⟨(c :: before).reverse, by simp, ?_, fun hmem => ?_⟩
      · simpa [hdot] using (congrArg List.reverse hwhole).symm
      · simpa using List.mem_takeWhile_imp (List.mem_reverse.1 hmem)
    · cases h
  · rintro ⟨stem, hne, rfl, hext⟩
    rw [splitName_append hne hext]

/-- A path has an extension just if its name has a last dot that does not start it. -/
lemma extension?_eq_some_iff {ext : String} (h : path.fileName? = some name) :
    path.extension? = some ext ↔
      ∃ stem, stem ≠ "" ∧ name = stem ++ "." ++ ext ∧ '.' ∉ ext.toList := by
  have hsplit : path.extension? = some ext ↔ (splitName name.toList).2 = some ext.toList := by
    rw [extension?, h]
    simp [Option.map_eq_some_iff, ← String.toList_inj]
  rw [hsplit, splitName_snd_eq_some_iff]
  constructor
  · rintro ⟨stem, hne, htext, hext⟩
    refine ⟨String.ofList stem, by simpa using hne, ?_, hext⟩
    simp [← String.toList_inj, htext]
  · rintro ⟨stem, hne, rfl, hext⟩
    exact ⟨stem.toList, by simpa using hne, by simp, hext⟩

end Path

/-! ### Steps -/

namespace FileTree

open ImportAtlas.Path

variable {name : String} {base path : Path}

/-- The steps along a path are its names. A slash at the end asks for one more. -/
lemma steps_eq (path : Path) :
    steps path = namesAlong path ++ if endsInSlash path then ["."] else [] := rfl

/-- No step is empty or has a slash. -/
lemma of_mem_steps (h : name ∈ steps path) : name ≠ "" ∧ '/' ∉ name.toList := by
  rw [steps_eq] at h
  rcases List.mem_append.1 h with h | h
  · exact of_mem_namesAlong h
  · split at h
    · obtain rfl := List.mem_singleton.1 h
      decide
    · simp at h

/-- A joined path does not end in a slash. -/
lemma endsInSlash_join (base : Path) (h : IsName name) : endsInSlash (join base name) = false := by
  rw [endsInSlash, getLast?_join h]
  have hne : name.toList.getLast? ≠ some '/' := fun hlast => h.2.1 (List.mem_of_getLast? hlast)
  simpa using hne

/-- **The steps along a joined path** are the names on the path to the directory, and its name. -/
lemma steps_join (base : Path) (h : IsName name) :
    steps (join base name) = namesAlong base ++ [name] := by
  rw [steps_eq, endsInSlash_join base h, namesAlong_join base h]
  simp

/-- A joined path starts where its directory's path starts. -/
lemma origin_join (t : FileTree) (hbase : base ≠ "") (h : IsName name) :
    t.origin (join base name) = t.origin base := by
  rw [origin, origin, isAbsolute, isAbsolute, head?_join hbase h]

/-- A path whose last step is a name of an entry ends in that name. -/
lemma fileName?_of_steps {before : List String} (h : steps path = before ++ [name])
    (hname : IsName name) : path.fileName? = some name := by
  rw [steps_eq] at h
  split at h
  · have hlast := (List.append_inj' h rfl).2
    exact absurd (List.singleton_inj.1 hlast).symm hname.2.2.1
  · exact fileName?_of_namesAlong (by simpa using h) hname

end FileTree

end ImportAtlas
