import ImportAtlas.Proofs.Path.Relative

/-!
# Paths with another extension

A path with another extension lies beside the path: it has the same components but for the last
name, and that name keeps its stem. The text of the path may go on behind its last name, with
slashes and lone dots, which are dropped.

## Main definitions

* `ImportAtlas.Path.LacksName`: a path does not end in a name.
* `ImportAtlas.Path.Beside`: two paths lie in the same directory and have the same stem.

## Main results

* `ImportAtlas.Path.splitName_cases`: the two parts of a name.
* `ImportAtlas.Path.fileName?_eq_none_iff`: which paths do not end in a name.
* `ImportAtlas.Path.exists_directory_of_fileName?`: a path that ends in a name is joined from a
  directory and the name, but for what may follow.
* `ImportAtlas.Path.same_withExtension_iff`: when another extension makes no difference.
* `ImportAtlas.Path.beside_withExtension`: where the path with another extension lies otherwise.
-/

namespace ImportAtlas.Path

variable {text : List Char} {path : Path} {name extension : String}

/-! ### The parts of a name -/

/-- A name without an extension is its own stem. -/
lemma splitName_of_none (h : (splitName text).2 = none) : splitName text = (text, none) := by
  unfold splitName at h ⊢
  split at h
  · cases h
  · rfl

/-- A name is its stem, or its stem with a dot and its extension. -/
lemma splitName_cases (text : List Char) :
    splitName text = (text, none) ∨ ∃ stem ext, stem ≠ [] ∧ '.' ∉ ext ∧ text = stem ++ '.' :: ext ∧
      splitName text = (stem, some ext) := by
  cases h : (splitName text).2 with
  | none => exact .inl (splitName_of_none h)
  | some ext =>
    obtain ⟨stem, hstem, htext, hext⟩ := splitName_snd_eq_some_iff.1 h
    exact .inr ⟨stem, ext, hstem, hext, htext, by rw [htext, splitName_append hstem hext]⟩

/-- The stem begins the name, and is not empty if the name is not. -/
lemma exists_splitName_fst_append (text : List Char) :
    (∃ rest, text = (splitName text).1 ++ rest) ∧ (text ≠ [] → (splitName text).1 ≠ []) := by
  obtain h | ⟨stem, ext, hstem, -, htext, h⟩ := splitName_cases text
  · rw [h]
    exact ⟨⟨[], by simp⟩, id⟩
  · rw [h]
    exact ⟨⟨_, htext⟩, fun _ => hstem⟩

/-! ### Paths that end in no name -/

/-- A path does not end in a name: it is empty, it is the directory where paths start, the root
directory, or it ends with a step to the directory above. -/
def LacksName (path : Path) : Prop :=
  path = "" ∨ path.components = [.here] ∨ path.components = [.root] ∨
    path.components.getLast? = some .up

instance : DecidablePred LacksName := fun _ => inferInstanceAs (Decidable (_ ∨ _ ∨ _ ∨ _))

/-- Only the empty path has no component. -/
lemma components_eq_nil_iff : path.components = [] ↔ path = "" := by
  refine ⟨fun h => ?_, fun h => by subst h; rfl⟩
  obtain ⟨hleading, hrest⟩ := List.append_eq_nil_iff.1 h
  cases htext : path.toList with
  | nil => exact String.toList_eq_nil_iff.1 htext
  | cons c rest =>
    obtain ⟨s, more, hs⟩ := exists_segments_eq_cons path.toList
    have hskip : segmentComponent? s = none := by
      rw [hs, List.filterMap_eq_nil_iff] at hrest
      exact hrest s List.mem_cons_self
    rw [leadingComponents, hs, htext] at hleading
    split_ifs at hleading with hroot hhere
    rw [segmentComponent?] at hskip
    split_ifs at hskip with hblank
    obtain rfl | rfl := hblank
    · rw [htext, segments] at hs
      split_ifs at hs with hslash
      · simp [hslash] at hroot
      · split at hs <;> simp at hs
    · exact absurd rfl hhere

/-- A segment is a name or a step to the directory above, if it is a component. -/
lemma eq_up_or_name_of_segmentComponent? {segment : List Char} {c : Component}
    (h : segmentComponent? segment = some c) :
    c = .up ∨ c = .name (String.ofList segment) := by
  rw [segmentComponent?] at h
  split_ifs at h
  · exact .inl (Option.some.inj h).symm
  · exact .inr (Option.some.inj h).symm

/-- A path that ends at the root directory or at the directory where paths start has no other
component: only the start of a path can be one of them. -/
lemma components_eq_of_getLast? {c : Component} (h : path.components.getLast? = some c)
    (hc : c = .root ∨ c = .here) : path.components = [c] := by
  rw [components] at h ⊢
  cases hrest : ((segments path.toList).filterMap segmentComponent?).getLast? with
  | some last =>
    obtain ⟨segment, -, hlast⟩ := List.mem_filterMap.1 (List.mem_of_getLast? hrest)
    rw [List.getLast?_append, hrest, Option.some_or, Option.some.injEq] at h
    obtain rfl | rfl := eq_up_or_name_of_segmentComponent? hlast <;> simp [← h] at hc
  | none =>
    rw [List.getLast?_eq_none_iff.1 hrest, List.append_nil] at h ⊢
    unfold leadingComponents at h ⊢
    split_ifs at h ⊢ <;> simp_all

/-- The name that a path ends in is its last component. -/
lemma getLast?_of_fileName? (h : path.fileName? = some name) :
    path.components.getLast? = some (.name name) := by
  obtain ⟨c, hc, hcname⟩ := Option.bind_eq_some_iff.1 h
  cases c <;> simp [Component.name?] at hcname
  rw [hc, hcname]

/-- **Which paths do not end in a name.** -/
lemma fileName?_eq_none_iff : path.fileName? = none ↔ path.LacksName := by
  rw [fileName?, LacksName, ← components_eq_nil_iff]
  cases hlast : path.components.getLast? with
  | none => simp [List.getLast?_eq_none_iff.1 hlast]
  | some c =>
    have hne : path.components ≠ [] := by
      intro hnil
      simp [hnil] at hlast
    cases c with
    | root => simp [components_eq_of_getLast? hlast (.inl rfl), Component.name?]
    | here => simp [components_eq_of_getLast? hlast (.inr rfl), Component.name?]
    | up => simp [Component.name?]
    | name text =>
      have hother : ∀ c : Component, path.components = [c] → c = .name text := by
        intro c hc
        simpa [hc] using hlast
      simp only [Option.bind_some, Component.name?, reduceCtorEq, hne, Option.some.injEq, or_false,
        false_or, false_iff, not_or]
      exact ⟨fun h => by simpa using hother _ h, fun h => by simpa using hother _ h⟩

/-! ### The directory of a name -/

/-- A text up to its last name, and then segments that are empty or dots.

**Proof sketch.** Induction on the cutting of the text from behind. A slash that is cut off leaves
an empty segment behind, a slash with a dot leaves a dot. -/
lemma exists_segments_upToName (text : List Char) : ∃ blanks : List (List Char),
    (∀ segment ∈ blanks, segmentComponent? segment = none) ∧
      segments text = segments (upToName text) ++ blanks := by
  have hreversed : ∀ reversed : List Char, ∃ blanks : List (List Char),
      (∀ segment ∈ blanks, segmentComponent? segment = none) ∧
        segments reversed.reverse = segments (dropTrailing reversed).reverse ++ blanks := by
    intro reversed
    induction reversed using dropTrailing.induct with
    | case1 rest ih =>
      obtain ⟨blanks, hblanks, hsegments⟩ := ih
      refine ⟨blanks ++ [[]], by simpa [or_imp, forall_and, segmentComponent?] using hblanks, ?_⟩
      rw [List.reverse_cons, segments_append_slash, hsegments, dropTrailing, List.append_assoc]
      rfl
    | case2 rest ih =>
      obtain ⟨blanks, hblanks, hsegments⟩ := ih
      refine ⟨blanks ++ [['.']], by simpa [or_imp, forall_and, segmentComponent?] using hblanks, ?_⟩
      rw [List.reverse_cons, List.reverse_cons, List.append_assoc, List.singleton_append,
        segments_append_slash, hsegments, dropTrailing, List.append_assoc]
      rfl
    | case3 reversed hslash hdot =>
      refine ⟨[], by simp, ?_⟩
      rw [List.append_nil, dropTrailing]
      · exact hslash
      · exact hdot
  simpa [upToName] using hreversed text.reverse

/-- A text is cut behind its last slash. -/
lemma exists_front_append (text : List Char) : ∃ front last, text = front ++ last ∧ '/' ∉ last ∧
    (front = [] ∨ front.getLast? = some '/') := by
  induction text with
  | nil => exact ⟨[], [], rfl, by simp, .inl rfl⟩
  | cons c rest ih =>
    obtain ⟨front, last, rfl, hlast, rfl | hslash⟩ := ih
    · by_cases hc : c = '/'
      · exact ⟨[c], last, rfl, hlast, .inr (by rw [hc]; rfl)⟩
      · exact ⟨[], c :: last, rfl, by simp [hlast, Ne.symm hc], .inl rfl⟩
    · refine ⟨c :: front, last, rfl, hlast, .inr ?_⟩
      rw [List.getLast?_cons, hslash]
      rfl

/-- What is left of a reversed path neither begins with a slash nor with a lone dot and a slash. -/
lemma dropTrailing_ne (reversed rest : List Char) :
    dropTrailing reversed ≠ '/' :: rest ∧ dropTrailing reversed ≠ '.' :: '/' :: rest := by
  fun_induction dropTrailing reversed with
  | case1 _ ih => exact ih
  | case2 _ ih => exact ih
  | case3 reversed hslash hdot => exact ⟨hslash rest, hdot rest⟩

/-- The text of a path begins with what it is up to its last name. -/
lemma upToName_prefix (text : List Char) : upToName text <+: text := by
  have hsuffix : ∀ reversed : List Char, dropTrailing reversed <:+ reversed := by
    intro reversed
    fun_induction dropTrailing reversed with
    | case1 rest ih => exact ih.trans (List.suffix_cons _ _)
    | case2 rest ih => exact ih.trans ((List.suffix_cons _ _).trans (List.suffix_cons _ _))
    | case3 reversed => exact List.suffix_rfl
  have hreverse := List.reverse_prefix.2 (hsuffix text.reverse)
  rwa [List.reverse_reverse] at hreverse

/-- The segments of a text that is cut behind its last slash. -/
lemma exists_segments_front_append {front last : List Char} (hlast : '/' ∉ last)
    (hfront : front = [] ∨ front.getLast? = some '/') :
    ∃ before, segments (front ++ last) = before ++ [last] ∧ (front = [] → before = []) := by
  obtain rfl | hslash := hfront
  · exact ⟨[], segments_of_not_mem hlast, fun _ => rfl⟩
  · obtain ⟨rest, rfl⟩ := List.getLast?_eq_some_iff.1 hslash
    refine ⟨segments rest, ?_, by simp⟩
    rw [List.append_assoc, List.singleton_append, segments_append_slash, segments_of_not_mem hlast]

/-- A path whose segments are no components does not end in a name. -/
lemma fileName?_of_leading (h : (segments path.toList).filterMap segmentComponent? = []) :
    path.fileName? = none := by
  rw [fileName?, components, h, List.append_nil, leadingComponents]
  split_ifs <;> rfl

/-- The name that a path ends in can name an entry of a directory. -/
lemma isName_of_fileName? (h : path.fileName? = some name) : IsName name :=
  isName_of_mem_components (List.mem_of_getLast? (getLast?_of_fileName? h))

/-- A path that ends in a name is not empty up to its last name. -/
lemma upToName_ne_nil (h : path.fileName? = some name) : upToName path.toList ≠ [] := by
  intro hnil
  obtain ⟨blanks, hblanks, hsegments⟩ := exists_segments_upToName path.toList
  have hnone : (segments path.toList).filterMap segmentComponent? = [] := by
    rw [hsegments, hnil, List.filterMap_append, List.filterMap_eq_nil_iff.2 hblanks]
    rfl
  rw [fileName?_of_leading hnone] at h
  cases h

/-- What follows the last name of a path adds no component. -/
lemma components_upToName (hne : upToName path.toList ≠ []) :
    components (String.ofList (upToName path.toList)) = path.components := by
  obtain ⟨blanks, hblanks, hsegments⟩ := exists_segments_upToName path.toList
  have hskip : (segments path.toList).filterMap segmentComponent? =
      (segments (upToName path.toList)).filterMap segmentComponent? := by
    rw [hsegments, List.filterMap_append, List.filterMap_eq_nil_iff.2 hblanks, List.append_nil]
  have hhead : path.toList.head? = (upToName path.toList).head? := by
    obtain ⟨trail, htrail⟩ := upToName_prefix path.toList
    calc path.toList.head? = (upToName path.toList ++ trail).head? := by rw [htrail]
      _ = (upToName path.toList).head? := List.head?_append_of_ne_nil _ hne
  have hfirst : (segments path.toList).head? = (segments (upToName path.toList)).head? := by
    obtain ⟨s, more, hs⟩ := exists_segments_eq_cons (upToName path.toList)
    rw [hsegments, hs]
    rfl
  rw [components, components, leadingComponents, leadingComponents, String.toList_ofList, hhead,
    hfirst, hskip]

/-- Up to its last name a path does not end in a slash and what is no component: the cutting from
behind would have gone on. -/
lemma segmentComponent?_ne_none_of_upToName {text rest last : List Char}
    (hcut : upToName text = rest ++ '/' :: last) : segmentComponent? last ≠ none := by
  intro hnone
  have hreverse : dropTrailing text.reverse = last.reverse ++ '/' :: rest.reverse := by
    rw [upToName] at hcut
    simpa using congrArg List.reverse hcut
  obtain ⟨hno, hnodot⟩ := dropTrailing_ne text.reverse rest.reverse
  rw [segmentComponent?] at hnone
  split_ifs at hnone with hblank
  obtain rfl | rfl := hblank
  · exact hno hreverse
  · exact hnodot hreverse

/-- **A path that ends in a name is joined from a directory and the name**, but for what may follow
the name. The directory is given by a text that is empty or ends in a slash.

**Proof sketch.** The text up to its last name is cut behind its last slash. What stands behind the
cut is a component, so it is the last one and the name. What stands in front of the cut is the
directory, and joining the name to it gives back the text. -/
lemma exists_directory_of_fileName? (h : path.fileName? = some name) :
    ∃ directory : Path, (directory = "" ∨ directory.toList.getLast? = some '/') ∧ IsName name ∧
      upToName path.toList = directory.toList ++ name.toList ∧
      path.components = (join directory name).components := by
  have hname := isName_of_fileName? h
  have hc := getLast?_of_fileName? h
  have hcomponents := components_upToName (upToName_ne_nil h)
  obtain ⟨front, last, hcut, hlast, hfront⟩ := exists_front_append (upToName path.toList)
  obtain ⟨before, hbefore, hempty⟩ := exists_segments_front_append hlast hfront
  have hsome : segmentComponent? last ≠ none := by
    intro hnone
    obtain rfl | hslash := hfront
    · have hleading : path.fileName? = none := by
        rw [fileName?, ← hcomponents]
        refine fileName?_of_leading ?_
        rw [String.toList_ofList, hcut, hbefore, hempty rfl]
        simp [hnone]
      cases hleading.symm.trans h
    · obtain ⟨rest, rfl⟩ := List.getLast?_eq_some_iff.1 hslash
      exact segmentComponent?_ne_none_of_upToName (by simpa using hcut) hnone
  obtain ⟨c, hsegment⟩ := Option.ne_none_iff_exists'.1 hsome
  obtain rfl : last = name.toList := by
    rw [← hcomponents, components, String.toList_ofList, hcut, hbefore, List.filterMap_append,
      List.filterMap_cons_some hsegment, List.filterMap_nil, ← List.append_assoc,
      List.getLast?_concat] at hc
    obtain rfl := Option.some.inj hc
    obtain hup | hlastname := eq_up_or_name_of_segmentComponent? hsegment
    · cases hup
    · rw [Component.name.inj hlastname, String.toList_ofList]
  have hdirectory : String.ofList front = "" ∨
      (String.ofList front).toList.getLast? = some '/' := by simpa using hfront
  have htext : join (String.ofList front) name = String.ofList (upToName path.toList) := by
    rw [join, if_neg hname.head?_ne, if_pos hdirectory, hcut, String.ofList_append,
      String.ofList_toList]
  exact ⟨String.ofList front, hdirectory, hname, by simpa using hcut, by rw [htext, hcomponents]⟩

/-! ### Another extension -/

/-- A path with another extension is joined from the directory of the path, and from the stem of its
name with the extension. -/
lemma exists_directory_withExtension (h : path.fileName? = some name)
    (hother : IsName (String.ofList (splitName name.toList).1 ++ "." ++ extension)) :
    ∃ directory : Path, path.components = directory.components ++ [.name name] ∧
      withExtension path extension =
        join directory (String.ofList (splitName name.toList).1 ++ "." ++ extension) := by
  obtain ⟨directory, hdirectory, hname, htext, hcomponents⟩ := exists_directory_of_fileName? h
  refine ⟨directory, by rw [hcomponents, components_join directory hname], ?_⟩
  rw [join, if_neg hother.head?_ne, if_pos hdirectory]
  simp only [withExtension, h, htext]
  obtain ⟨rest, hrest⟩ := (exists_splitName_fst_append name.toList).1
  generalize (splitName name.toList).1 = stem at hrest
  have hkept : (directory.toList ++ name.toList).take
      ((directory.toList ++ name.toList).length - name.length + stem.length) =
        directory.toList ++ stem := by
    have hlength : (directory.toList ++ name.toList).length - name.length + stem.length =
        (directory.toList ++ stem).length := by
      simp only [List.length_append, String.length_toList]
      omega
    rw [hlength, hrest, ← List.append_assoc, List.take_left]
  rw [hkept, String.ofList_append, String.ofList_toList, String.append_assoc, String.append_assoc,
    String.append_assoc]

/-- A stem with an extension is a name, if the extension has no slash and is not empty. -/
lemma isName_stem_append (hname : IsName name) (hslash : '/' ∉ extension.toList)
    (hempty : extension ≠ "") :
    IsName (String.ofList (splitName name.toList).1 ++ "." ++ extension) := by
  obtain ⟨⟨rest, hrest⟩, hne⟩ := exists_splitName_fst_append name.toList
  have hstem := hne hname.toList_ne_nil
  have hnoslash : '/' ∉ (splitName name.toList).1 := fun hmem => hname.2.1 (by
    rw [hrest]
    exact List.mem_append_left _ hmem)
  -- The stem, the dot and the extension have a character each.
  have hlength : 3 ≤ (String.ofList (splitName name.toList).1 ++ "." ++ extension).length := by
    have hleft := List.length_pos_iff.2 hstem
    have hright : 0 < extension.length := by
      rw [← String.length_toList]
      exact List.length_pos_iff.2 (by simpa using hempty)
    have hdot : ".".length = 1 := rfl
    simp only [String.length_append, String.length_ofList, hdot]
    omega
  refine ⟨?_, by simp [hnoslash, hslash], ?_, ?_⟩ <;> intro heq <;> rw [heq] at hlength <;>
    exact absurd hlength (by decide)

/-- A path has an extension just if its name is its stem with the extension. -/
lemma extension?_eq_some_iff_stem (h : path.fileName? = some name) (hname : IsName name)
    (hdot : '.' ∉ extension.toList) :
    path.extension? = some extension ↔
      String.ofList (splitName name.toList).1 ++ "." ++ extension = name := by
  have hne := (exists_splitName_fst_append name.toList).2 hname.toList_ne_nil
  rw [extension?, h, Option.bind_some, Option.map_eq_some_iff]
  constructor
  · rintro ⟨ext, hext, rfl⟩
    obtain hsplit | ⟨stem, ext', -, -, htext, hsplit⟩ := splitName_cases name.toList
    · simp [hsplit] at hext
    · obtain rfl : ext' = ext := by simpa [hsplit] using hext
      rw [hsplit, ← String.toList_inj, htext]
      simp
  · intro heq
    generalize (splitName name.toList).1 = stem at heq hne
    have htext : name.toList = stem ++ '.' :: extension.toList := by
      rw [← heq]
      simp
    exact ⟨extension.toList, by rw [htext, splitName_append hne hdot], String.ofList_toList⟩

/-- Two paths lie in the same directory and have the same stem. One has an extension, and the other
is not the same path. -/
structure Beside (other path : Path) (extension : String) : Prop where
  /-- The components in front of the last name are the same. -/
  parents : other.components.dropLast = path.components.dropLast
  /-- The last names have the same stem. -/
  stem : ∃ stem, other.stem? = some stem ∧ path.stem? = some stem
  /-- The one has the extension. -/
  extension : other.extension? = some extension
  /-- They are different paths. -/
  differs : same other path = false

/-- **When another extension makes no difference**: if the path has it already. -/
lemma same_withExtension_iff (h : path.fileName? = some name) (hdot : '.' ∉ extension.toList)
    (hslash : '/' ∉ extension.toList) (hempty : extension ≠ "") :
    same (withExtension path extension) path = true ↔ path.extension? = some extension := by
  have hname := isName_of_fileName? h
  have hother := isName_stem_append hname hslash hempty
  obtain ⟨directory, hcomponents, hjoin⟩ := exists_directory_withExtension h hother
  rw [same, beq_iff_eq, hjoin, components_join directory hother, hcomponents,
    List.append_cancel_left_eq, extension?_eq_some_iff_stem h hname hdot]
  simp

/-- **Where a path with another extension lies**: beside the path. -/
lemma beside_withExtension (h : path.fileName? = some name) (hdot : '.' ∉ extension.toList)
    (hslash : '/' ∉ extension.toList) (hempty : extension ≠ "")
    (hdiffers : path.extension? ≠ some extension) :
    (withExtension path extension).Beside path extension := by
  have hname := isName_of_fileName? h
  have hother := isName_stem_append hname hslash hempty
  have hstem := (exists_splitName_fst_append name.toList).2 hname.toList_ne_nil
  obtain ⟨directory, hcomponents, hjoin⟩ := exists_directory_withExtension h hother
  have hfile : (withExtension path extension).fileName? =
      some (String.ofList (splitName name.toList).1 ++ "." ++ extension) := by
    rw [hjoin, fileName?_join directory hother]
  have hsplit : splitName (String.ofList (splitName name.toList).1 ++ "." ++ extension).toList =
      ((splitName name.toList).1, some extension.toList) := by
    simpa using splitName_append hstem hdot
  exact
    { parents := by
        rw [hjoin, components_join directory hother, hcomponents, List.dropLast_concat,
          List.dropLast_concat]
      stem := ⟨_, by rw [stem?, hfile, Option.map_some, hsplit], by rw [stem?, h, Option.map_some]⟩
      extension := by rw [extension?, hfile, Option.bind_some, hsplit]; simp
      differs := by
        rw [← Bool.not_eq_true, same_withExtension_iff h hdot hslash hempty]
        exact hdiffers }

end ImportAtlas.Path
