import ImportAtlas.Proofs.Path.Names

/-!
# Paths below a root

The path of a file below a root is a text of names with single slashes between them. A path that was
joined from the root and some names gives just these names, whatever the root looks like, because a
joined path has the components of the root in front and a root is taken off by its components.

## Main definitions

* `ImportAtlas.Path.IsNames`: a text of names with single slashes between them.

## Main results

* `ImportAtlas.Path.segments_intercalate`, `ImportAtlas.Path.components_intercalate`: the segments
  and the components of a text of names are the names.
* `ImportAtlas.Path.isNames_relativeTo`: a path below a root is a text of names.
* `ImportAtlas.Path.IsNames.relativeTo_empty`: a text of names is its own path below no root.
* `ImportAtlas.Path.relativeTo_joined`: joining is undone, and any path below any root is a text of
  names.
-/

namespace ImportAtlas.Path

variable {text : List Char} {names : List String} {name : String}

/-! ### Texts of names -/

/-- A text of names with single slashes between them. -/
def IsNames (text : String) : Prop :=
  ∃ names : List String, (∀ name ∈ names, IsName name) ∧ text = "/".intercalate names

/-- A text that begins with a slash has an empty segment first. -/
lemma head?_segments_of_head? (h : text.head? = some '/') : (segments text).head? = some [] := by
  obtain ⟨rest, rfl⟩ := List.head?_eq_some_iff.1 h
  simp [segments]

/-- A text that ends with a slash has an empty segment last. -/
lemma getLast?_segments_of_getLast? (h : text.getLast? = some '/') :
    (segments text).getLast? = some [] := by
  obtain ⟨front, rfl⟩ := List.getLast?_eq_some_iff.1 h
  simp [segments_append_slash, segments]

/-- **The segments of a text of names are the names**, if there are any. -/
lemma segments_intercalate (h : ∀ n ∈ names, IsName n) (hne : names ≠ []) :
    segments ("/".intercalate names).toList = names.map String.toList := by
  induction names with
  | nil => exact absurd rfl hne
  | cons n rest ih =>
    obtain ⟨hn, hrest⟩ := List.forall_mem_cons.1 h
    by_cases hlast : rest = []
    · subst hlast
      simpa using segments_of_not_mem hn.2.1
    · have htext : ("/".intercalate (n :: rest)).toList =
          n.toList ++ '/' :: ("/".intercalate rest).toList := by
        rw [String.intercalate_cons_of_ne_nil hlast]
        simp
      rw [htext, segments_append_slash, segments_of_not_mem hn.2.1, ih hrest hlast]
      rfl

section IsNames

variable {text : String} {segment : List Char}

/-- A segment of a text of names is a name, unless the text is empty. -/
lemma IsNames.isName_of_mem_segments (h : IsNames text) (hne : text ≠ "")
    (hsegment : segment ∈ segments text.toList) : IsName (String.ofList segment) := by
  obtain ⟨names, hnames, rfl⟩ := h
  have hsome : names ≠ [] := by
    rintro rfl
    exact hne String.intercalate_nil
  rw [segments_intercalate hnames hsome] at hsegment
  obtain ⟨n, hn, rfl⟩ := List.mem_map.1 hsegment
  rw [String.ofList_toList]
  exact hnames n hn

/-- A text of names has an empty segment only if it is empty. -/
lemma IsNames.eq_empty_of_nil_mem (h : IsNames text) (hnil : [] ∈ segments text.toList) :
    text = "" := by
  by_contra hne
  exact (h.isName_of_mem_segments hne hnil).1 rfl

/-- No segment of a text of names is a dot or two dots. -/
lemma IsNames.ne_dots_of_mem_segments (h : IsNames text)
    (hsegment : segment ∈ segments text.toList) : segment ≠ ['.'] ∧ segment ≠ ['.', '.'] := by
  by_cases hne : text = ""
  · subst hne
    obtain rfl : segment = [] := by simpa [segments] using hsegment
    decide
  · have hname := h.isName_of_mem_segments hne hsegment
    refine ⟨?_, ?_⟩ <;> rintro rfl
    · exact hname.2.2.1 rfl
    · exact hname.2.2.2 rfl

/-- No slash begins a text of names. -/
lemma IsNames.head?_ne (h : IsNames text) : text.toList.head? ≠ some '/' := by
  intro hhead
  have hempty := h.eq_empty_of_nil_mem (List.mem_of_mem_head? (head?_segments_of_head? hhead))
  rw [hempty] at hhead
  cases hhead

/-- No slash ends a text of names. -/
lemma IsNames.getLast?_ne (h : IsNames text) : text.toList.getLast? ≠ some '/' := by
  intro hlast
  have hempty := h.eq_empty_of_nil_mem (List.mem_of_getLast? (getLast?_segments_of_getLast? hlast))
  rw [hempty] at hlast
  cases hlast

end IsNames

/-- **The components of a text of names are the names.** Neither the root directory nor a leading
dot is among them, since no name is empty or a dot. -/
lemma components_intercalate (h : ∀ n ∈ names, IsName n) :
    components ("/".intercalate names) = names.map .name := by
  by_cases hne : names = []
  · subst hne
    simp [components, leadingComponents, segments, segmentComponent?]
  obtain ⟨n, rest, rfl⟩ := List.exists_cons_of_ne_nil hne
  have hn : IsName n := h n List.mem_cons_self
  have hsegments := segments_intercalate h hne
  have hslash : ("/".intercalate (n :: rest)).toList.head? ≠ some '/' :=
    IsNames.head?_ne ⟨_, h, rfl⟩
  have hdot : (segments ("/".intercalate (n :: rest)).toList).head? ≠ some ['.'] := by
    rw [hsegments]
    intro hhead
    exact hn.2.2.1 (String.toList_injective (Option.some.inj hhead))
  have hskip : ((n :: rest).map String.toList).filterMap segmentComponent? =
      (n :: rest).map .name := by
    rw [List.filterMap_map, ← List.filterMap_eq_map]
    exact List.filterMap_congr fun m hm => segmentComponent?_name (h m hm)
  rw [components, leadingComponents, if_neg hslash, if_neg hdot, hsegments, hskip]
  rfl

/-- Components that are names give the names. -/
lemma filterMap_name?_map (names : List String) :
    (names.map Component.name).filterMap Component.name? = names := by
  rw [List.filterMap_map]
  exact List.filterMap_some

/-- Different names make different texts. -/
lemma eq_of_intercalate_eq {other : List String} (h : ∀ n ∈ names, IsName n)
    (h' : ∀ n ∈ other, IsName n) (heq : "/".intercalate names = "/".intercalate other) :
    names = other := by
  have hcomponents := components_intercalate h
  rw [heq, components_intercalate h'] at hcomponents
  rw [← filterMap_name?_map names, ← hcomponents, filterMap_name?_map]

/-! ### Paths below a root -/

/-- A component that is a name can name an entry of a directory. -/
lemma isName_of_mem_components {path : Path} (h : .name name ∈ path.components) : IsName name := by
  have hleading : .name name ∉ leadingComponents path.toList := by
    unfold leadingComponents
    split_ifs <;> simp
  obtain ⟨segment, hsegment, hname⟩ :=
    List.mem_filterMap.1 ((List.mem_append.1 h).resolve_left hleading)
  unfold segmentComponent? at hname
  split_ifs at hname with hskip hup
  · cases hname
  · rw [not_or] at hskip
    obtain rfl := Component.name.inj (Option.some.inj hname)
    have hne : ∀ other : String, segment ≠ other.toList → String.ofList segment ≠ other := by
      rintro other hother rfl
      exact hother String.toList_ofList.symm
    refine ⟨hne "" hskip.1, ?_, hne "." hskip.2, hne ".." hup⟩
    rw [String.toList_ofList]
    exact not_mem_of_mem_segments hsegment

/-- **A path below a root is a text of names**, whether the path is below the root or keeps all its
names. -/
lemma isNames_relativeTo (root path : Path) : IsNames (relativeTo root path) := by
  refine ⟨_, fun n hn => ?_, rfl⟩
  obtain ⟨c, hc, hname⟩ := List.mem_filterMap.1 hn
  have hpath : c ∈ path.components := by
    cases hbelow : dropPrefix? path.components root.components with
    | none => simpa [hbelow] using hc
    | some below =>
      rw [dropPrefix?_eq_some_iff.1 hbelow]
      exact List.mem_append_right _ (by simpa [hbelow] using hc)
  cases c with
  | name text =>
    obtain rfl := Option.some.inj hname
    exact isName_of_mem_components hpath
  | _ => cases hname

/-- A path that begins with the components of a root has the names behind them as its path below the
root. -/
lemma relativeTo_of_components {root path : Path}
    (h : path.components = root.components ++ names.map .name) :
    relativeTo root path = "/".intercalate names := by
  rw [relativeTo, dropPrefix?_eq_some_iff.2 h, Option.getD_some, filterMap_name?_map]

/-- **A text of names is its own path below no root.** -/
lemma IsNames.relativeTo_empty {text : String} (h : IsNames text) : relativeTo "" text = text := by
  obtain ⟨names, hnames, rfl⟩ := h
  exact relativeTo_of_components (components_intercalate hnames)

/-- **Joining is undone.** A path joined from any root and some names has the names with single
slashes between them as its path below the root; it is empty only without names, and different
names give different paths. And the path of anything below anything is a text of names: no slash
begins or ends it, no segment of it is a dot or two dots, none is empty unless the whole text is,
and it is its own path below no root.

**Proof sketch.** Joining a name adds one component, and the components of the root are the ones
taken away, so the names are left. They are found again between the slashes, because no name has
one. What is left of any path is a text of names, and the components of such a text are its names.
-/
theorem relativeTo_joined :
    (∀ (root : Path) (names : List String), (∀ name ∈ names, IsName name) →
      relativeTo root (names.foldl join root) = "/".intercalate names ∧
      (names ≠ [] → relativeTo root (names.foldl join root) ≠ "") ∧
      ∀ other : List String, (∀ name ∈ other, IsName name) →
        relativeTo root (names.foldl join root) = relativeTo root (other.foldl join root) →
          names = other) ∧
    ∀ root path : Path,
      IsNames (relativeTo root path) ∧
      (relativeTo root path).toList.head? ≠ some '/' ∧
      (relativeTo root path).toList.getLast? ≠ some '/' ∧
      (∀ segment ∈ segments (relativeTo root path).toList,
        segment ≠ ['.'] ∧ segment ≠ ['.', '.'] ∧ (segment = [] → relativeTo root path = "")) ∧
      relativeTo "" (relativeTo root path) = relativeTo root path := by
  constructor
  · intro root names h
    have hrelative : ∀ {names : List String}, (∀ n ∈ names, IsName n) →
        relativeTo root (names.foldl join root) = "/".intercalate names :=
      fun h => relativeTo_of_components (components_foldl_join root h)
    refine ⟨hrelative h, fun hne hempty => hne ?_, fun other hother heq => ?_⟩
    · rw [hrelative h] at hempty
      exact eq_of_intercalate_eq h (by simp) hempty
    · rw [hrelative h, hrelative hother] at heq
      exact eq_of_intercalate_eq h hother heq
  · intro root path
    have hnames := isNames_relativeTo root path
    refine ⟨hnames, hnames.head?_ne, hnames.getLast?_ne, fun segment hsegment => ?_,
      hnames.relativeTo_empty⟩
    obtain ⟨hdot, hdots⟩ := hnames.ne_dots_of_mem_segments hsegment
    exact ⟨hdot, hdots, fun hnil => hnames.eq_empty_of_nil_mem (hnil ▸ hsegment)⟩

/-- A root with repeated slashes, dots and a slash at the end, and two names, the first of which
begins with dots. -/
theorem relativeTo_joined_dotted :
    (∀ name ∈ ["..a", "B.swift"], IsName name) ∧
      relativeTo ".//x/./../" (["..a", "B.swift"].foldl join ".//x/./../") = "..a/B.swift" ∧
      relativeTo ".//x/./../" (["..a", "B.swift"].foldl join ".//x/./../") ≠ "" := by
  have hnames : ∀ name ∈ ["..a", "B.swift"], IsName name := by simp [IsName]
  obtain ⟨hrelative, hne, -⟩ := relativeTo_joined.1 ".//x/./../" ["..a", "B.swift"] hnames
  exact ⟨hnames, hrelative, hne (by simp)⟩

end ImportAtlas.Path
