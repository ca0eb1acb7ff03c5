import ImportAtlas.Proofs.Path.Names
import ImportAtlas.Proofs.Regex.Attempt
import ImportAtlas.Proofs.Regex.Groups
import ImportAtlas.Proofs.Rules.Patterns
import ImportAtlas.Scan.Resolution

/-!
# Names of modules

Every file that has a path belongs to a module that has a name, and the name is a part of the path.
It is what the first module pattern captures that captures anything, and without such a pattern the
first name of the path, behind the slashes that it may begin with.

## Main definitions

* `ImportAtlas.ModuleRule.Captures`: what a module pattern captures.
* `ImportAtlas.IsFirstName`: the first name of a path.

## Main results

* `ImportAtlas.isFirstName_firstSegment`: the name that a path gives without module patterns.
* `ImportAtlas.resolveModule_of_captures`, `ImportAtlas.resolveModule_of_not_captures`: the module
  of a path.
* `ImportAtlas.resolveModule_append_of_captures`,
  `ImportAtlas.resolveModule_append_of_not_captures`: the module of a path under two lists of module
  patterns.
* `ImportAtlas.resolveModule_part`: the name of a module is a part of the path, and not empty.
-/

namespace ImportAtlas

variable {path name : String} {rule : ModuleRule} {rules own added : List ModuleRule}

/-! ### Captures -/

/-- In the match that counts, the first group of a module pattern stands for a text that is not
empty. -/
def ModuleRule.Captures (rule : ModuleRule) (path name : String) : Prop :=
  rule.regex.group? 1 path.toList = some name.toList ∧ name ≠ ""

/-- A module pattern gives the name that it captures. -/
lemma ModuleRule.capture?_eq_some_iff :
    rule.capture? path = some name ↔ rule.Captures path name := by
  rw [capture?, Option.map_eq_some_iff, Captures]
  constructor
  · rintro ⟨group, hgroup, rfl⟩
    obtain ⟨hgroup, hne⟩ := Option.filter_eq_some_iff.1 hgroup
    rw [String.toList_ofList]
    exact ⟨hgroup, by simpa using hne⟩
  · rintro ⟨hgroup, hne⟩
    exact ⟨name.toList, Option.filter_eq_some_iff.2 ⟨hgroup, by simpa using hne⟩,
      String.ofList_toList⟩

/-- A module pattern gives no name if it captures none. -/
lemma ModuleRule.capture?_eq_none_iff :
    rule.capture? path = none ↔ ∀ name, ¬rule.Captures path name := by
  simp only [Option.eq_none_iff_forall_ne_some, ne_eq, capture?_eq_some_iff]

/-- A search through module patterns gives no name if none of them captures any. -/
lemma findSome?_capture?_eq_none_iff :
    rules.findSome? (·.capture? path) = none ↔ ∀ rule ∈ rules, ∀ name, ¬rule.Captures path name :=
  List.findSome?_eq_none_iff.trans
    (forall₂_congr fun _ _ => ModuleRule.capture?_eq_none_iff)

/-- A name that a module pattern captures is a part of the path, cut out between the two positions
of the group. -/
lemma ModuleRule.Captures.isInfix (h : rule.Captures path name) :
    name.toList <:+: path.toList := by
  obtain ⟨hgroup, -⟩ := h
  rw [Regex.group?_eq, Option.map_eq_some_iff] at hgroup
  obtain ⟨⟨first, last⟩, -, hslice⟩ := hgroup
  rw [← hslice]
  exact (List.take_prefix _ _).isInfix.trans (List.drop_suffix _ _).isInfix

/-! ### The first name of a path -/

/-- The first name of a path: there are only slashes before it, and if anything is behind it then
there is a slash first. -/
def IsFirstName (path name : String) : Prop :=
  name ≠ "" ∧ '/' ∉ name.toList ∧ ∃ slashes rest, path.toList = slashes ++ name.toList ++ rest ∧
    (∀ c ∈ slashes, c = '/') ∧ ∀ c ∈ rest.head?, c = '/'

/-- Slashes at the start of a text do not change what its first name is. -/
lemma find?_segments_of_slashes {slashes text : List Char} (h : ∀ c ∈ slashes, c = '/') :
    (Path.segments (slashes ++ text)).find? (· ≠ []) =
      (Path.segments text).find? (· ≠ []) := by
  induction slashes with
  | nil => rfl
  | cons c slashes ih =>
    obtain ⟨rfl, hrest⟩ := List.forall_mem_cons.1 h
    rw [List.cons_append, Path.segments, if_pos rfl, List.find?_cons_of_neg (by simp), ih hrest]

/-- The first segment of a text goes up to the first slash. -/
lemma head?_segments (text : List Char) :
    (Path.segments text).head? = some (text.takeWhile (· ≠ '/')) := by
  induction text with
  | nil => rfl
  | cons c text ih =>
    obtain ⟨s, more, hs⟩ := Path.exists_segments_eq_cons text
    rw [hs, List.head?_cons, Option.some_inj] at ih
    by_cases hc : c = '/'
    · simp [Path.segments, hc]
    · simp [Path.segments, hc, hs, ih]

/-- The first name of a text that does not begin with a slash goes up to the first slash. -/
lemma find?_segments_of_ne {c : Char} (hc : c ≠ '/') (rest : List Char) :
    (Path.segments (c :: rest)).find? (· ≠ []) = some ((c :: rest).takeWhile (· ≠ '/')) := by
  obtain ⟨s, more, hs⟩ := Path.exists_segments_eq_cons (c :: rest)
  have hhead := head?_segments (c :: rest)
  rw [hs, List.head?_cons, Option.some_inj] at hhead
  rw [hs, hhead, List.find?_cons_of_pos (by simp [hc])]

/-- **The name that a path gives without module patterns** is its first name, unless the path is of
slashes only and gives itself.

**Proof sketch.** The path is cut behind the slashes it begins with. Every segment in front of the
cut is empty, so the first segment that is not empty is what follows up to the next slash. Nothing
follows if the path is of slashes only. -/
lemma isFirstName_firstSegment (path : String) :
    ((∀ c ∈ path.toList, c = '/') ∧ firstSegment path = path) ∨
      IsFirstName path (firstSegment path) := by
  set slashes := path.toList.takeWhile (· = '/')
  have hall : ∀ c ∈ slashes, c = '/' := fun c hc => by simpa using List.mem_takeWhile_imp hc
  have hpath : slashes ++ path.toList.dropWhile (· = '/') = path.toList :=
    List.takeWhile_append_dropWhile
  -- All segments that these slashes end are empty, so the first name is behind them.
  cases hrest : path.toList.dropWhile (· = '/') with
  | nil =>
    rw [hrest, List.append_nil] at hpath
    refine .inl ⟨hpath ▸ hall, ?_⟩
    have hnone : (Path.segments (slashes ++ [])).find? (· ≠ []) = none :=
      find?_segments_of_slashes hall
    rw [List.append_nil, hpath] at hnone
    rw [firstSegment, hnone]
  | cons c rest =>
    have hc : c ≠ '/' := by
      have hhead := List.head?_dropWhile_not (fun c => decide (c = '/')) path.toList
      rw [hrest] at hhead
      simpa using hhead
    have hsegment : firstSegment path = String.ofList ((c :: rest).takeWhile (· ≠ '/')) := by
      rw [firstSegment, ← hpath, hrest, find?_segments_of_slashes hall, find?_segments_of_ne hc]
    rw [IsFirstName, hsegment, String.toList_ofList]
    refine .inr ⟨by simp [hc], fun hmem => ?_, slashes, (c :: rest).dropWhile (· ≠ '/'), ?_, hall,
      fun d hd => ?_⟩
    · simpa using List.mem_takeWhile_imp hmem
    · rw [List.append_assoc, List.takeWhile_append_dropWhile, ← hrest, hpath]
    · have hhead := List.head?_dropWhile_not (fun c => decide (c ≠ '/')) (c :: rest)
      rw [hd] at hhead
      simpa using hhead

/-- The first name of a path is a part of it. -/
lemma IsFirstName.isInfix (h : IsFirstName path name) : name.toList <:+: path.toList := by
  obtain ⟨-, -, slashes, rest, hpath, -⟩ := h
  exact ⟨slashes, rest, hpath.symm⟩

/-! ### Modules -/

/-- The module of a path is what the first module pattern captures that captures anything. -/
lemma resolveModule_of_captures {before after : List ModuleRule}
    (hbefore : ∀ other ∈ before, ∀ name, ¬other.Captures path name) (h : rule.Captures path name) :
    resolveModule (before ++ rule :: after) path = name := by
  rw [resolveModule, List.findSome?_append, findSome?_capture?_eq_none_iff.2 hbefore,
    Option.none_or, List.findSome?_cons, ModuleRule.capture?_eq_some_iff.2 h]
  rfl

/-- The module of a path from which no module pattern captures anything. -/
lemma resolveModule_of_not_captures (h : ∀ rule ∈ rules, ∀ name, ¬rule.Captures path name) :
    resolveModule rules path = firstSegment path := by
  rw [resolveModule, findSome?_capture?_eq_none_iff.2 h]
  rfl

/-- Either some module pattern captures the module of a path, the first that captures anything, or
none captures anything. -/
lemma exists_captures_or (rules : List ModuleRule) (path : String) :
    (∃ before rule after, rules = before ++ rule :: after ∧
      (∀ other ∈ before, ∀ name, ¬other.Captures path name) ∧
      rule.Captures path (resolveModule rules path)) ∨
    ∀ rule ∈ rules, ∀ name, ¬rule.Captures path name := by
  cases hfound : rules.findSome? (·.capture? path) with
  | none => exact .inr (findSome?_capture?_eq_none_iff.1 hfound)
  | some name =>
    obtain ⟨before, rule, after, rfl, hrule, hbefore⟩ := List.findSome?_eq_some_iff.1 hfound
    have hcaptures := ModuleRule.capture?_eq_some_iff.1 hrule
    have hnone : ∀ other ∈ before, ∀ name, ¬other.Captures path name :=
      findSome?_capture?_eq_none_iff.1 (List.findSome?_eq_none_iff.2 hbefore)
    refine .inl ⟨before, rule, after, rfl, hnone, ?_⟩
    rw [resolveModule_of_captures hnone hcaptures]
    exact hcaptures

/-- Module patterns behind one that captures anything do not matter. -/
lemma resolveModule_append_of_captures
    (h : ∃ rule ∈ own, ∃ name, rule.Captures path name) :
    resolveModule (own ++ added) path = resolveModule own path := by
  obtain ⟨rule, hrule, name, hname⟩ := h
  obtain ⟨before, first, after, rfl, hbefore, hfirst⟩ :=
    (exists_captures_or own path).resolve_right fun hnone => hnone rule hrule name hname
  rw [List.append_assoc, List.cons_append, resolveModule_of_captures hbefore hfirst]

/-- Module patterns that capture nothing do not matter. -/
lemma resolveModule_append_of_not_captures
    (h : ∀ rule ∈ own, ∀ name, ¬rule.Captures path name) :
    resolveModule (own ++ added) path = resolveModule added path := by
  rw [resolveModule, resolveModule, List.findSome?_append, findSome?_capture?_eq_none_iff.2 h,
    Option.none_or]

/-- **The name of a module is a part of the path, and not empty.**

For all module patterns that are not refused and every path that is not empty, the module of the
path has a name, which stands in the path. The first group of each module pattern lies in the path.
The name is what the first module pattern captures that captures anything. If none does, it is the
first name of the path, or the path itself if that is of slashes only.

**Proof sketch.** Either some pattern captures a name, and the first that does decides, or none
does, and the first name of the path is taken. In both cases the name is not empty and stands in the
path. -/
theorem resolveModule_part (texts : List String) (rules : List ModuleRule)
    (hrules : texts.mapM ModuleRule.compile = .ok rules) (path : String) (hpath : path ≠ "") :
    resolveModule rules path ≠ "" ∧
    (resolveModule rules path).toList <:+: path.toList ∧
    (∀ rule ∈ rules, ∀ first last, rule.regex.span? 1 path.toList = some (first, last) →
      first ≤ last ∧ last ≤ path.toList.length) ∧
    (∀ before rule after name, rules = before ++ rule :: after →
      (∀ other ∈ before, ∀ name, ¬other.Captures path name) → rule.Captures path name →
        resolveModule rules path = name) ∧
    ((∀ rule ∈ rules, ∀ name, ¬rule.Captures path name) →
      ((∀ c ∈ path.toList, c = '/') ∧ resolveModule rules path = path) ∨
        IsFirstName path (resolveModule rules path)) := by
  have hfallback : (∀ rule ∈ rules, ∀ name, ¬rule.Captures path name) →
      ((∀ c ∈ path.toList, c = '/') ∧ resolveModule rules path = path) ∨
        IsFirstName path (resolveModule rules path) := by
    intro hnone
    rw [resolveModule_of_not_captures hnone]
    exact isFirstName_firstSegment path
  have hpart : resolveModule rules path ≠ "" ∧
      (resolveModule rules path).toList <:+: path.toList := by
    rcases exists_captures_or rules path with ⟨_, rule, _, _, _, hcaptures⟩ | hnone
    · exact ⟨hcaptures.2, hcaptures.isInfix⟩
    · rcases hfallback hnone with ⟨-, heq⟩ | hfirst
      · rw [heq]
        exact ⟨hpath, List.infix_refl _⟩
      · exact ⟨hfirst.1, hfirst.isInfix⟩
  refine ⟨hpart.1, hpart.2, fun rule hrule first last hspan => ?_, ?_, hfallback⟩
  · obtain ⟨text, -, htext⟩ := exists_of_mem_mapM hrules hrule
    exact Regex.span?_le (ModuleRule.compile_eq_ok_iff.1 htext).2.1 hspan
  · rintro before rule after name rfl hbefore hcaptures
    exact resolveModule_of_captures hbefore hcaptures

/-- A module pattern whose group matches, but nothing: the path gives its first name.

**Proof sketch.** The pattern is parsed and run by evaluation, on the expression it stands for and
not on its program. The group it gives is empty, which captures no name. -/
theorem resolveModule_part_empty_group :
    ∃ rules, ["^Core/([A-Z]*)/"].mapM ModuleRule.compile = .ok rules ∧ "Core//x.swift" ≠ "" ∧
      (∀ rule ∈ rules, ∀ name, ¬rule.Captures "Core//x.swift" name) ∧
      resolveModule rules "Core//x.swift" ≠ "" ∧
      IsFirstName "Core//x.swift" (resolveModule rules "Core//x.swift") := by
  -- the group matches nothing between two slashes
  have hfound : ((Regex.exprOf "^Core/([A-Z]*)/".toList).toOption.map fun e =>
      (decide (e.fits = true ∧ e.advances = true ∧ e.captures ≠ 0),
        (e.notes? "Core//x.swift".toList).bind (Regex.groupOf "Core//x.swift".toList 1))) =
      some (true, some []) := by decide +kernel
  obtain ⟨e, he, hfound⟩ := Option.map_eq_some_iff.1 hfound
  obtain ⟨hvalid, hgroup⟩ := Prod.mk.inj hfound
  obtain ⟨hfits, hadvances, hcaptures⟩ := of_decide_eq_true hvalid
  have hrules : ["^Core/([A-Z]*)/"].mapM ModuleRule.compile =
      .ok [⟨"^Core/([A-Z]*)/", ⟨e, e.program.toArray⟩⟩] := by
    have hcompile : ModuleRule.compile "^Core/([A-Z]*)/" =
        .ok ⟨"^Core/([A-Z]*)/", ⟨e, e.program.toArray⟩⟩ :=
      ModuleRule.compile_eq_ok_iff.2 ⟨rfl, Regex.compile_eq he hfits, hcaptures⟩
    simp [hcompile]
  have hnone : ∀ rule ∈ [(⟨"^Core/([A-Z]*)/", ⟨e, e.program.toArray⟩⟩ : ModuleRule)],
      ∀ name, ¬rule.Captures "Core//x.swift" name := by
    intro rule hrule name hcaptures
    obtain rfl := List.mem_singleton.1 hrule
    have hname := (Regex.group?_eq_groupOf hadvances 1 _).symm.trans hcaptures.1
    rw [hgroup] at hname
    exact hcaptures.2 (String.toList_eq_nil_iff.1 (Option.some.inj hname).symm)
  obtain ⟨hne, -, -, -, hfirst⟩ :=
    resolveModule_part ["^Core/([A-Z]*)/"] _ hrules "Core//x.swift" (by decide)
  refine ⟨_, hrules, by decide, hnone, hne, (hfirst hnone).resolve_left ?_⟩
  rintro ⟨hslashes, -⟩
  exact absurd (hslashes 'C' (by simp)) (by decide)

end ImportAtlas
