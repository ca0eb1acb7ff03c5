import ImportAtlas.Proofs.Header.Reading

/-!
# Names behind a kind word

An import line with a kind word has two readings, because the kind word is a name itself and blanks
follow it. So where the name behind the kind word runs on into something that no name may be
followed by, the line is not given up: it is read as the import of the kind word.

## Main definitions

* `ImportAtlas.Header.IsWhole`: a dotted name that ends only where it cannot go on.

## Main results

* `ImportAtlas.Header.nameSpan_eq_some_iff`: the longest name that a text begins with.
* `ImportAtlas.Header.importedName?_kindWord`: the reading behind the import word, if a kind word
  stands there.
* `ImportAtlas.Header.Line.classify_kindWord`: a line with a kind word is read by the name behind it
  just if that name may end where it ends.
* `ImportAtlas.Header.Line.kindWord_of_dashed`: a name that runs on is replaced by the kind word.
-/

namespace ImportAtlas.Header

open Text Unicode

/-! ### Whole names -/

/-- A dotted name together with what follows it, nothing of which can be added to the name. -/
structure IsWhole (name tail : List Char) : Prop where
  /-- The first is a name. -/
  isDotted : IsDotted name
  /-- It does not get longer. -/
  longest : ∀ more after, more ≠ [] → tail = more ++ after → ¬IsDotted (name ++ more)

/-- A name goes on with a character of an identifier, or with a dot and another identifier. -/
lemma goesOn_cons_iff {c : Char} {rest : List Char} :
    GoesOn (c :: rest) ↔ isXidContinue c = true ∧ GoesOn rest ∨
      c = '.' ∧ ∃ d more, rest = d :: more ∧ startsName d = true ∧ GoesOn more := by
  constructor
  · rintro (_ | ⟨hc, hrest⟩ | ⟨hd, hmore⟩)
    · exact .inl ⟨hc, hrest⟩
    · exact .inr ⟨rfl, _, _, rfl, hd, hmore⟩
  · rintro (⟨hc, hrest⟩ | ⟨rfl, d, more, rfl, hd, hmore⟩)
    · exact .cons hc hrest
    · exact .dot hd hmore

/-- No identifier goes on with a dot. -/
lemma isXidContinue_dot : isXidContinue '.' = false := by decide +kernel

/-- The rest of a name goes on as far as a name does.

**Proof sketch.** Induction on the rest of the name. It ends at a dot only if no part begins behind
it, and anywhere else at a character that does not go on with a name. -/
lemma not_goesOn_nameRest (text : List Char) {more after : List Char} (hmore : more ≠ [])
    (h : (nameRest text).2 = more ++ after) : ¬GoesOn ((nameRest text).1 ++ more) := by
  obtain ⟨e, others, rfl⟩ := List.exists_cons_of_ne_nil hmore
  fun_induction nameRest text with
  | case1 d rest hd name tail heq ih =>
    rw [heq] at ih
    simp only [List.cons_append, goesOn_cons_iff, isXidContinue_dot, Bool.false_eq_true, false_and,
      false_or, true_and, not_exists, not_and]
    rintro _ _ ⟨⟩ -
    exact ih h
  | case2 d rest hd =>
    obtain ⟨rfl, hrest⟩ := List.cons.inj h
    simp only [List.nil_append, goesOn_cons_iff, isXidContinue_dot, Bool.false_eq_true, false_and,
      false_or, true_and, not_exists, not_and]
    rintro _ _ rfl hstarts
    obtain ⟨rfl, -⟩ := List.cons.inj hrest
    exact absurd hstarts hd
  | case3 c rest hdot hc name tail heq ih =>
    rw [heq] at ih
    have hc' : c ≠ '.' := by
      rintro rfl
      simp [isXidContinue_dot] at hc
    simp only [List.cons_append, goesOn_cons_iff, hc, hc', true_and, false_and, or_false]
    exact ih h
  | case4 c rest hdot hc =>
    obtain ⟨rfl, hrest⟩ := List.cons.inj h
    rw [List.nil_append, goesOn_cons_iff]
    rintro (⟨hc', -⟩ | ⟨rfl, d, more, rfl, -, -⟩)
    · exact hc hc'
    · exact hdot d _ rfl hrest
  | case5 => cases h

/-- What the reader spans is a whole name. -/
lemma isWhole_of_nameSpan {text name tail : List Char} (h : nameSpan text = some (name, tail)) :
    text = name ++ tail ∧ IsWhole name tail := by
  cases text with
  | nil => cases h
  | cons c rest =>
    rw [nameSpan] at h
    split at h
    · rename_i hc
      obtain ⟨rfl, rfl⟩ := Prod.mk.inj (Option.some.inj h)
      refine ⟨by rw [List.cons_append, nameRest_append],
        isDotted_iff.2 ⟨c, _, rfl, hc, goesOn_nameRest rest⟩, ?_⟩
      intro more after hmore htail hdotted
      obtain ⟨_, _, hname, -, hgoes⟩ := isDotted_iff.1 hdotted
      obtain ⟨rfl, rfl⟩ := List.cons.inj hname
      exact not_goesOn_nameRest rest hmore htail hgoes
    · cases h

/-- A text that begins as a name does is spanned. -/
lemma exists_nameSpan_cons {c : Char} (hc : startsName c = true) (rest : List Char) :
    ∃ name tail, nameSpan (c :: rest) = some (name, tail) :=
  ⟨c :: (nameRest rest).1, (nameRest rest).2, by rw [nameSpan, if_pos hc]⟩

/-- A text begins with only one whole name. -/
lemma IsWhole.unique {name name' tail tail' : List Char} (h : IsWhole name tail)
    (h' : IsWhole name' tail') (heq : name ++ tail = name' ++ tail') :
    name = name' ∧ tail = tail' := by
  obtain ⟨more, rfl, htail⟩ | ⟨more, rfl, htail⟩ := List.append_eq_append_iff.1 heq
  · by_cases hmore : more = []
    · subst hmore
      simpa using htail
    · exact absurd h'.isDotted (h.longest more tail' hmore htail)
  · by_cases hmore : more = []
    · subst hmore
      simpa using htail.symm
    · exact absurd h.isDotted (h'.longest more tail hmore htail)

/-- **The longest name that a text begins with** is what the reader spans. -/
lemma nameSpan_eq_some_iff {text name tail : List Char} :
    nameSpan text = some (name, tail) ↔ text = name ++ tail ∧ IsWhole name tail := by
  refine ⟨isWhole_of_nameSpan, ?_⟩
  rintro ⟨rfl, h⟩
  obtain ⟨c, rest, rfl, hc, -⟩ := isDotted_iff.1 h.isDotted
  obtain ⟨name', tail', hspan⟩ := exists_nameSpan_cons hc (rest ++ tail)
  obtain ⟨htext, h'⟩ := isWhole_of_nameSpan hspan
  obtain ⟨rfl, rfl⟩ := h.unique h' htext
  exact hspan

/-- A whole name is read if it may end where it ends. -/
lemma IsWhole.wholeName?_eq {name tail : List Char} (h : IsWhole name tail) :
    wholeName? (name ++ tail) = if endsName tail then some name else none := by
  rw [wholeName?, nameSpan_eq_some_iff.2 ⟨rfl, h⟩, Option.bind_some]

/-! ### Lines with a kind word -/

/-- **The reading behind the import word, if a kind word stands there.** The name behind the kind
word goes first, and the kind word stands in for it. -/
lemma importedName?_kindWord {kind ws name tail : List Char} (hkind : kind ∈ kindWords)
    (hws : IsBlankRun ws) (h : IsWhole name tail) :
    importedName? (kind ++ (ws ++ (name ++ tail))) =
      some (if endsName tail then name else kind) := by
  have hrest : NoBlankFirst (name ++ tail) := h.isDotted.noBlankFirst tail
  have hafter : kindWords.findSome? (fun word => afterWord? word (kind ++ (ws ++ (name ++ tail)))) =
      some (name ++ tail) :=
    (findSome?_afterWord?_eq_some_iff isBlank_of_mem_kindWords).2
      ⟨kind, hkind, afterWord?_eq_some_iff.2 ⟨ws, hws, hrest, rfl⟩⟩
  have hself : wholeName? (kind ++ (ws ++ (name ++ tail))) = some kind := by
    obtain ⟨c, more, rfl⟩ := List.exists_cons_of_ne_nil hws.1
    exact wholeName?_eq_some_iff.2 ⟨_, rfl, isDotted_of_mem_kindWords hkind,
      .blank (hws.2 c List.mem_cons_self)⟩
  rw [importedName?, hafter, Option.bind_some, h.wholeName?_eq, hself]
  split <;> rfl

section KindWord

variable {line lead kind ws rest : List Char} {c : Char}

/-- **A line with a kind word is read by the name behind it just if that name may end where it
ends.** Where a name begins behind the kind word, there is a whole name. If what follows the whole
name may stand after a name, the line imports it, or is code if it is the import word. If not, the
line imports the kind word in its place. So the line is code or an import of the name behind the
kind word in the first case, and in the second only if the two are the same word.

**Proof sketch.** The reader tries the name behind the kind word, and takes the kind word for the
name if that comes to nothing. The name behind the kind word comes to something just if what follows
it may stand after a name. -/
theorem Line.classify_kindWord (hlead : IsLead lead) (hkind : kind ∈ kindWords)
    (hws : IsBlankRun ws) (hc : startsName c = true)
    (htext : trim line = lead ++ (kind ++ (ws ++ c :: rest))) :
    ∃ name tail, c :: rest = name ++ tail ∧ IsWhole name tail ∧
      (IsTail tail →
        classify line = if name = importWord then .code else .importing (String.ofList name)) ∧
      (¬IsTail tail → classify line = .importing (String.ofList kind)) ∧
      ((classify line = .code ∨ classify line = .importing (String.ofList name)) ↔
        IsTail tail ∨ name = kind) := by
  obtain ⟨name, tail, hspan⟩ := exists_nameSpan_cons hc rest
  obtain ⟨hsplit, hwhole⟩ := isWhole_of_nameSpan hspan
  refine ⟨name, tail, hsplit, hwhole, ?_⟩
  rw [hsplit] at htext
  have hread := classify_lead hlead (importedName?_kindWord hkind hws hwhole) htext
  have hword : kind ≠ importWord := by
    rintro rfl
    exact absurd hkind (by decide)
  by_cases htail : IsTail tail
  · rw [if_pos (endsName_iff.2 htail)] at hread
    refine ⟨fun _ => hread, fun hnot => absurd htail hnot, iff_of_true ?_ (.inl htail)⟩
    rw [hread]
    split
    · exact .inl rfl
    · exact .inr rfl
  · have hends : ¬endsName tail = true := fun h => htail (endsName_iff.1 h)
    rw [if_neg hends, if_neg hword] at hread
    refine ⟨fun h => absurd h htail, fun _ => hread, ?_⟩
    simp [hread, htail, String.ofList_inj, eq_comm]

end KindWord

/-- A line with an access level, a kind word and a semicolon behind a dotted name. -/
theorem Line.classify_kindWord_dotted :
    let line := "public import class A.b; c".toList
    startsName 'A' = true ∧
      trim line = "public import ".toList ++ ("class".toList ++ ([' '] ++ "A.b; c".toList)) ∧
      IsWhole "A.b".toList "; c".toList ∧ IsTail "; c".toList ∧
      classify line = .importing "A.b" := by
  intro line
  have hblank : IsBlankRun [' '] := ⟨by decide, List.forall_mem_singleton.2 (by decide)⟩
  have hlead : IsLead "public import ".toList :=
    .mk .nil (.level (w := "public".toList) (by decide) hblank) hblank
  have hstarts : startsName 'A' = true := by decide +kernel
  have htrim : trim line =
      "public import ".toList ++ ("class".toList ++ ([' '] ++ "A.b; c".toList)) := by decide +kernel
  have hspan : nameSpan "A.b; c".toList = some ("A.b".toList, "; c".toList) := by decide +kernel
  obtain ⟨hsplit, hwhole⟩ := isWhole_of_nameSpan hspan
  have hline :=
    classify_kindWord hlead (by decide : "class".toList ∈ kindWords) hblank hstarts htrim
  obtain ⟨name, tail, hsplit', hwhole', hread, -⟩ := hline
  obtain ⟨rfl, rfl⟩ := hwhole.unique hwhole' (hsplit.symm.trans hsplit')
  exact ⟨hstarts, htrim, hwhole, .semicolon, hread .semicolon⟩

/-- **A name that runs on is replaced by the kind word**: the line is neither code nor an import of
the name behind the kind word. -/
theorem Line.kindWord_of_dashed :
    let line := "import struct Foo-Bar".toList
    IsLead "import ".toList ∧ "struct".toList ∈ kindWords ∧ startsName 'F' = true ∧
      IsWhole "Foo".toList "-Bar".toList ∧
      trim line = "import ".toList ++ ("struct".toList ++ ([' '] ++ "Foo-Bar".toList)) ∧
      classify line = .importing "struct" ∧
      ¬(classify line = .code ∨ classify line = .importing "Foo") := by
  intro line
  have hblank : IsBlankRun [' '] := ⟨by decide, List.forall_mem_singleton.2 (by decide)⟩
  have hread : classify line = .importing "struct" := by decide +kernel
  have hspan : nameSpan "Foo-Bar".toList = some ("Foo".toList, "-Bar".toList) := by decide +kernel
  refine ⟨.mk .nil .none hblank, by decide, by decide +kernel, (isWhole_of_nameSpan hspan).2,
    by decide +kernel, hread, ?_⟩
  rw [hread]
  decide

end ImportAtlas.Header
