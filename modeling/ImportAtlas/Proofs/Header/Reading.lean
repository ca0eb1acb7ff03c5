import ImportAtlas.Proofs.Header.Grammar
import Mathlib.Data.List.TakeWhile
import Mathlib.Tactic.Set

/-!
# Reading header lines by the grammar

The reader of header lines accepts its grammar and nothing else. It never goes back, so each of its
steps has to be shown right on its own: what it takes away is a part of the grammar, and no other
way to split the text could have taken something else.

## Main results

* `ImportAtlas.Header.skipAttributes_append`, `ImportAtlas.Header.skipAccess_append`: attributes and
  the access level are skipped as a whole.
* `ImportAtlas.Header.wholeName?_eq_some_iff`: the reading of a name.
* `ImportAtlas.Header.importedName?_eq_some_iff`: the reading past the import word.
* `ImportAtlas.Header.importTarget?_eq_some_iff`: the reading of an import line.
* `ImportAtlas.Header.Line.classify_grammar`: what a line says, by the grammar.
-/

namespace ImportAtlas.Header

open Text Unicode

/-! ### Blanks and words -/

/-- A run is dropped as a whole if nothing that belongs to it comes next. -/
lemma dropWhile_append_of_head {p : Char → Bool} {w rest : List Char} (hw : ∀ c ∈ w, p c = true)
    (hrest : ∀ c ∈ rest.head?, p c = false) : (w ++ rest).dropWhile p = rest := by
  rw [List.dropWhile_append_of_pos hw]
  cases rest with
  | nil => rfl
  | cons c rest => simp [hrest c rfl]

/-- What is left of a text after a run does not begin with something that belongs to the run. -/
lemma head?_dropWhile_false {p : Char → Bool} (text : List Char) :
    ∀ c ∈ (text.dropWhile p).head?, p c = false := by
  intro c hc
  have hnot := List.head?_dropWhile_not p text
  rw [Option.mem_def.1 hc] at hnot
  simpa using hnot

/-- What is left after blanks: the text was a run of blanks and this rest, which does not go on with
blanks. -/
lemma afterBlanks?_eq_some_iff {text rest : List Char} :
    afterBlanks? text = some rest ↔
      ∃ ws, IsBlankRun ws ∧ NoBlankFirst rest ∧ text = ws ++ rest := by
  constructor
  · intro h
    cases text with
    | nil => simp [afterBlanks?] at h
    | cons c more =>
      rw [afterBlanks?] at h
      split at h
      · rename_i hc
        obtain rfl := Option.some.inj h
        refine ⟨c :: more.takeWhile isBlank, ⟨by simp, ?_⟩, head?_dropWhile_false more, by simp⟩
        rw [List.forall_mem_cons]
        exact ⟨hc, fun d hd => List.mem_takeWhile_imp hd⟩
      · simp at h
  · rintro ⟨ws, ⟨hne, hws⟩, hrest, rfl⟩
    obtain ⟨c, ws, rfl⟩ := List.exists_cons_of_ne_nil hne
    rw [List.forall_mem_cons] at hws
    simp [afterBlanks?, hws.1, dropWhile_append_of_head hws.2 hrest]

/-- What is left after a word. -/
lemma dropWord?_eq_some_iff {word text rest : List Char} :
    dropWord? word text = some rest ↔ text = word ++ rest := by
  induction word generalizing text with
  | nil => simp [dropWord?]
  | cons w word ih =>
    cases text with
    | nil => simp [dropWord?]
    | cons c text =>
      by_cases hc : w = c
      · simp [dropWord?, hc, ih]
      · simp [dropWord?, hc, Ne.symm hc]

/-- What is left after a word and its blanks. -/
lemma afterWord?_eq_some_iff {word text rest : List Char} :
    afterWord? word text = some rest ↔
      ∃ ws, IsBlankRun ws ∧ NoBlankFirst rest ∧ text = word ++ (ws ++ rest) := by
  simp only [afterWord?, Option.bind_eq_some_iff, dropWord?_eq_some_iff, afterBlanks?_eq_some_iff]
  constructor
  · rintro ⟨_, rfl, ws, hws, hrest, rfl⟩
    exact ⟨ws, hws, hrest, rfl⟩
  · rintro ⟨ws, hws, hrest, rfl⟩
    exact ⟨_, rfl, ws, hws, hrest, rfl⟩

/-- Two words without blanks are the same if they stand at the start of one text, each with blanks
after it: they are all of the text up to its first blank. -/
lemma word_eq_of_append_eq {word word' ws ws' rest rest' : List Char}
    (hword : ∀ c ∈ word, isBlank c = false) (hword' : ∀ c ∈ word', isBlank c = false)
    (hws : IsBlankRun ws) (hws' : IsBlankRun ws')
    (h : word ++ (ws ++ rest) = word' ++ (ws' ++ rest')) : word = word' := by
  have htake : ∀ {word ws : List Char} (rest : List Char), (∀ c ∈ word, isBlank c = false) →
      IsBlankRun ws → (word ++ (ws ++ rest)).takeWhile (fun c => !isBlank c) = word := by
    rintro word ws rest hword ⟨hne, hws⟩
    obtain ⟨c, ws, rfl⟩ := List.exists_cons_of_ne_nil hne
    rw [List.takeWhile_append_of_pos fun c hc => by simp [hword c hc]]
    simp [hws c List.mem_cons_self]
  rw [← htake rest hword hws, h, htake rest' hword' hws']

/-- What is left after one of several words, none of which has a blank in it. No two of them can
stand at the start of one text, so it does not matter in which order they are tried. -/
lemma findSome?_afterWord?_eq_some_iff {words : List (List Char)} {text rest : List Char}
    (hwords : ∀ word ∈ words, ∀ c ∈ word, isBlank c = false) :
    words.findSome? (fun word => afterWord? word text) = some rest ↔
      ∃ word ∈ words, afterWord? word text = some rest := by
  constructor
  · exact List.exists_of_findSome?_eq_some
  · rintro ⟨word, hword, hrest⟩
    cases hfound : words.findSome? fun word => afterWord? word text with
    | none => simp [List.findSome?_eq_none_iff.1 hfound word hword] at hrest
    | some rest' =>
      obtain ⟨word', hword', hrest'⟩ := List.exists_of_findSome?_eq_some hfound
      have hsame : word' = word := by
        obtain ⟨ws, hws, -, htext⟩ := afterWord?_eq_some_iff.1 hrest
        obtain ⟨ws', hws', -, htext'⟩ := afterWord?_eq_some_iff.1 hrest'
        exact word_eq_of_append_eq (hwords word' hword') (hwords word hword) hws' hws
          (htext' ▸ htext)
      rw [← hrest', hsame, hrest]

/-- The words of a list have no blanks in them, by inspection. -/
lemma isBlank_of_all {words : List (List Char)}
    (h : (words.all fun word => word.all fun c => !isBlank c) = true) :
    ∀ word ∈ words, ∀ c ∈ word, isBlank c = false := by
  intro word hword c hc
  simpa using List.all_eq_true.1 (List.all_eq_true.1 h word hword) c hc

/-- No kind word has a blank in it. -/
lemma isBlank_of_mem_kindWords : ∀ word ∈ kindWords, ∀ c ∈ word, isBlank c = false :=
  isBlank_of_all (by decide)

/-- A kind word is a name itself. -/
lemma isDotted_of_mem_kindWords {word : List Char} (h : word ∈ kindWords) : IsDotted word := by
  have hletters : ∀ word ∈ kindWords, (word.head?.any startsName &&
      word.tail.all isXidContinue) = true := by decide +kernel
  cases word with
  | nil => exact absurd h (by decide)
  | cons c rest =>
    have hword := hletters _ h
    rw [Bool.and_eq_true, List.all_eq_true] at hword
    exact .single ⟨hword.1, hword.2⟩

/-- No access level has a blank in it. -/
lemma isBlank_of_mem_accessWords : ∀ word ∈ accessWords, ∀ c ∈ word, isBlank c = false :=
  isBlank_of_all (by decide)

/-! ### Names -/

/-- The rest of a name is a part of the text. -/
lemma nameRest_append (text : List Char) : (nameRest text).1 ++ (nameRest text).2 = text := by
  fun_induction nameRest text <;> simp_all

/-- The rest of a name goes on as a name does. -/
lemma goesOn_nameRest (text : List Char) : GoesOn (nameRest text).1 := by
  fun_induction nameRest text with
  | case1 d rest hd name after heq ih =>
    rw [heq] at ih
    exact .dot hd ih
  | case2 => exact .nil
  | case3 c rest _ hc name after heq ih =>
    rw [heq] at ih
    exact .cons hc ih
  | case4 => exact .nil
  | case5 => exact .nil

/-- Where no dot comes next, the rest of a name goes on with a character of an identifier or not at
all. -/
lemma nameRest_cons {c : Char} (hc : c ≠ '.') (rest : List Char) :
    nameRest (c :: rest) =
      if isXidContinue c then (c :: (nameRest rest).1, (nameRest rest).2) else ([], c :: rest) := by
  rw [nameRest]
  rintro d more rfl
  exact absurd rfl hc

/-- The rest of a name is read up to where the name may end. -/
lemma nameRest_of_goesOn {name tail : List Char} (h : GoesOn name) (htail : IsTail tail) :
    nameRest (name ++ tail) = (name, tail) := by
  induction h with
  | nil =>
    cases tail with
    | nil => rfl
    | cons c tail =>
      obtain ⟨hdot, -, hgoes⟩ := htail.first
      simp [nameRest_cons hdot, hgoes]
  | @cons c rest hc _ ih =>
    have hdot : c ≠ '.' := by
      rintro rfl
      exact absurd hc (by decide +kernel)
    simp [nameRest_cons hdot, hc, ih]
  | dot hc _ ih => simp [nameRest, hc, ih]

/-- The end of a name is told by what follows. -/
lemma endsName_iff {tail : List Char} : endsName tail = true ↔ IsTail tail := by
  constructor
  · fun_cases endsName tail with
    | case1 => exact fun _ => .nil
    | case2 => exact fun _ => .comment
    | case3 c =>
      intro h
      rcases Bool.or_eq_true_iff.1 h with hc | hc
      · obtain rfl := beq_iff_eq.1 hc
        exact .semicolon
      · exact .blank hc
  · rintro (_ | hc | _ | _)
    · rfl
    · unfold endsName
      split <;> simp_all
    · rfl
    · rfl

/-- **The reading of a name.** A text is read as a name if it is a dotted name and what may stand
after one. -/
lemma wholeName?_eq_some_iff {text name : List Char} :
    wholeName? text = some name ↔ ∃ tail, Names text name tail := by
  constructor
  · intro h
    obtain ⟨⟨name', tail⟩, hspan, h⟩ := Option.bind_eq_some_iff.1 h
    dsimp only at h
    split at h
    · rename_i htail
      obtain rfl := Option.some.inj h
      cases text with
      | nil => simp [nameSpan] at hspan
      | cons c rest =>
        rw [nameSpan] at hspan
        split at hspan
        · rename_i hc
          obtain ⟨rfl, rfl⟩ := Prod.mk.inj (Option.some.inj hspan)
          exact ⟨_, by simp [nameRest_append],
            isDotted_iff.2 ⟨c, _, rfl, hc, goesOn_nameRest rest⟩, endsName_iff.1 htail⟩
        · simp at hspan
    · simp at h
  · rintro ⟨tail, rfl, hname, htail⟩
    obtain ⟨c, rest, rfl, hc, hrest⟩ := isDotted_iff.1 hname
    simp [wholeName?, nameSpan, hc, nameRest_of_goesOn hrest htail, endsName_iff.2 htail]

/-! ### Past the import word -/

/-- The reading with a kind word. -/
lemma kindName?_eq_some_iff {text name : List Char} :
    ((kindWords.findSome? fun word => afterWord? word text).bind wholeName?) = some name ↔
      ∃ tail, KindForm text name tail := by
  simp only [Option.bind_eq_some_iff, findSome?_afterWord?_eq_some_iff isBlank_of_mem_kindWords,
    afterWord?_eq_some_iff, wholeName?_eq_some_iff]
  constructor
  · rintro ⟨rest, ⟨kind, hkind, ws, hws, -, rfl⟩, tail, hnames⟩
    exact ⟨tail, kind, hkind, ws, rest, hws, hnames, rfl⟩
  · rintro ⟨tail, kind, hkind, ws, rest, hws, hnames, rfl⟩
    have hrest : NoBlankFirst rest := hnames.split ▸ hnames.name.noBlankFirst tail
    exact ⟨rest, ⟨kind, hkind, ws, hws, hrest, rfl⟩, tail, hnames⟩

/-- **The reading past the import word**: with a kind word if there is a reading with one, and
without one if there is not. -/
lemma importedName?_eq_some_iff {text name : List Char} :
    importedName? text = some name ↔ ∃ tail, Imports text name tail := by
  rw [importedName?, Option.or_eq_some_iff, kindName?_eq_some_iff, wholeName?_eq_some_iff]
  constructor
  · rintro (⟨tail, hkind⟩ | ⟨hnone, tail, hnames⟩)
    · exact ⟨tail, .inl hkind⟩
    · refine ⟨tail, .inr ⟨fun n t hkind => ?_, hnames⟩⟩
      rw [kindName?_eq_some_iff.2 ⟨t, hkind⟩] at hnone
      simp at hnone
  · rintro ⟨tail, hkind | ⟨hnone, hnames⟩⟩
    · exact .inl ⟨tail, hkind⟩
    · refine .inr ⟨Option.eq_none_iff_forall_ne_some.2 fun n hn => ?_, tail, hnames⟩
      obtain ⟨t, hkind⟩ := kindName?_eq_some_iff.1 hn
      exact hnone n t hkind

/-- What an import imports does not begin with a blank. -/
lemma Imports.noBlankFirst {text name tail : List Char} (h : Imports text name tail) :
    NoBlankFirst text := by
  rcases h with ⟨kind, hkind, ws, rest, -, -, rfl⟩ | ⟨-, hnames⟩
  · have hne : ∀ kind ∈ kindWords, kind ≠ [] := by decide
    obtain ⟨c, more, rfl⟩ := List.exists_cons_of_ne_nil (hne kind hkind)
    rintro _ ⟨⟩
    exact isBlank_of_mem_kindWords (c :: more) hkind c List.mem_cons_self
  · exact hnames.split ▸ hnames.name.noBlankFirst tail

/-! ### Attributes -/

/-- An argument is left behind as a whole. -/
lemma afterArgument?_append {arg rest : List Char} (h : IsArgument arg)
    (hrest : ∀ c ∈ rest.head?, c ≠ '(') : afterArgument? (arg ++ rest) = some rest := by
  cases h with
  | none =>
    unfold afterArgument?
    split <;> simp_all
  | @parens inside hinside =>
    have hpos : ∀ c ∈ inside, decide (c ≠ ')') = true := fun c hc =>
      decide_eq_true fun hparen => hinside (hparen ▸ hc)
    rw [List.cons_append, List.append_assoc, afterArgument?, List.dropWhile_append_of_pos hpos]
    simp

/-- What is left behind as an argument is one. -/
lemma isArgument_of_afterArgument? {text rest : List Char} (h : afterArgument? text = some rest) :
    ∃ arg, IsArgument arg ∧ text = arg ++ rest := by
  unfold afterArgument? at h
  split at h
  · rename_i more
    have hfirst := head?_dropWhile_false (p := fun c => !decide (c = ')')) more
    have hsplit := List.takeWhile_append_dropWhile (p := fun c => !decide (c = ')')) (l := more)
    cases hdrop : more.dropWhile fun c => !decide (c = ')') with
    | nil => simp [hdrop] at h
    | cons c tail =>
      obtain rfl : tail = rest := by simpa [hdrop] using h
      obtain rfl : c = ')' := by simpa using hfirst c (by rw [hdrop]; rfl)
      rw [hdrop] at hsplit
      refine ⟨'(' :: (more.takeWhile (fun c => !decide (c = ')')) ++ [')']), .parens ?_, ?_⟩
      · intro hmem
        simpa using List.mem_takeWhile_imp hmem
      · simpa using hsplit.symm
  · exact ⟨[], .none, Option.some.inj h⟩

/-- An attribute and its blanks are left behind as a whole. -/
lemma afterAttribute?_append {a ws rest : List Char} (ha : IsAttribute a) (hws : IsBlankRun ws)
    (hrest : NoBlankFirst rest) : afterAttribute? (a ++ (ws ++ rest)) = some rest := by
  obtain ⟨hc, hword, harg⟩ := ha
  rename_i c word arg
  obtain ⟨d, more, hd, hblank⟩ : ∃ d more, ws ++ rest = d :: more ∧ isBlank d = true := by
    obtain ⟨d, ws, rfl⟩ := List.exists_cons_of_ne_nil hws.1
    exact ⟨d, ws ++ rest, rfl, hws.2 d List.mem_cons_self⟩
  have hargument : afterArgument? (arg ++ (ws ++ rest)) = some (ws ++ rest) := by
    refine afterArgument?_append harg ?_
    rw [hd]
    rintro _ ⟨⟩ rfl
    exact absurd hblank (by decide)
  have hend : ∀ e ∈ (arg ++ (ws ++ rest)).head?, continuesAttribute e = false := by
    rw [hd]
    cases harg with
    | none =>
      rintro _ ⟨⟩
      exact continuesAttribute_of_isBlank hblank
    | parens =>
      rintro _ ⟨⟩
      decide
  have hdrop := dropWhile_append_of_head hword hend
  have hblanks := afterBlanks?_eq_some_iff.2 ⟨ws, hws, hrest, rfl⟩
  simp [afterAttribute?, hc, hdrop, hargument, hblanks]

/-- What is left behind as an attribute is one. -/
lemma isAttribute_of_afterAttribute? {text rest : List Char}
    (h : afterAttribute? text = some rest) :
    ∃ a ws, IsAttribute a ∧ IsBlankRun ws ∧ text = a ++ (ws ++ rest) := by
  unfold afterAttribute? at h
  split at h
  · rename_i c more
    split at h
    · rename_i hc
      obtain ⟨mid, hmid, hblanks⟩ := Option.bind_eq_some_iff.1 h
      obtain ⟨ws, hws, -, rfl⟩ := afterBlanks?_eq_some_iff.1 hblanks
      obtain ⟨arg, harg, hmore⟩ := isArgument_of_afterArgument? hmid
      have hword : ∀ d ∈ more.takeWhile continuesAttribute, continuesAttribute d = true :=
        fun d hd => List.mem_takeWhile_imp hd
      refine ⟨_, ws, .mk hc hword harg, hws, ?_⟩
      have hsplit := List.takeWhile_append_dropWhile (p := continuesAttribute) (l := more)
      rw [hmore] at hsplit
      simp [hsplit]
    · simp at h
  · simp at h

/-- Where an attribute stands, the rest of the attributes are behind it. -/
lemma skipAttributes_of_some {text rest : List Char} (h : afterAttribute? text = some rest) :
    skipAttributes text = skipAttributes rest := by
  rw [skipAttributes]
  split <;> simp_all

/-- Where no attribute stands, nothing is skipped. -/
lemma skipAttributes_of_none {text : List Char} (h : afterAttribute? text = none) :
    skipAttributes text = text := by
  rw [skipAttributes]
  split <;> simp_all

/-- **Attributes are skipped as a whole**, up to a text that begins with neither a blank nor another
attribute. -/
lemma skipAttributes_append {attributes rest : List Char} (h : AreAttributes attributes)
    (hrest : NoBlankFirst rest) (hat : rest.head? ≠ some '@') :
    skipAttributes (attributes ++ rest) = rest := by
  induction h with
  | nil =>
    refine skipAttributes_of_none ?_
    unfold afterAttribute?
    split <;> simp_all
  | @cons a ws more ha hws hmore ih =>
    have hfirst : NoBlankFirst (more ++ rest) := by
      cases hmore with
      | nil => exact hrest
      | cons hb _ _ =>
        cases hb with
        | mk =>
          rintro _ ⟨⟩
          decide
    rw [List.append_assoc, List.append_assoc,
      skipAttributes_of_some (afterAttribute?_append ha hws hfirst), ih]

/-- What is skipped are attributes. -/
lemma areAttributes_skipAttributes (text : List Char) :
    ∃ attributes, AreAttributes attributes ∧ text = attributes ++ skipAttributes text := by
  induction text using skipAttributes.induct with
  | case1 text rest h ih =>
    obtain ⟨a, ws, ha, hws, htext⟩ := isAttribute_of_afterAttribute? h
    obtain ⟨attributes, hattributes, hrest⟩ := ih
    refine ⟨a ++ (ws ++ attributes), .cons ha hws hattributes, ?_⟩
    rw [skipAttributes_of_some h, List.append_assoc, List.append_assoc, ← hrest]
    exact htext
  | case2 text h => exact ⟨[], .nil, (skipAttributes_of_none h).symm⟩

/-! ### Access levels -/

/-- The import word is no access level. -/
lemma findSome?_access_importWord {ws : List Char} (hws : IsBlankRun ws) (rest : List Char) :
    accessWords.findSome? (fun word => afterWord? word (importWord ++ (ws ++ rest))) = none := by
  refine List.findSome?_eq_none_iff.2 fun word hword =>
    Option.eq_none_iff_forall_ne_some.2 fun more hmore => ?_
  obtain ⟨ws', hws', -, htext⟩ := afterWord?_eq_some_iff.1 hmore
  have himport : ∀ c ∈ importWord, isBlank c = false :=
    @isBlank_of_all [importWord] (by decide) importWord List.mem_cons_self
  have hsame := word_eq_of_append_eq himport (isBlank_of_mem_accessWords word hword) hws hws' htext
  subst hsame
  exact absurd hword (by decide)

/-- **An access level is skipped as a whole**, if the import word comes next. -/
lemma skipAccess_append {access ws : List Char} (h : IsAccess access) (hws : IsBlankRun ws)
    (rest : List Char) :
    skipAccess (access ++ (importWord ++ (ws ++ rest))) = importWord ++ (ws ++ rest) := by
  cases h with
  | none =>
    rw [List.nil_append, skipAccess, findSome?_access_importWord hws rest]
    rfl
  | @level word ws' hword hws' =>
    have hfound := (findSome?_afterWord?_eq_some_iff isBlank_of_mem_accessWords).2
      ⟨word, hword, afterWord?_eq_some_iff.2
        ⟨ws', hws', (by rintro _ ⟨⟩; decide : NoBlankFirst (importWord ++ (ws ++ rest))), rfl⟩⟩
    rw [List.append_assoc, skipAccess, hfound]
    rfl

/-- What is skipped is an access level. -/
lemma isAccess_skipAccess (text : List Char) :
    ∃ access, IsAccess access ∧ text = access ++ skipAccess text := by
  unfold skipAccess
  cases hfound : accessWords.findSome? fun word => afterWord? word text with
  | none => exact ⟨[], .none, rfl⟩
  | some rest =>
    obtain ⟨word, hword, hrest⟩ := List.exists_of_findSome?_eq_some hfound
    obtain ⟨ws, hws, -, htext⟩ := afterWord?_eq_some_iff.1 hrest
    refine ⟨word ++ ws, .level hword hws, ?_⟩
    rw [List.append_assoc]
    exact htext

/-! ### Import lines -/

/-- The text behind the attributes begins with a letter. -/
lemma IsAccess.head {access : List Char} (h : IsAccess access) (rest : List Char) :
    ∃ c more, access ++ (importWord ++ rest) = c :: more ∧ c.isAlpha = true := by
  cases h with
  | none => exact ⟨'i', _, rfl, by decide⟩
  | @level word ws hword _ =>
    have hletter : ∀ word ∈ accessWords, word.head?.any Char.isAlpha = true := by decide
    obtain ⟨c, hc, halpha⟩ := (Option.any_eq_true _ _).1 (hletter word hword)
    obtain ⟨more, rfl⟩ := List.head?_eq_some_iff.1 hc
    exact ⟨c, _, rfl, halpha⟩

/-- An import line begins with an attribute or a letter. -/
lemma IsLead.head {lead : List Char} (h : IsLead lead) (rest : List Char) :
    ∃ c more, lead ++ rest = c :: more ∧ (c = '@' ∨ c.isAlpha = true) := by
  obtain ⟨hattributes, haccess, -⟩ := h
  cases hattributes with
  | nil =>
    obtain ⟨c, more, htext, hc⟩ := haccess.head (_ ++ rest)
    exact ⟨c, more, by simpa using htext, .inr hc⟩
  | cons ha _ _ =>
    cases ha with
    | mk => exact ⟨'@', _, rfl, .inl rfl⟩

/-- **The reading of an import line.** The module of a line is what stands behind its lead, and any
way to split the line gives the same one.

**Proof sketch.** Forwards, the reader has split the line itself. Backwards, an attribute ends at
its blanks and an access level is followed by the import word, which begins with a letter, so the
reader splits any such line at the same places. -/
lemma importTarget?_eq_some_iff {text name : List Char} :
    importTarget? text = some name ↔
      ∃ lead rest tail, IsLead lead ∧ Imports rest name tail ∧ text = lead ++ rest := by
  constructor
  · intro h
    obtain ⟨rest, hrest, hname⟩ := Option.bind_eq_some_iff.1 h
    obtain ⟨tail, himports⟩ := importedName?_eq_some_iff.1 hname
    obtain ⟨ws, hws, -, hword⟩ := afterWord?_eq_some_iff.1 hrest
    obtain ⟨attributes, hattributes, htext⟩ := areAttributes_skipAttributes text
    obtain ⟨access, haccess, hskip⟩ := isAccess_skipAccess (skipAttributes text)
    refine ⟨_, rest, tail, .mk hattributes haccess hws, himports, ?_⟩
    rw [htext, hskip, hword]
    simp only [List.append_assoc]
  · rintro ⟨_, rest, tail, ⟨hattributes, haccess, hws⟩, himports, rfl⟩
    rename_i attributes access ws
    have hrest := himports.noBlankFirst
    obtain ⟨c, more, hhead, halpha⟩ := haccess.head (ws ++ rest)
    have hblank : NoBlankFirst (access ++ (importWord ++ (ws ++ rest))) := by
      rw [hhead]
      rintro _ ⟨⟩
      refine Bool.eq_false_iff.2 fun hc => ?_
      simp [eq_false_of_isBlank (p := Char.isAlpha) (by decide) hc] at halpha
    have hat : (access ++ (importWord ++ (ws ++ rest))).head? ≠ some '@' := by
      rw [hhead]
      rintro ⟨⟩
      exact absurd halpha (by decide)
    have hname := importedName?_eq_some_iff.2 ⟨tail, himports⟩
    have hword : afterWord? importWord (importWord ++ (ws ++ rest)) = some rest :=
      afterWord?_eq_some_iff.2 ⟨ws, hws, hrest, rfl⟩
    rw [importTarget?]
    simp only [List.append_assoc]
    rw [skipAttributes_append hattributes hblank hat, skipAccess_append haccess hws rest, hword]
    exact hname

/-- An import line reads as its module, which is not the import word. -/
lemma importLine_iff {text name : List Char} :
    (∃ tail, ImportLine text name tail) ↔ importTarget? text = some name ∧ name ≠ importWord := by
  rw [importTarget?_eq_some_iff]
  constructor
  · rintro ⟨tail, hname, lead, rest, hlead, himports, htext⟩
    exact ⟨⟨lead, rest, tail, hlead, himports, htext⟩, hname⟩
  · rintro ⟨⟨lead, rest, tail, hlead, himports, htext⟩, hname⟩
    exact ⟨tail, hname, lead, rest, hlead, himports, htext⟩

/-! ### Lines -/

/-- A comment is told by how the text begins. -/
lemma isComment_iff {text : List Char} : isComment text = true ↔ IsCommentLine text := by
  constructor
  · fun_cases isComment text with
    | case1 rest => exact fun _ => .inl ⟨rest, rfl⟩
    | case2 rest => exact fun _ => .inr (.inl ⟨rest, rfl⟩)
    | case3 rest => exact fun _ => .inr (.inr ⟨rest, rfl⟩)
    | case4 => simp
  · rintro (⟨rest, rfl⟩ | ⟨rest, rfl⟩ | ⟨rest, rfl⟩) <;> rfl

/-- The text of an import line is not empty. -/
lemma IsLead.append_ne_nil {lead : List Char} (h : IsLead lead) (rest : List Char) :
    lead ++ rest ≠ [] := by
  obtain ⟨c, more, hhead, -⟩ := h.head rest
  simp [hhead]

/-- The text of an import line is no comment. -/
lemma IsLead.not_isCommentLine {lead : List Char} (h : IsLead lead) (rest : List Char) :
    ¬IsCommentLine (lead ++ rest) := by
  obtain ⟨c, more, hhead, hc⟩ := h.head rest
  rw [hhead, IsCommentLine]
  rintro (hcomment | hcomment | hcomment) <;>
    obtain ⟨rfl, -⟩ := List.cons_prefix_cons.1 hcomment <;> revert hc <;> decide

/-- Behind its lead, a line is read by its name. -/
lemma Line.classify_lead {line lead rest name : List Char} (hlead : IsLead lead)
    (hname : importedName? rest = some name) (htext : trim line = lead ++ rest) :
    classify line = if name = importWord then .code else .importing (String.ofList name) := by
  obtain ⟨tail, himports⟩ := importedName?_eq_some_iff.1 hname
  have htarget : importTarget? (trim line) = some name :=
    importTarget?_eq_some_iff.2 ⟨lead, rest, tail, hlead, himports, htext⟩
  have hne : trim line ≠ [] := htext ▸ hlead.append_ne_nil rest
  have hcomment : ¬isComment (trim line) = true := fun h =>
    hlead.not_isCommentLine rest (htext ▸ isComment_iff.1 h)
  simp [classify, hne, hcomment, htarget]

/-- Trimming takes the blanks off the two ends, all of them and nothing else. -/
lemma isTrimOf_trim (line : List Char) : IsTrimOf (trim line) line := by
  set start := trimStart line with hstart
  have hfront : line = line.takeWhile isBlank ++ start :=
    List.takeWhile_append_dropWhile.symm
  have hback : start = trim line ++ (start.reverse.takeWhile isBlank).reverse := by
    rw [trim, trimEnd, ← hstart, ← List.reverse_append, List.takeWhile_append_dropWhile,
      List.reverse_reverse]
  refine ⟨⟨line.takeWhile isBlank, (start.reverse.takeWhile isBlank).reverse, ?_, ?_, ?_⟩, ?_, ?_⟩
  · rw [List.append_assoc, ← hback]
    exact hfront
  · exact fun c hc => List.mem_takeWhile_imp hc
  · intro c hc
    exact List.mem_takeWhile_imp (List.mem_reverse.1 hc)
  · intro c hc
    refine head?_dropWhile_false line c ?_
    obtain ⟨more, hmore⟩ := List.head?_eq_some_iff.1 hc
    rw [← trimStart, ← hstart, hback, hmore]
    rfl
  · intro c hc
    refine head?_dropWhile_false start.reverse c ?_
    rwa [trim, trimEnd, ← hstart, List.getLast?_reverse] at hc

/-- A line is blank just if nothing is left of it. -/
lemma Line.classify_blank_iff {line : List Char} : classify line = .blank ↔ trim line = [] := by
  unfold classify
  dsimp only
  split
  · simp_all
  · split
    · simp_all
    · split
      · split <;> simp_all
      · simp_all

/-- A line is a comment just if what is left of it begins as one. -/
lemma Line.classify_comment_iff {line : List Char} :
    classify line = .comment ↔ IsCommentLine (trim line) := by
  rw [← isComment_iff]
  unfold classify
  dsimp only
  split
  · simp_all [isComment]
  · split
    · simp_all
    · split
      · split <;> simp_all
      · simp_all

/-- A line imports a module by its reading just if it does by the grammar. -/
lemma Line.classify_importing_iff {line : List Char} {module : String} :
    classify line = .importing module ↔ ∃ tail, ImportLine (trim line) module.toList tail := by
  constructor
  · intro h
    unfold classify at h
    dsimp only at h
    split at h
    · simp at h
    split at h
    · simp at h
    split at h
    · rename_i name htarget
      split at h
      · simp at h
      · rename_i hname
        obtain rfl : String.ofList name = module := by simpa using h
        rw [importLine_iff, String.toList_ofList]
        exact ⟨htarget, hname⟩
    · simp at h
  · rintro ⟨tail, hname, lead, rest, hlead, himports, htext⟩
    rw [classify_lead hlead (importedName?_eq_some_iff.2 ⟨tail, himports⟩) htext, if_neg hname,
      String.ofList_toList]

/-- A line ends the header just if it is nothing else. -/
lemma Line.classify_code_iff {line : List Char} :
    classify line = .code ↔
      trim line ≠ [] ∧ ¬IsCommentLine (trim line) ∧
        ∀ name tail, ¬ImportLine (trim line) name tail := by
  rw [← classify_comment_iff, Ne, ← classify_blank_iff]
  constructor
  · intro h
    refine ⟨by simp [h], by simp [h], fun name tail himport => ?_⟩
    have hread := classify_importing_iff.2
      ⟨tail, (@String.toList_ofList name).symm ▸ himport⟩
    simp [h] at hread
  · rintro ⟨hblank, hcomment, himport⟩
    cases h : classify line with
    | blank => exact absurd h hblank
    | comment => exact absurd h hcomment
    | importing module =>
      obtain ⟨tail, hline⟩ := classify_importing_iff.1 h
      exact absurd hline (himport _ _)
    | code => rfl

/-- **What a line says, by the grammar.** With `text` for the line without the blanks at its ends:
the line is blank just if the text is empty, a comment just if the text begins as one, an import of
a module just if the grammar splits the text that way, and code in all other cases. However the
grammar splits it, its module is the same, and no dotted name that stands there is longer. -/
theorem Line.classify_grammar (line : List Char) :
    let text := trim line
    IsTrimOf text line ∧
      (classify line = .blank ↔ text = []) ∧
      (classify line = .comment ↔ IsCommentLine text) ∧
      (∀ module, classify line = .importing module ↔ ∃ tail, ImportLine text module.toList tail) ∧
      (classify line = .code ↔
        text ≠ [] ∧ ¬IsCommentLine text ∧ ∀ name tail, ¬ImportLine text name tail) ∧
      ∀ name tail, ImportLine text name tail →
        (∀ name' tail', ImportLine text name' tail' → name' = name) ∧
        ∀ more after, more ≠ [] → tail = more ++ after → ¬IsDotted (name ++ more) := by
  intro text
  refine ⟨isTrimOf_trim line, classify_blank_iff, classify_comment_iff,
    fun _ => classify_importing_iff, classify_code_iff, fun name tail h => ⟨?_, ?_⟩⟩
  · intro name' tail' h'
    have htarget := (importLine_iff.1 ⟨tail, h⟩).1
    have htarget' := (importLine_iff.1 ⟨tail', h'⟩).1
    exact Option.some.inj (htarget'.symm.trans htarget)
  · rintro more after hmore rfl
    obtain ⟨-, lead, rest, -, himports, -⟩ := h
    exact himports.isTail.not_isDotted hmore name

/-- A line with an attribute, a kind word and a comment behind its name.

**Proof sketch.** The line is put together from its parts by the grammar, and the law of all lines
says the rest. -/
theorem Line.classify_grammar_kind :
    let text := "@a(x) import struct B.c // d".toList
    trim text = text ∧ ImportLine text "B.c".toList " // d".toList ∧
      classify text = .importing "B.c" ∧
      (∀ name tail, ImportLine text name tail → name = "B.c".toList) ∧
      ∀ more after, more ≠ [] → " // d".toList = more ++ after →
        ¬IsDotted ("B.c".toList ++ more) := by
  intro text
  have htrim : trim text = text := by decide +kernel
  have hblank : IsBlankRun [' '] := ⟨by decide, List.forall_mem_singleton.2 (by decide)⟩
  have hargument : IsArgument "(x)".toList := .parens (show ')' ∉ ['x'] by decide)
  have hattribute : IsAttribute "@a(x)".toList :=
    .mk (c := 'a') (by decide) (show ∀ d ∈ [], continuesAttribute d = true by simp) hargument
  have hlead : IsLead "@a(x) import ".toList := .mk (.cons hattribute hblank .nil) .none hblank
  have hname : IsDotted "B.c".toList :=
    .dot (n := ['B']) ⟨by decide +kernel, by simp⟩ (.single ⟨by decide +kernel, by simp⟩)
  have hkind : KindForm "struct B.c // d".toList "B.c".toList " // d".toList :=
    ⟨"struct".toList, by decide, [' '], "B.c // d".toList, hblank,
      ⟨rfl, hname, .blank (by decide)⟩, rfl⟩
  have hline : ImportLine text "B.c".toList " // d".toList :=
    ⟨by decide, _, _, hlead, .inl hkind, rfl⟩
  obtain ⟨-, -, -, himporting, -, hunique⟩ := classify_grammar text
  rw [htrim] at himporting hunique
  obtain ⟨hsame, hlongest⟩ := hunique _ _ hline
  exact ⟨htrim, hline, (himporting "B.c").2 ⟨_, hline⟩, hsame, hlongest⟩

end ImportAtlas.Header
