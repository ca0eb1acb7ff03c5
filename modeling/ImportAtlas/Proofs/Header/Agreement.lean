import ImportAtlas.Proofs.Header.KindWord
import ImportAtlas.Proofs.Header.Pattern
import ImportAtlas.Proofs.Regex.Reading

/-!
# The reader and the pattern of an import line

The reader of import lines and the regular expression of an import line give the same name for every
text. The engine would go back where what follows does not match, but only before the kind word does
this ever come to something; everywhere else it takes what the reader takes, which never goes back.

## Main results

* `ImportAtlas.Header.reads_attributeExpr`, `ImportAtlas.Header.reads_leadExpr`,
  `ImportAtlas.Header.reads_nameExpr`: the parts of the expression read as the parts of the reader.
* `ImportAtlas.Header.importTarget?_eq_group?`: the second group of the regular expression is what
  the reader takes for the name of the module.
-/

namespace ImportAtlas.Header

open Regex Text Unicode

/-! ### Sets -/

/-- The search in a range table finds any of its ranges, if these ascend. -/
lemma covers_eq_any {table : RangeTable} (h : table.Pairwise fun r r' => r.1 ≤ r'.1) (n : Nat) :
    table.covers n = table.any fun r => r.1 ≤ n && n ≤ r.2 := by
  induction table with
  | nil => rfl
  | cons r rest ih =>
    obtain ⟨hfirst, hrest⟩ := List.pairwise_cons.1 h
    rw [RangeTable.covers, List.any_cons, ih hrest]
    by_cases hlt : n < r.1
    · have hnone : (rest.any fun r => r.1 ≤ n && n ≤ r.2) = false := by
        refine List.any_eq_false.2 fun r' hr' => ?_
        have hle := hfirst r' hr'
        simp
        omega
      rw [if_pos hlt, hnone]
      simp [hlt]
    · simp [hlt, Nat.le_of_not_lt hlt]

/-- The set of the blanks. -/
lemma contains_blankSet (c : Char) : blankSet.contains c = isBlank c :=
  covers_eq_any (by decide) c.toNat

/-- The letters by their code points. -/
lemma isAlpha_iff (c : Char) :
    c.isAlpha = true ↔ 0x41 ≤ c.toNat ∧ c.toNat ≤ 0x5A ∨ 0x61 ≤ c.toNat ∧ c.toNat ≤ 0x7A := by
  have hupper : c.isUpper = true ↔ 0x41 ≤ c.toNat ∧ c.toNat ≤ 0x5A := decide_eq_true_iff
  have hlower : c.isLower = true ↔ 0x61 ≤ c.toNat ∧ c.toNat ≤ 0x7A :=
    Bool.and_eq_true_iff.trans (and_congr decide_eq_true_iff decide_eq_true_iff)
  exact Bool.or_eq_true_iff.trans (or_congr hupper hlower)

/-- The letters and digits by their code points. -/
lemma isAlphanum_iff (c : Char) :
    c.isAlphanum = true ↔ c.isAlpha = true ∨ 0x30 ≤ c.toNat ∧ c.toNat ≤ 0x39 := by
  have hdigit : c.isDigit = true ↔ 0x30 ≤ c.toNat ∧ c.toNat ≤ 0x39 :=
    Bool.and_eq_true_iff.trans (and_congr decide_eq_true_iff decide_eq_true_iff)
  exact Bool.or_eq_true_iff.trans (or_congr_right hdigit)

/-- The set of what an attribute's word may begin with. -/
lemma contains_attributeStartSet (c : Char) :
    attributeStartSet.contains c = startsAttribute c := by
  have hsign : c = '_' ↔ c.toNat = 0x5F := Char.toNat_inj.symm
  rw [Bool.eq_iff_iff]
  simp [CharSet.contains, attributeStartSet, RangeTable.covers, startsAttribute, isAlpha_iff, hsign]
  omega

/-- The set of what an attribute's word may go on with. -/
lemma contains_attributeSet (c : Char) : attributeSet.contains c = continuesAttribute c := by
  have hsign : c = '_' ↔ c.toNat = 0x5F := Char.toNat_inj.symm
  rw [Bool.eq_iff_iff]
  simp [CharSet.contains, attributeSet, RangeTable.covers, continuesAttribute, isAlphanum_iff,
    isAlpha_iff, hsign]
  omega

/-- The set of what an argument may hold. -/
lemma contains_argumentSet (c : Char) : argumentSet.contains c = decide (c ≠ ')') := by
  have hsign : c = ')' ↔ c.toNat = 0x29 := Char.toNat_inj.symm
  have hvalid := c.valid
  have hval : c.val.toNat = c.toNat := rfl
  simp only [UInt32.isValidChar, Nat.isValidChar] at hvalid
  rw [Bool.eq_iff_iff]
  simp [CharSet.contains, argumentSet, RangeTable.covers, hsign]
  omega

/-- The set of what a name may begin with. -/
lemma contains_nameStartSet (c : Char) : nameStartSet.contains c = startsName c := by
  have hsign : c = '_' ↔ c.toNat = 0x5F := Char.toNat_inj.symm
  obtain ⟨high, table, htable⟩ :
      ∃ high table, xidStartTable = (0x41, 0x5A) :: (0x61, high) :: table := ⟨_, _, rfl⟩
  rw [Bool.eq_iff_iff]
  simp [CharSet.contains, nameStartSet, RangeTable.covers, startsName, isXidStart, hsign, htable]
  grind

/-- The set of what a name may go on with. -/
lemma contains_nameSet (c : Char) : nameSet.contains c = isXidContinue c := rfl

/-! ### Words and blanks -/

section Words

variable {β : Type} {text word : List Char} {words : List (List Char)} {next : Spot → Option β}

/-- A text that begins with a blank. -/
def BlankFirst (rest : List Char) : Prop := ∃ c ∈ rest.head?, isBlank c = true

/-- What is left behind a word is an end of the text. -/
lemma suffix_of_dropWord? {rest rest' : List Char} (h : dropWord? word rest = some rest') :
    rest' <:+ rest := ⟨word, (dropWord?_eq_some_iff.1 h).symm⟩

/-- One sign is a word. -/
lemma reads_signExpr (c : Char) : (signExpr c).Reads (dropWord? [c]) fun _ => False := by
  refine (Expr.reads_chars (.single c)).congr fun rest => ?_
  cases rest with
  | nil => rfl
  | cons d rest =>
    have hcontains : (CharSet.single c).contains d = decide (c = d) := by
      rw [Bool.eq_iff_iff, CharSet.contains_single, decide_eq_true_iff]
    simp only [Expr.takeOne, dropWord?, hcontains, decide_eq_true_eq]

/-- A word is read sign by sign. -/
lemma foldr_signExpr (word : List Char) (s : Spot) (hs : s.rest <:+ text) :
    (word.map signExpr).foldr (fun e rest => e.attempt text rest) next s =
      (dropWord? word s.rest).bind fun rest => next ⟨rest, s.notes⟩ := by
  induction word generalizing s with
  | nil => rfl
  | cons c word ih =>
    have hsplit : dropWord? (c :: word) s.rest = (dropWord? [c] s.rest).bind (dropWord? word) := by
      cases s.rest with
      | nil => rfl
      | cons d rest => by_cases h : c = d <;> simp [dropWord?, h]
    rw [List.map_cons, List.foldr_cons, (reads_signExpr c).free _ hs, hsplit, Option.bind_assoc]
    exact Option.bind_congr fun rest hrest =>
      ih ⟨rest, s.notes⟩ ((suffix_of_dropWord? hrest).trans hs)

/-- A word is read as a whole. -/
lemma reads_wordExpr (word : List Char) :
    (wordExpr word).Reads (dropWord? word) fun _ => False where
  suffix := suffix_of_dropWord?
  attempt_eq _ s hs := by rw [wordExpr, Expr.attempt_sequence, foldr_signExpr word s hs]

/-- Blanks are read as far as they go. -/
lemma reads_blanksExpr : blanksExpr.Reads afterBlanks? BlankFirst := by
  refine (Expr.reads_plus_chars contains_blankSet).congr fun rest => ?_
  cases rest with
  | nil => rfl
  | cons c rest =>
    by_cases hc : isBlank c = true <;> simp [Expr.takeOne, afterBlanks?, contains_blankSet, hc]

/-- No blanks are read where none come first. -/
lemma afterBlanks?_eq_none {c : Char} (hc : isBlank c = false) (rest : List Char) :
    afterBlanks? (c :: rest) = none := by
  rw [afterBlanks?, hc]
  rfl

/-- Of some words the first that stands there is read. -/
lemma attempt_words (hwords : ((words.map wordExpr).flatMap Expr.branches).mapM Expr.set? = none)
    (s : Spot) (hs : s.rest <:+ text) :
    (Expr.choice (words.map wordExpr)).attempt text next s =
      words.findSome? fun word =>
        (dropWord? word s.rest).bind fun rest => next ⟨rest, s.notes⟩ := by
  rw [Expr.attempt_choice hwords, List.findSome?_map]
  exact findSome?_congr fun word _ => (reads_wordExpr word).free next hs

/-- Of some words without blanks no two stand at the start of one text, each with blanks after it.
So what comes of them is what comes of the one that does. -/
lemma findSome?_afterWord?_bind {γ : Type} (hwords : ∀ word ∈ words, ∀ c ∈ word, isBlank c = false)
    (g : List Char → Option γ) :
    (words.findSome? fun word => (afterWord? word text).bind g) =
      (words.findSome? fun word => afterWord? word text).bind g := by
  have hsame : ∀ word ∈ words, ∀ rest, afterWord? word text = some rest →
      (words.findSome? fun word => afterWord? word text) = some rest :=
    fun word hword rest hrest => (findSome?_afterWord?_eq_some_iff hwords).2 ⟨word, hword, hrest⟩
  cases hfound : words.findSome? fun word => afterWord? word text with
  | none =>
    refine List.findSome?_eq_none_iff.2 fun word hword => ?_
    rw [List.findSome?_eq_none_iff.1 hfound word hword, Option.bind_none]
  | some rest =>
    obtain ⟨word, hword, hrest⟩ := List.exists_of_findSome?_eq_some hfound
    cases hbind : words.findSome? fun word => (afterWord? word text).bind g with
    | none =>
      have hnone := List.findSome?_eq_none_iff.1 hbind word hword
      rw [hrest] at hnone
      exact hnone.symm
    | some v =>
      obtain ⟨word', hword', hv⟩ := List.exists_of_findSome?_eq_some hbind
      obtain ⟨rest', hrest', hg⟩ := Option.bind_eq_some_iff.1 hv
      rw [hsame word' hword' rest' hrest'] at hfound
      rw [← Option.some.inj hfound]
      exact hg.symm

end Words

/-! ### Attributes -/

/-- The text behind an argument in parentheses. -/
def argument? (rest : List Char) : Option (List Char) :=
  (dropWord? ['('] rest).bind fun rest =>
    (some (rest.dropWhile (· ≠ ')'))).bind (dropWord? [')'])

/-- An argument is read up to the first closing parenthesis. -/
lemma reads_argumentExpr : argumentExpr.Reads argument? fun _ => False := by
  refine (reads_signExpr '(').seq ((Expr.reads_star_chars contains_argumentSet).seq
    (reads_signExpr ')') ?_) fun _ => False.elim
  rintro rest ⟨c, hc, hne⟩ rest' hrest'
  obtain ⟨more, rfl⟩ := List.head?_eq_some_iff.1 hc
  have hclose : ')' = c := by
    by_contra hcontra
    simp [dropWord?, hcontra] at hrest'
  simp [← hclose] at hne

/-- There is no argument where no parenthesis opens. -/
lemma afterArgument?_of_ne {c : Char} (hc : c ≠ '(') (rest : List Char) :
    afterArgument? (c :: rest) = some (c :: rest) := by
  unfold afterArgument?
  split
  · simp_all
  · rfl

/-- An argument or none, before blanks. -/
lemma getD_argument? (rest : List Char) :
    afterBlanks? ((argument? rest).getD rest) = (afterArgument? rest).bind afterBlanks? := by
  cases rest with
  | nil => rfl
  | cons c rest =>
    by_cases hc : c = '('
    · subst hc
      have hargument : argument? ('(' :: rest) = dropWord? [')'] (rest.dropWhile (· ≠ ')')) := rfl
      have hafter : afterArgument? ('(' :: rest) = (rest.dropWhile (· ≠ ')')).tail? := rfl
      have hhead := head?_dropWhile_false (p := (· ≠ ')')) rest
      rw [hargument, hafter]
      cases hrest : rest.dropWhile (· ≠ ')') with
      | nil => exact afterBlanks?_eq_none (by decide) rest
      | cons d more =>
        rw [hrest] at hhead
        have hd : d = ')' := by simpa using hhead d rfl
        simp [dropWord?, hd]
    · have hnone : argument? (c :: rest) = none := by
        simp [argument?, dropWord?, Ne.symm hc]
      rw [hnone, afterArgument?_of_ne hc]
      rfl

/-- There is no attribute where no sign of one comes first. -/
lemma afterAttribute?_of_ne {rest : List Char} (h : rest.head? ≠ some '@') :
    afterAttribute? rest = none := by
  unfold afterAttribute?
  split <;> simp_all

/-- An attribute is read with the blanks behind it.

**Proof sketch.** The parts are read one after the other. The word of an attribute is followed by a
parenthesis or a blank, neither of which goes on with it, and blanks are followed by what is no
blank, so that no part could end elsewhere. -/
lemma reads_attributeExpr : attributeExpr.Reads afterAttribute? BlankFirst := by
  have hend : (Expr.seq (optionalExpr argumentExpr) blanksExpr).Reads
      (fun rest => (afterArgument? rest).bind afterBlanks?) BlankFirst := by
    refine (reads_argumentExpr.optional.seq reads_blanksExpr ?_).congr getD_argument?
    rintro rest (hno | hargument) rest' hrest'
    · exact hno.elim
    · -- what begins with a parenthesis does not begin with a blank
      obtain ⟨_, hargument⟩ := Option.isSome_iff_exists.1 hargument
      obtain ⟨more, hmore, -⟩ := Option.bind_eq_some_iff.1 hargument
      obtain rfl := dropWord?_eq_some_iff.1 hmore
      rw [List.singleton_append, afterBlanks?_eq_none (by decide)] at hrest'
      cases hrest'
  have hword : (Expr.seq (runExpr attributeSet) (.seq (optionalExpr argumentExpr) blanksExpr)).Reads
      (fun rest => (some (rest.dropWhile continuesAttribute)).bind
        fun rest => (afterArgument? rest).bind afterBlanks?) BlankFirst := by
    refine (Expr.reads_star_chars contains_attributeSet).seq hend ?_
    rintro rest ⟨c, hc, hmore⟩ rest' hrest'
    -- what goes on with the word is neither a parenthesis nor a blank
    obtain ⟨more, rfl⟩ := List.head?_eq_some_iff.1 hc
    have hparen : c ≠ '(' := by
      rintro rfl
      cases hmore
    have hblank : isBlank c = false := by
      refine Bool.eq_false_iff.2 fun hblank => ?_
      rw [continuesAttribute_of_isBlank hblank] at hmore
      cases hmore
    rw [afterArgument?_of_ne hparen, Option.bind_some, afterBlanks?_eq_none hblank] at hrest'
    cases hrest'
  refine ((reads_signExpr '@').seq ((Expr.reads_chars attributeStartSet).seq hword
    fun _ => False.elim) fun _ => False.elim).congr fun rest => ?_
  cases rest with
  | nil => rfl
  | cons a rest =>
    by_cases ha : a = '@'
    · subst ha
      cases rest with
      | nil => rfl
      | cons c rest =>
        by_cases hc : startsAttribute c = true <;>
          simp [dropWord?, Expr.takeOne, afterAttribute?, contains_attributeStartSet, hc]
    · rw [afterAttribute?_of_ne (by simpa using ha)]
      simp [dropWord?, Ne.symm ha]

/-- Attributes are read as far as they go. -/
lemma reads_attributes : (Expr.repetition 0 none true attributeExpr).Reads
    (fun rest => some (skipAttributes rest))
      fun rest => BlankFirst rest ∨ rest.head? = some '@' := by
  refine (reads_attributeExpr.star (fun rest hrest => ?_) length_afterAttribute?
    fun rest => ?_).mono ?_
  · obtain ⟨c, hc, hblank⟩ := hrest
    refine afterAttribute?_of_ne ?_
    rintro hat
    obtain rfl := Option.some.inj (hc.symm.trans hat)
    cases hblank
  · cases hrest : afterAttribute? rest with
    | none => exact skipAttributes_of_none hrest
    | some rest' => exact skipAttributes_of_some hrest
  · rintro rest (hblank | hsome)
    · exact .inl hblank
    · refine .inr (by_contra fun hat => ?_)
      rw [afterAttribute?_of_ne hat] at hsome
      cases hsome

/-! ### The lead -/

/-- An access level is read with the blanks behind it. -/
lemma reads_accessExpr : accessExpr.Reads
    (fun rest => accessWords.findSome? fun word => afterWord? word rest) BlankFirst where
  suffix h := by
    obtain ⟨word, -, hrest⟩ := List.exists_of_findSome?_eq_some h
    obtain ⟨ws, -, -, rfl⟩ := afterWord?_eq_some_iff.1 hrest
    exact ⟨word ++ ws, by simp⟩
  attempt_eq {β text next} hnext s hs := by
    have hseq : accessExpr.attempt text next s =
        (Expr.choice (accessWords.map wordExpr)).attempt text
          (blanksExpr.attempt text next) s := rfl
    rw [hseq, attempt_words (by decide) s hs,
      ← findSome?_afterWord?_bind isBlank_of_mem_accessWords]
    refine findSome?_congr fun word _ => ?_
    rw [afterWord?, Option.bind_assoc]
    exact Option.bind_congr fun rest hrest =>
      reads_blanksExpr.attempt_eq hnext ⟨rest, s.notes⟩ ((suffix_of_dropWord? hrest).trans hs)

/-- The part of the expression up to the blanks behind the import word. -/
def leadExpr : Expr :=
  .seq (.repetition 0 none true attributeExpr) (.seq (optionalExpr accessExpr)
    (.seq (wordExpr importWord) blanksExpr))

/-- The text behind the import word and its blanks. -/
def lead? (rest : List Char) : Option (List Char) :=
  afterWord? importWord (skipAccess (skipAttributes rest))

/-- The lead of an import line is read in one way.

**Proof sketch.** The parts are read one after the other. A part could end earlier only where a
blank, an access level or an attribute follows, and there the import word does not. -/
lemma reads_leadExpr : leadExpr.Reads lead? BlankFirst := by
  have hword :
      (Expr.seq (wordExpr importWord) blanksExpr).Reads (afterWord? importWord) BlankFirst :=
    (reads_wordExpr importWord).seq reads_blanksExpr fun _ => False.elim
  have haccess : (Expr.seq (optionalExpr accessExpr) (.seq (wordExpr importWord) blanksExpr)).Reads
      (fun rest => (some (skipAccess rest)).bind (afterWord? importWord)) BlankFirst := by
    refine reads_accessExpr.optional.seq hword ?_
    rintro rest hbarred rest' hrest'
    -- the import word begins with no blank and is no access level
    obtain ⟨ws, hws, -, rfl⟩ := afterWord?_eq_some_iff.1 hrest'
    rcases hbarred with ⟨c, hc, hblank⟩ | haccess
    · obtain rfl : 'i' = c := Option.some.inj hc
      cases hblank
    · rw [findSome?_access_importWord hws] at haccess
      cases haccess
  refine reads_attributes.seq haccess ?_
  rintro rest hbarred rest' hrest'
  -- what an import line has behind its attributes begins with a letter
  obtain ⟨ws, -, -, htext⟩ := afterWord?_eq_some_iff.1 hrest'
  obtain ⟨access, hisAccess, haccess⟩ := isAccess_skipAccess rest
  rw [htext] at haccess
  obtain ⟨c, more, hfirst, hletter⟩ := hisAccess.head (ws ++ rest')
  rw [hfirst] at haccess
  rcases hbarred with ⟨d, hd, hblank⟩ | hat
  · rw [haccess] at hd
    obtain rfl : c = d := Option.some.inj hd
    have hcontinues := continuesAttribute_of_isBlank hblank
    simp [continuesAttribute, Char.isAlphanum, hletter] at hcontinues
  · rw [haccess] at hat
    obtain rfl : c = '@' := Option.some.inj hat
    cases hletter

/-! ### Names -/

/-- A text that begins with what may follow in a name. -/
def NameFirst (rest : List Char) : Prop :=
  ∃ c ∈ rest.head?, isXidContinue c = true ∨ c = '.'

/-- The text behind a dot and the identifier after it. -/
def part? (rest : List Char) : Option (List Char) :=
  (dropWord? ['.'] rest).bind fun rest => (Expr.takeOne nameStartSet rest).bind fun rest =>
    some (rest.dropWhile isXidContinue)

/-- The text behind all further parts of a name. -/
def skipParts (rest : List Char) : List Char :=
  if rest.head? = some '.' then (nameRest rest).2 else rest

/-- A further part begins with a dot and the first character of a name. -/
lemma part?_dot (c : Char) (rest : List Char) :
    part? ('.' :: c :: rest) =
      if startsName c = true then some (rest.dropWhile isXidContinue) else none := by
  by_cases hc : startsName c = true <;>
    simp [part?, dropWord?, Expr.takeOne, contains_nameStartSet, hc]

/-- No further part begins without a dot. -/
lemma part?_of_ne {rest : List Char} (h : rest.head? ≠ some '.') : part? rest = none := by
  cases rest with
  | nil => rfl
  | cons c rest =>
    have hc : '.' ≠ c := fun hc => h (by rw [hc]; rfl)
    simp [part?, dropWord?, hc]

/-- What an identifier goes on with is no dot. -/
lemma ne_dot_of_isXidContinue {c : Char} (hc : isXidContinue c = true) : c ≠ '.' := by
  rintro rfl
  rw [isXidContinue_dot] at hc
  cases hc

/-- What follows a name is found behind the first of its identifiers, too. -/
lemma nameRest_dropWhile (rest : List Char) :
    (nameRest (rest.dropWhile isXidContinue)).2 = (nameRest rest).2 := by
  induction rest with
  | nil => rfl
  | cons c rest ih =>
    by_cases hc : isXidContinue c = true
    · rw [List.dropWhile_cons_of_pos hc, ih, nameRest_cons (ne_dot_of_isXidContinue hc), if_pos hc]
    · rw [List.dropWhile_cons_of_neg hc]

/-- Behind the first identifier of a name its further parts follow. -/
lemma skipParts_dropWhile (rest : List Char) :
    skipParts (rest.dropWhile isXidContinue) = (nameRest rest).2 := by
  rw [← nameRest_dropWhile, skipParts]
  split
  · rfl
  · rename_i hdot
    have hhead := head?_dropWhile_false (p := isXidContinue) rest
    cases hrest : rest.dropWhile isXidContinue with
    | nil => rfl
    | cons c more =>
      rw [hrest] at hdot hhead
      rw [nameRest_cons fun hc => hdot (by rw [hc]; rfl), hhead c rfl]
      rfl

/-- Further parts are skipped one by one. -/
lemma skipParts_eq (rest : List Char) :
    skipParts rest = ((part? rest).map skipParts).getD rest := by
  by_cases hdot : rest.head? = some '.'
  · obtain ⟨more, rfl⟩ := List.head?_eq_some_iff.1 hdot
    rw [skipParts, if_pos hdot]
    cases more with
    | nil => simp [nameRest, isXidContinue_dot, part?, dropWord?, Expr.takeOne]
    | cons c more =>
      rw [part?_dot]
      by_cases hc : startsName c = true
      · simp [hc, skipParts_dropWhile, nameRest]
      · simp [hc, nameRest]
  · rw [part?_of_ne hdot, skipParts, if_neg hdot]
    rfl

/-- A further part is read in one way, before what does not go on with its identifier. -/
lemma reads_partExpr : partExpr.Reads part? fun rest => ∃ c ∈ rest.head?, isXidContinue c = true :=
  (reads_signExpr '.').seq ((Expr.reads_chars nameStartSet).seq
    (Expr.reads_star_chars contains_nameSet) fun _ => False.elim) fun _ => False.elim

/-- **A dotted name is read as far as it goes**, before what does not go on with it.

**Proof sketch.** The first part and each further one are read as far as they go. A part could end
earlier only where what follows goes on with the name, and nothing of the kind is let through. -/
lemma reads_nameExpr : nameExpr.Reads (fun rest => (nameSpan rest).map Prod.snd) NameFirst := by
  have hparts : (Expr.repetition 0 none true partExpr).Reads (fun rest => some (skipParts rest))
      NameFirst := by
    refine (reads_partExpr.star ?_ ?_ skipParts_eq).mono ?_
    · rintro rest ⟨c, hc, hmore⟩
      refine part?_of_ne fun hdot => ?_
      exact ne_dot_of_isXidContinue hmore (Option.some.inj (hc.symm.trans hdot))
    · intro rest rest' hpart
      obtain ⟨more, hdot, hfirst⟩ := Option.bind_eq_some_iff.1 hpart
      obtain ⟨after, hafter, hrun⟩ := Option.bind_eq_some_iff.1 hfirst
      obtain rfl := dropWord?_eq_some_iff.1 hdot
      obtain ⟨c, rfl, -⟩ := Expr.takeOne_eq_some_iff.1 hafter
      obtain rfl := Option.some.inj hrun
      have hle := length_dropWhile_le isXidContinue after
      simp only [List.length_append, List.length_cons]
      omega
    · rintro rest (⟨c, hc, hmore⟩ | hpart)
      · exact ⟨c, hc, .inl hmore⟩
      · by_contra hfirst
        rw [part?_of_ne fun hdot => hfirst ⟨'.', hdot, .inr rfl⟩] at hpart
        cases hpart
  refine ((Expr.reads_chars nameStartSet).seq
    ((Expr.reads_star_chars contains_nameSet).seq hparts ?_) fun _ => False.elim).congr
      fun rest => ?_
  · rintro rest ⟨c, hc, hmore⟩ rest' hrest'
    obtain rfl := Option.some.inj hrest'
    rw [skipParts, if_neg fun hdot => ne_dot_of_isXidContinue hmore
      (Option.some.inj (hc.symm.trans hdot))]
    exact ⟨c, hc, .inl hmore⟩
  · cases rest with
    | nil => rfl
    | cons c rest =>
      by_cases hc : startsName c = true
      · simp [Expr.takeOne, contains_nameStartSet, nameSpan, hc, skipParts_dropWhile]
      · simp [Expr.takeOne, contains_nameStartSet, nameSpan, hc]

/-! ### The end of a name -/

/-- A name ends where a blank, a semicolon, two slashes or nothing follows. -/
lemma endsName_eq (rest : List Char) :
    endsName rest = ((Expr.takeOne blankSet rest).isSome || (dropWord? [';'] rest).isSome ||
      (dropWord? ['/', '/'] rest).isSome || rest.isEmpty) := by
  fun_cases endsName rest with
  | case1 => rfl
  | case2 rest => simp [dropWord?]
  | case3 c rest hslashes =>
    have hblank : (Expr.takeOne blankSet (c :: rest)).isSome = isBlank c := by
      rw [Expr.takeOne, contains_blankSet]
      cases isBlank c <;> rfl
    have hsemicolon : (dropWord? [';'] (c :: rest)).isSome = (c == ';') := by
      by_cases hc : c = ';'
      · simp [dropWord?, hc]
      · simp [dropWord?, hc, Ne.symm hc]
    have hnone : dropWord? ['/', '/'] (c :: rest) = none := by
      rw [Option.eq_none_iff_forall_ne_some]
      intro after hafter
      obtain ⟨rfl, hrest⟩ := List.cons.inj (dropWord?_eq_some_iff.1 hafter)
      exact hslashes _ rfl hrest
    simp [hblank, hsemicolon, hnone, Bool.or_comm]

/-- What may follow in a name does not end it. -/
lemma NameFirst.endsName {rest : List Char} (h : NameFirst rest) : endsName rest = false := by
  obtain ⟨c, hc, hmore⟩ := h
  obtain ⟨more, rfl⟩ := List.head?_eq_some_iff.1 hc
  have hblank : isBlank c = false := by
    refine Bool.eq_false_iff.2 fun hblank => ?_
    rcases hmore with hmore | rfl
    · rw [isXidContinue_of_isBlank hblank] at hmore
      cases hmore
    · cases hblank
  have hsign : c ≠ ';' ∧ c ≠ '/' := by
    rcases hmore with hmore | rfl
    · constructor <;> (rintro rfl; revert hmore; decide +kernel)
    · decide
  unfold Header.endsName
  split <;> simp_all

section Ends

variable {text : List Char} {next : Spot → Option Notes} {s : Spot}
  {γ : Type} {g : Notes → γ} {v : γ}

/-- What comes of a spot behind what is read is the same wherever that ends. -/
lemma map_bind_next (hnext : ∀ rest, (next ⟨rest, s.notes⟩).map g = some v)
    (found : Option (List Char)) :
    (found.bind fun rest => next ⟨rest, s.notes⟩).map g =
      if found.isSome = true then some v else none := by
  cases found with
  | none => rfl
  | some rest => exact hnext rest

/-- The place behind the last character is the end of the text. -/
lemma holds_textEnd (hs : s.rest <:+ text) :
    Look.textEnd.holds text.toArray (s.pos text) = s.rest.isEmpty := by
  obtain ⟨before, hbefore⟩ := hs
  rw [Look.holds, Spot.pos, List.size_toArray, ← hbefore, List.length_append]
  cases s.rest with
  | nil => simp
  | cons c rest =>
    simp only [List.length_cons, List.isEmpty_cons, beq_eq_false_iff_ne]
    omega

/-- The end of a name is found where a name may end.

**Proof sketch.** The four ends of a name are tried in turn, and whatever comes behind an end has
the same result. -/
lemma attempt_endExpr (hs : s.rest <:+ text)
    (hnext : ∀ rest, (next ⟨rest, s.notes⟩).map g = some v) :
    (endExpr.attempt text next s).map g = if endsName s.rest = true then some v else none := by
  have halt : endExpr.attempt text next s =
      ((Expr.chars blankSet).attempt text next s).or (((signExpr ';').attempt text next s).or
        (((wordExpr ['/', '/']).attempt text next s).or
          ((Expr.look .textEnd).attempt text next s))) := rfl
  have hlook : ((Expr.look .textEnd).attempt text next s).map g =
      if s.rest.isEmpty = true then some v else none := by
    have hask : (Expr.look .textEnd).attempt text next s =
        if Look.textEnd.holds text.toArray (s.pos text) = true then next s else none := rfl
    rw [hask, holds_textEnd hs]
    split
    · exact hnext s.rest
    · rfl
  rw [halt, Option.map_or, Option.map_or, Option.map_or, hlook,
    (Expr.reads_chars blankSet).free next hs, (reads_signExpr ';').free next hs,
    (reads_wordExpr ['/', '/']).free next hs, map_bind_next hnext, map_bind_next hnext,
    map_bind_next hnext, endsName_eq]
  cases (Expr.takeOne blankSet s.rest).isSome <;> cases (dropWord? [';'] s.rest).isSome <;>
    cases (dropWord? ['/', '/'] s.rest).isSome <;> rfl

end Ends

/-! ### The name as a group -/

section Groups

variable {text name after : List Char} {s : Spot}

/-- What follows the whole expression: the end of the match is noted. -/
def noteEnd (text : List Char) (s : Spot) : Option Notes := some (s.note text 1).notes

/-- The notes before and behind a part of the text cut out this part. -/
lemma slice_pos (hs : name ++ after <:+ text) :
    Regex.slice text (text.length - (name ++ after).length) (text.length - after.length) =
      name := by
  obtain ⟨before, rfl⟩ := hs
  have hfirst : (before ++ (name ++ after)).length - (name ++ after).length = before.length := by
    simp
  have hlast : (before ++ (name ++ after)).length - after.length - before.length = name.length := by
    simp only [List.length_append]
    omega
  rw [Regex.slice, hfirst, hlast, List.drop_left, List.take_left]

/-- A name is a part of the text. -/
lemma nameSpan_append {text : List Char} (h : nameSpan text = some (name, after)) :
    text = name ++ after := by
  cases text with
  | nil => cases h
  | cons c rest =>
    rw [nameSpan, Option.ite_none_right_eq_some] at h
    obtain ⟨rfl, rfl⟩ := Prod.mk.inj (Option.some.inj h.2)
    rw [List.cons_append, nameRest_append]

/-- The name and its end, as the expression takes them. -/
def namedEnd (text : List Char) : Spot → Option Notes :=
  (Expr.capture 2 nameExpr).attempt text (endExpr.attempt text (noteEnd text))

/-- **A whole name is noted as the second group.**

**Proof sketch.** No shorter name is followed by an end, since what is left of the name would go on
with it. So the whole name is read, the note at its end is made behind it, and the slice between the
two notes is the name. -/
lemma groupOf_namedEnd (hs : s.rest <:+ text) :
    (namedEnd text s).map (groupOf text 2) = (wholeName? s.rest).map some := by
  have hend : ∀ s' : Spot, s'.rest <:+ text →
      (endExpr.attempt text (noteEnd text) (s'.note text 5)).map (groupOf text 2) =
        if endsName s'.rest = true then some (groupOf text 2 (s'.note text 5).notes) else none := by
    intro s' hs'
    exact attempt_endExpr (s := s'.note text 5) hs' fun rest => rfl
  have hcapture : namedEnd text s = nameExpr.attempt text
      (fun s' => endExpr.attempt text (noteEnd text) (s'.note text 5)) (s.note text 4) := rfl
  have hbarred : ∀ s' : Spot, s'.rest <:+ text → NameFirst s'.rest →
      endExpr.attempt text (noteEnd text) (s'.note text 5) = none := by
    intro s' hs' hname
    have hnone := hend s' hs'
    rw [hname.endsName] at hnone
    exact Option.map_eq_none_iff.1 hnone
  rw [hcapture, reads_nameExpr.attempt_eq hbarred (s.note text 4) hs, wholeName?]
  have hrest : (s.note text 4).rest = s.rest := rfl
  rw [hrest]
  cases hspan : nameSpan s.rest with
  | none => rfl
  | some found =>
    obtain ⟨name, after⟩ := found
    have happend := nameSpan_append hspan
    have hafter : after <:+ text := (happend ▸ List.suffix_append name after).trans hs
    have hname : groupOf text 2 ((⟨after, (s.note text 4).notes⟩ : Spot).note text 5).notes =
        some name := by
      have hslice : Regex.slice text (s.pos text) ((⟨after, []⟩ : Spot).pos text) = name := by
        rw [Spot.pos, Spot.pos, happend]
        exact slice_pos (happend ▸ hs)
      exact congrArg some hslice
    rw [Option.map_some, Option.bind_some, Option.bind_some,
      hend ⟨after, (s.note text 4).notes⟩ hafter, hname]
    dsimp only
    cases endsName after <;> rfl

/-- The kind, the name and its end, as the expression takes them. -/
def imported (text : List Char) : Spot → Option Notes :=
  (optionalExpr kindExpr).attempt text (namedEnd text)

/-- No name begins with a blank. -/
lemma wholeName?_of_blankFirst {rest : List Char} (h : BlankFirst rest) :
    wholeName? rest = none := by
  obtain ⟨c, hc, hblank⟩ := h
  obtain ⟨more, rfl⟩ := List.head?_eq_some_iff.1 hc
  rw [wholeName?, nameSpan, startsName_of_isBlank hblank]
  rfl

/-- **The name behind the import word is noted as the second group**, with a kind word if a whole
name follows one.

**Proof sketch.** With a kind word in front, the words are tried in their order and the blanks are
read as far as they go, because no name begins with a blank. If nothing comes of any word, the name
is tried without one. -/
lemma groupOf_imported (hs : s.rest <:+ text) :
    (imported text s).map (groupOf text 2) = (importedName? s.rest).map some := by
  have hbarred : ∀ s' : Spot, s'.rest <:+ text → BlankFirst s'.rest → namedEnd text s' = none := by
    intro s' hs' hblank
    have hnone := groupOf_namedEnd hs'
    rw [wholeName?_of_blankFirst hblank] at hnone
    exact Option.map_eq_none_iff.1 hnone
  have hopt : imported text s =
      (kindExpr.attempt text (namedEnd text) s).or (namedEnd text s) := rfl
  have hkind : kindExpr.attempt text (namedEnd text) s =
      (Expr.choice (kindWords.map wordExpr)).attempt text
        (fun s' => blanksExpr.attempt text (namedEnd text) (s'.note text 3)) (s.note text 2) := rfl
  have hnames : (kindExpr.attempt text (namedEnd text) s).map (groupOf text 2) =
      ((kindWords.findSome? fun word => afterWord? word s.rest).bind wholeName?).map some := by
    rw [hkind, attempt_words (by decide) (s.note text 2) hs, List.map_findSome?, Option.map_bind,
      ← findSome?_afterWord?_bind isBlank_of_mem_kindWords]
    refine findSome?_congr fun word _ => ?_
    rw [Function.comp_apply, afterWord?, Option.bind_assoc, Option.map_bind]
    refine Option.bind_congr fun rest hrest => ?_
    have hends : rest <:+ text := (suffix_of_dropWord? hrest).trans hs
    have hblanks := reads_blanksExpr.attempt_eq hbarred
      ((⟨rest, (s.note text 2).notes⟩ : Spot).note text 3) hends
    rw [Function.comp_apply, hblanks, Option.map_bind]
    exact Option.bind_congr fun rest' hrest' =>
      groupOf_namedEnd ((reads_blanksExpr.suffix hrest').trans hends)
  rw [hopt, Option.map_or, hnames, groupOf_namedEnd hs, ← Option.map_or]
  rfl

/-- Nothing that is imported begins with a blank. -/
lemma importedName?_of_blankFirst {rest : List Char} (h : BlankFirst rest) :
    importedName? rest = none := by
  refine Option.eq_none_iff_forall_ne_some.2 fun name hname => ?_
  obtain ⟨tail, himports⟩ := importedName?_eq_some_iff.1 hname
  obtain ⟨c, hc, hblank⟩ := h
  rw [himports.noBlankFirst c hc] at hblank
  cases hblank

end Groups

/-! ### The whole line -/

/-- The attempt of the whole expression, part by part. -/
lemma attempt_importExpr (text : List Char) :
    importExpr.attempt text (noteEnd text) =
      (Expr.look .textStart).attempt text (leadExpr.attempt text (imported text)) := by
  have hword : (wordExpr importWord).attempt text (blanksExpr.attempt text (imported text)) =
      (importWord.map signExpr).foldr (fun e rest => e.attempt text rest)
        (blanksExpr.attempt text (imported text)) := Expr.attempt_sequence text _ _
  have hlead : leadExpr.attempt text (imported text) =
      (Expr.repetition 0 none true attributeExpr).attempt text
        ((optionalExpr accessExpr).attempt text
          ((wordExpr importWord).attempt text (blanksExpr.attempt text (imported text)))) := rfl
  rw [hlead, hword, importExpr, Expr.attempt_sequence, List.foldr_append, List.foldr_append]
  rfl

/-- What the attempt of the whole expression notes as the second group from a position on: at the
start of the text what the reader takes for the name, and nothing from further on.

**Proof sketch.** Only at the start of the text does the expression come to something. There the
lead is read in one way, and what is behind it gives the name. -/
lemma groupOf_attempt (text : List Char) {i : Nat} (hi : i ≤ text.length) :
    ((Expr.capture 0 importExpr).attempt text (fun s => some s.notes) ⟨text.drop i, []⟩).map
        (groupOf text 2) =
      if i = 0 then (importTarget? text).map some else none := by
  have hcapture :
      (Expr.capture 0 importExpr).attempt text (fun s => some s.notes) ⟨text.drop i, []⟩ =
        importExpr.attempt text (noteEnd text) ((⟨text.drop i, []⟩ : Spot).note text 0) := rfl
  have hpos : ((⟨text.drop i, []⟩ : Spot).note text 0).pos text = i := by
    rw [Spot.pos, Spot.note, List.length_drop]
    omega
  have hbarred : ∀ s : Spot, s.rest <:+ text → BlankFirst s.rest → imported text s = none := by
    intro s hs hblank
    have hnone := groupOf_imported hs
    rw [importedName?_of_blankFirst hblank] at hnone
    exact Option.map_eq_none_iff.1 hnone
  have hask : ∀ s, (Expr.look .textStart).attempt text (leadExpr.attempt text (imported text)) s =
      if s.pos text = 0 then leadExpr.attempt text (imported text) s else none := by
    intro s
    simp [Expr.attempt, Look.holds]
  rw [hcapture, attempt_importExpr, hask, hpos]
  by_cases hzero : i = 0
  · subst hzero
    rw [if_pos rfl, if_pos rfl, reads_leadExpr.attempt_eq hbarred _ (List.drop_suffix 0 text),
      Option.map_bind, importTarget?, Option.map_bind]
    refine Option.bind_congr fun rest hrest => ?_
    exact groupOf_imported ((reads_leadExpr.suffix hrest).trans (List.drop_suffix 0 text))
  · rw [if_neg hzero, if_neg hzero]
    rfl

/-- What a search of the whole expression notes as the second group is what the reader takes for the
name. -/
lemma groupOf_notes? (text : List Char) :
    (importExpr.notes? text).map (groupOf text 2) = (importTarget? text).map some := by
  have hfirst := groupOf_attempt text (Nat.zero_le _)
  have hlater : ∀ i ∈ List.range text.length, ((Expr.capture 0 importExpr).attempt text
      (fun s => some s.notes) ⟨text.drop (i + 1), []⟩).map (groupOf text 2) = none :=
    fun i hi => groupOf_attempt text (List.mem_range.1 hi)
  have hnone := List.findSome?_eq_none_iff.2 hlater
  rw [Expr.notes?, List.map_findSome?, List.range_succ_eq_map, List.findSome?_cons,
    Function.comp_apply, hfirst, if_pos rfl]
  cases importTarget? text with
  | some name => rfl
  | none =>
    rw [Option.map_none, List.findSome?_map]
    exact hnone

/-- **The reader and the regular expression of an import line agree.** The expression is valid, and
for every text its second group is what the reader takes for the name of the module. -/
theorem importTarget?_eq_group? :
    ∃ r, Regex.compile importPattern.toList = .ok r ∧
      ∀ text, importTarget? text = r.group? 2 text := by
  refine ⟨_, compile_importPattern, fun text => ?_⟩
  have hgroup := groupOf_notes? text
  rw [group?_eq_groupOf (by decide +kernel)]
  cases hnotes : importExpr.notes? text with
  | none =>
    rw [hnotes] at hgroup
    exact Option.map_eq_none_iff.1 hgroup.symm
  | some notes =>
    rw [hnotes] at hgroup
    obtain ⟨name, hname, hfound⟩ := Option.map_eq_some_iff.1 hgroup.symm
    rw [hname, Option.bind_some, ← hfound]

end ImportAtlas.Header
