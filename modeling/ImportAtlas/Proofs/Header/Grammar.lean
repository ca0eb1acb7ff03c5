import ImportAtlas.Header.Line
import Mathlib.Tactic.Lemma

/-!
# The grammar of header lines

What a line may look like, told by how it is put together from parts and without any reading from
left to right. The parts of the reader are not mentioned here, only its classes of characters and
its lists of words.

## Main definitions

* `ImportAtlas.Header.IsDotted`: identifiers with dots between them.
* `ImportAtlas.Header.IsLead`: attributes, an access level and the import word, each with blanks
  after it.
* `ImportAtlas.Header.Names`, `ImportAtlas.Header.KindForm`: a text that names something, without a
  kind word and with one.
* `ImportAtlas.Header.ImportLine`: a line that imports the named module.
* `ImportAtlas.Header.IsTrimOf`: a text without the blanks at its two ends.

## Main results

* `ImportAtlas.Header.isDotted_iff`: a dotted name told character by character.
* `ImportAtlas.Header.IsTail.not_isDotted`: a name is not cut short.

## Design

A kind word is itself an identifier: `import class` names a module, and `import class A` names
another one. `Imports` settles this. The text is read without a kind only if no reading with a kind
exists, even if the name that a reading with a kind gives is the import word, which is no module.
-/

namespace ImportAtlas.Header

open Text Unicode

/-! ### Parts of a line -/

/-- A non-empty run of blanks. -/
def IsBlankRun (w : List Char) : Prop := w ≠ [] ∧ ∀ c ∈ w, isBlank c = true

/-- An identifier: a character that may begin one, and characters that may go on. -/
inductive IsIdentifier : List Char → Prop
  | mk {c : Char} {rest : List Char} : startsName c = true →
      (∀ d ∈ rest, isXidContinue d = true) → IsIdentifier (c :: rest)

/-- A dotted name: one identifier, or several with a dot between each two. -/
inductive IsDotted : List Char → Prop
  | single {n : List Char} : IsIdentifier n → IsDotted n
  | dot {n m : List Char} : IsIdentifier n → IsDotted m → IsDotted (n ++ '.' :: m)

/-- The argument of an attribute, which may be missing. It ends at the first closing parenthesis. -/
inductive IsArgument : List Char → Prop
  | none : IsArgument []
  | parens {inside : List Char} : ')' ∉ inside → IsArgument ('(' :: (inside ++ [')']))

/-- An attribute. -/
inductive IsAttribute : List Char → Prop
  | mk {c : Char} {word arg : List Char} : startsAttribute c = true →
      (∀ d ∈ word, continuesAttribute d = true) → IsArgument arg →
      IsAttribute ('@' :: c :: (word ++ arg))

/-- A sequence of attributes, each with blanks after it. -/
inductive AreAttributes : List Char → Prop
  | nil : AreAttributes []
  | cons {a ws rest : List Char} : IsAttribute a → IsBlankRun ws → AreAttributes rest →
      AreAttributes (a ++ (ws ++ rest))

/-- An access level with blanks after it, or nothing. -/
inductive IsAccess : List Char → Prop
  | none : IsAccess []
  | level {w ws : List Char} : w ∈ accessWords → IsBlankRun ws → IsAccess (w ++ ws)

/-- All that stands before the name, or before the kind if there is one. -/
inductive IsLead : List Char → Prop
  | mk {attributes access ws : List Char} : AreAttributes attributes → IsAccess access →
      IsBlankRun ws → IsLead (attributes ++ (access ++ (importWord ++ ws)))

/-- What may stand after a name: nothing, or a text that begins with a blank, a semicolon or a
comment. -/
inductive IsTail : List Char → Prop
  | nil : IsTail []
  | blank {c : Char} {rest : List Char} : isBlank c = true → IsTail (c :: rest)
  | semicolon {rest : List Char} : IsTail (';' :: rest)
  | comment {rest : List Char} : IsTail ('/' :: '/' :: rest)

/-! ### Lines -/

/-- The text is a dotted name and what may stand after it. -/
structure Names (text name tail : List Char) : Prop where
  /-- The text is made up of the two. -/
  split : text = name ++ tail
  /-- The first is a name. -/
  name : IsDotted name
  /-- The second may stand after it. -/
  tail : IsTail tail

/-- The text is a kind word, blanks, and a text that names something. -/
def KindForm (text name tail : List Char) : Prop :=
  ∃ kind ∈ kindWords, ∃ ws rest, IsBlankRun ws ∧ Names rest name tail ∧
    text = kind ++ (ws ++ rest)

/-- What the text after the import word imports: what it names with a kind word or, only if no such
reading of it exists, what it names without one. -/
def Imports (text name tail : List Char) : Prop :=
  KindForm text name tail ∨ (∀ n t, ¬KindForm text n t) ∧ Names text name tail

/-- The line imports the named module, and the tail follows the name. -/
def ImportLine (text name tail : List Char) : Prop :=
  name ≠ importWord ∧
    ∃ lead rest, IsLead lead ∧ Imports rest name tail ∧ text = lead ++ rest

/-- The line is a comment as far as a line can show. -/
def IsCommentLine (text : List Char) : Prop :=
  ['/', '/'] <+: text ∨ ['/', '*'] <+: text ∨ ['*'] <+: text

/-- The text neither begins nor ends with a blank, and only blanks are missing from it at the two
ends of the line. -/
def IsTrimOf (text line : List Char) : Prop :=
  (∃ before after, line = before ++ text ++ after ∧ (∀ c ∈ before, isBlank c = true) ∧
    ∀ c ∈ after, isBlank c = true) ∧
  (∀ c ∈ text.head?, isBlank c = false) ∧ ∀ c ∈ text.getLast?, isBlank c = false

/-! ### Characters -/

/-- A class of characters has no blank in it if it has none of the listed ones. -/
lemma eq_false_of_isBlank {p : Char → Bool}
    (h : ∀ r ∈ blankRanges, ∀ n ∈ List.range' r.1 (r.2 + 1 - r.1), p (Char.ofNat n) = false)
    {c : Char} (hc : isBlank c = true) : p c = false := by
  simp only [isBlank, List.any_eq_true, Bool.and_eq_true, decide_eq_true_eq] at hc
  obtain ⟨r, hr, hlow, hhigh⟩ := hc
  have hmem : c.toNat ∈ List.range' r.1 (r.2 + 1 - r.1) := by
    rw [List.mem_range'_1]
    omega
  simpa using h r hr _ hmem

/-- No identifier goes on with a blank. -/
lemma isXidContinue_of_isBlank {c : Char} (hc : isBlank c = true) : isXidContinue c = false :=
  eq_false_of_isBlank (by decide +kernel) hc

/-- No name begins with a blank. -/
lemma startsName_of_isBlank {c : Char} (hc : isBlank c = true) : startsName c = false :=
  eq_false_of_isBlank (by decide +kernel) hc

/-- No attribute goes on with a blank. -/
lemma continuesAttribute_of_isBlank {c : Char} (hc : isBlank c = true) :
    continuesAttribute c = false :=
  eq_false_of_isBlank (by decide +kernel) hc

/-- A text whose first character, if it has one, is no blank. -/
def NoBlankFirst (text : List Char) : Prop := ∀ c ∈ text.head?, isBlank c = false

/-- A name does not begin with a blank, whatever follows it. -/
lemma IsDotted.noBlankFirst {m : List Char} (h : IsDotted m) (rest : List Char) :
    NoBlankFirst (m ++ rest) := by
  have hfirst : ∀ {n : List Char}, IsIdentifier n → ∀ more, NoBlankFirst (n ++ more) := by
    rintro _ ⟨hc, -⟩ more d hd
    obtain rfl := Option.some.inj hd
    refine Bool.eq_false_iff.2 fun hblank => ?_
    simp [startsName_of_isBlank hblank] at hc
  cases h with
  | single hn => exact hfirst hn rest
  | dot hn _ =>
    rw [List.append_assoc]
    exact hfirst hn _

/-! ### Names, character by character -/

/-- What may follow the first character of a dotted name. -/
inductive GoesOn : List Char → Prop
  | nil : GoesOn []
  | cons {c : Char} {rest : List Char} : isXidContinue c = true → GoesOn rest → GoesOn (c :: rest)
  | dot {c : Char} {rest : List Char} : startsName c = true → GoesOn rest →
      GoesOn ('.' :: c :: rest)

/-- What follows the first character of an identifier can be put before what may follow. -/
lemma GoesOn.append {w rest : List Char} (hw : ∀ d ∈ w, isXidContinue d = true)
    (h : GoesOn rest) : GoesOn (w ++ rest) := by
  induction w with
  | nil => exact h
  | cons c w ih =>
    rw [List.forall_mem_cons] at hw
    exact .cons hw.1 (ih hw.2)

/-- A dotted name stays one if its first identifier gets longer by a character. -/
lemma IsDotted.insert {c d : Char} {rest : List Char} (h : IsDotted (c :: rest))
    (hd : isXidContinue d = true) : IsDotted (c :: d :: rest) := by
  have hgrow : ∀ {n : List Char}, IsIdentifier (c :: n) → IsIdentifier (c :: d :: n) := by
    rintro n ⟨hc, hn⟩
    exact ⟨hc, List.forall_mem_cons.2 ⟨hd, hn⟩⟩
  generalize hm : c :: rest = m at h
  cases h with
  | single hn =>
    subst hm
    exact .single (hgrow hn)
  | dot hn hmore =>
    cases hn with
    | mk hc hrest =>
      obtain ⟨rfl, rfl⟩ := List.cons.inj hm
      exact .dot (hgrow ⟨hc, hrest⟩) hmore

/-- **A dotted name, character by character**: one that may begin a name, and what may follow. -/
lemma isDotted_iff {m : List Char} :
    IsDotted m ↔ ∃ c rest, m = c :: rest ∧ startsName c = true ∧ GoesOn rest := by
  constructor
  · intro h
    induction h with
    | single hn =>
      obtain ⟨hc, hrest⟩ := hn
      refine ⟨_, _, rfl, hc, ?_⟩
      simpa using GoesOn.nil.append hrest
    | dot hn _ ih =>
      obtain ⟨hc, hrest⟩ := hn
      obtain ⟨d, more, rfl, hd, hmore⟩ := ih
      exact ⟨_, _, rfl, hc, (GoesOn.dot hd hmore).append hrest⟩
  · rintro ⟨c, rest, rfl, hc, h⟩
    induction h generalizing c with
    | nil => exact .single ⟨hc, by simp⟩
    | cons hd _ ih => exact (ih c hc).insert hd
    | dot hd _ ih => exact .dot (n := [c]) ⟨hc, by simp⟩ (ih _ hd)

/-! ### Ends of names -/

/-- What may stand after a name begins with a character that no name has in it. -/
lemma IsTail.first {c : Char} {rest : List Char} (h : IsTail (c :: rest)) :
    c ≠ '.' ∧ startsName c = false ∧ isXidContinue c = false := by
  cases h with
  | blank hc =>
    refine ⟨?_, startsName_of_isBlank hc, isXidContinue_of_isBlank hc⟩
    rintro rfl
    exact absurd hc (by decide)
  | semicolon => exact ⟨by decide, by decide +kernel, by decide +kernel⟩
  | comment => exact ⟨by decide, by decide +kernel, by decide +kernel⟩

/-- The characters of a dotted name. -/
lemma IsDotted.mem {m : List Char} (h : IsDotted m) :
    ∀ c ∈ m, c = '.' ∨ startsName c = true ∨ isXidContinue c = true := by
  have hidentifier : ∀ {n : List Char}, IsIdentifier n →
      ∀ c ∈ n, startsName c = true ∨ isXidContinue c = true := by
    rintro _ ⟨hc, hrest⟩ d hd
    rcases List.mem_cons.1 hd with rfl | hd
    · exact .inl hc
    · exact .inr (hrest d hd)
  induction h with
  | single hn => exact fun c hc => .inr (hidentifier hn c hc)
  | dot hn _ ih =>
    intro c hc
    rcases List.mem_append.1 hc with hc | hc
    · exact .inr (hidentifier hn c hc)
    · rcases List.mem_cons.1 hc with rfl | hc
      · exact .inl rfl
      · exact ih c hc

/-- **A name is not cut short.** Nothing of what stands after it can be added to the name. -/
lemma IsTail.not_isDotted {more after : List Char} (h : IsTail (more ++ after)) (hmore : more ≠ [])
    (name : List Char) : ¬IsDotted (name ++ more) := by
  intro hdotted
  obtain ⟨c, more, rfl⟩ := List.exists_cons_of_ne_nil hmore
  obtain ⟨hdot, hstarts, hgoes⟩ := h.first
  rcases hdotted.mem c (by simp) with hc | hc | hc
  · exact hdot hc
  · simp [hstarts] at hc
  · simp [hgoes] at hc

/-- The name of an import line is followed by what may stand after a name. -/
lemma Imports.isTail {text name tail : List Char} (h : Imports text name tail) : IsTail tail := by
  rcases h with ⟨_, _, _, _, _, hnames, _⟩ | ⟨_, hnames⟩
  · exact hnames.tail
  · exact hnames.tail

end ImportAtlas.Header
