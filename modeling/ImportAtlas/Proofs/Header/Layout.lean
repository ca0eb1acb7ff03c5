import ImportAtlas.Proofs.Header.Imports
import Mathlib.Data.List.Basic

/-!
# Writing headers

How a header may be laid out: import declarations with all their optional parts, blank lines and
comments between them, either kind of line end, a byte-order mark in front and code behind. Whatever
the layout, reading gives the names of the declarations back.

## Main definitions

* `ImportAtlas.Header.Declaration`: an import with its attributes, words, blanks and trailer.
* `ImportAtlas.Header.Entry`: a line of a header, and `ImportAtlas.Header.Ending`, what follows the
  last one.
* `ImportAtlas.Header.Layout`: a file by its parts, with its text and the names in it.

## Main results

* `ImportAtlas.Header.Declaration.classify_text`: a declaration reads as the import of its name.
* `ImportAtlas.Header.Layout.modulesOf_body`: the entries of a header, line by line.
* `ImportAtlas.Header.Layout.imports_text`: a file imports the names of its declarations.
* `ImportAtlas.Header.Layout.not_imports_marked_code`: but not if its first line is code only by
  its byte-order mark.

## Design

The parts carry the proofs that they are what they are called, so every layout is one that can be
written. A file that begins with the byte-order mark can be laid out in two ways: with the mark in
front of its first line, or with the mark as the first character of a line of code. It is always
read the first way.
-/

namespace ImportAtlas.Header

open Text Unicode

/-! ### Parts of a declaration -/

/-- Blanks in a line, perhaps none. -/
structure Blanks where
  /-- The blanks. -/
  text : List Char
  /-- All of them are blank. -/
  blank : ∀ c ∈ text, isBlank c = true
  /-- None of them ends the line. -/
  oneLine : '\n' ∉ text

/-- Blanks between two parts of a line, at least one. -/
structure Gap extends Blanks where
  /-- There is a blank. -/
  nonempty : text ≠ []

/-- An attribute: a word and perhaps an argument. -/
structure Attribute where
  /-- The first character of the word. -/
  first : Char
  /-- The rest of the word. -/
  word : List Char
  /-- What stands between the parentheses, if there are any. -/
  argument : Option (List Char)
  /-- The word begins as one. -/
  starts : startsAttribute first = true
  /-- The word goes on as one. -/
  continues : ∀ c ∈ word, continuesAttribute c = true
  /-- The argument neither closes early nor ends the line. -/
  closed : ∀ inside ∈ argument, ')' ∉ inside ∧ '\n' ∉ inside

/-- An argument in its parentheses. -/
def argumentText : Option (List Char) → List Char
  | some inside => '(' :: (inside ++ [')'])
  | none => []

/-- An attribute as it is written. -/
def Attribute.text (a : Attribute) : List Char :=
  '@' :: a.first :: (a.word ++ argumentText a.argument)

/-- Attributes as they are written, each with its gap. -/
def attributesText (attributes : List (Attribute × Gap)) : List Char :=
  attributes.flatMap fun a => a.1.text ++ a.2.text

/-- A word of a list with its gap, or nothing, as it is written. -/
def wordText {words : List (List Char)} : Option ({ w // w ∈ words } × Gap) → List Char
  | some (word, gap) => word.1 ++ gap.text
  | none => []

/-- What can cut a name off, so that the rest of the line does not count. -/
def trailerSigns : List (List Char) := [[';'], ['/', '/']]

/-- What stands behind a name. -/
inductive Trailer where
  /-- Blanks, perhaps none. -/
  | plain (blanks : Blanks)
  /-- A semicolon or the start of a comment, perhaps with blanks in front, and any text. -/
  | cut (blanks : Blanks) (sign : { s // s ∈ trailerSigns }) (rest : List Char)
      (oneLine : '\n' ∉ rest)

/-- A trailer as it is written. -/
def Trailer.text : Trailer → List Char
  | .plain blanks => blanks.text
  | .cut blanks sign rest _ => blanks.text ++ (sign.1 ++ rest)

/-- An import declaration on a line of its own. -/
structure Declaration where
  /-- The indentation. -/
  indent : Blanks
  /-- The attributes. -/
  attributes : List (Attribute × Gap)
  /-- The access level. -/
  access : Option ({ w // w ∈ accessWords } × Gap)
  /-- The gap behind the import word. -/
  gap : Gap
  /-- The kind word. -/
  kind : Option ({ w // w ∈ kindWords } × Gap)
  /-- The imported module. -/
  name : List Char
  /-- It is a dotted name. -/
  isDotted : IsDotted name
  /-- It is not the import word. -/
  ne_importWord : name ≠ importWord
  /-- What stands behind the name. -/
  trailer : Trailer

namespace Declaration

variable (d : Declaration)

/-- The declaration up to the gap behind the import word. -/
def lead : List Char :=
  attributesText d.attributes ++ (wordText d.access ++ (importWord ++ d.gap.text))

/-- A declaration as it is written. -/
def text : List Char :=
  d.indent.text ++ (d.lead ++ (wordText d.kind ++ (d.name ++ d.trailer.text)))

end Declaration

/-! ### Files -/

/-- A line of a header. -/
inductive Entry where
  /-- An import. -/
  | declaration (d : Declaration)
  /-- A blank line. -/
  | blank (blanks : Blanks)
  /-- A comment. -/
  | comment (indent : Blanks) (text : List Char) (isComment : IsCommentLine text)
      (oneLine : '\n' ∉ text)

namespace Entry

/-- A line as it is written. -/
def text : Entry → List Char
  | .declaration d => d.text
  | .blank blanks => blanks.text
  | .comment indent text _ _ => indent.text ++ text

/-- The module that a line imports. -/
def name? : Entry → Option String
  | .declaration d => some (String.ofList d.name)
  | .blank _ => none
  | .comment .. => none

end Entry

/-- The end of a line. -/
inductive LineEnd where
  /-- A line feed. -/
  | lf
  /-- A carriage return and a line feed. -/
  | crlf

/-- The end of a line as it is written. -/
def LineEnd.text : LineEnd → List Char
  | .lf => ['\n']
  | .crlf => ['\r', '\n']

/-- What stands behind the lines of a header that have an end. -/
inductive Ending where
  /-- Nothing. -/
  | nothing
  /-- One more line of the header, without an end. -/
  | entry (e : Entry)
  /-- A line of code, perhaps with an end and any text behind it. -/
  | code (line : List Char) (isCode : Line.classify line = .code) (oneLine : '\n' ∉ line)
      (rest : Option (LineEnd × List Char))

namespace Ending

/-- An ending as it is written. -/
def text : Ending → List Char
  | .nothing => []
  | .entry e => e.text
  | .code line _ _ none => line
  | .code line _ _ (some (lineEnd, rest)) => line ++ (lineEnd.text ++ rest)

/-- The modules that an ending imports. -/
def names : Ending → List String
  | .nothing => []
  | .entry e => e.name?.toList
  | .code .. => []

/-- A line of code is one also without the byte-order mark that it may begin with. -/
def CodeWithoutMark : Ending → Prop
  | .nothing => True
  | .entry _ => True
  | .code line _ _ _ => Line.classify (dropByteOrderMark line) = .code

end Ending

/-- A file by its parts. -/
structure Layout where
  /-- Whether the byte-order mark stands in front. -/
  mark : Bool
  /-- The lines of the header with their ends. -/
  entries : List (Entry × LineEnd)
  /-- What stands behind them. -/
  ending : Ending

namespace Layout

variable (l : Layout)

/-- The lines of the header as they are written. -/
def body : List Char := l.entries.flatMap fun line => line.1.text ++ line.2.text

/-- A file as it is written. -/
def text : List Char := (if l.mark then [byteOrderMark] else []) ++ (l.body ++ l.ending.text)

/-- The names of the declarations, in their order. -/
def names : List String := l.entries.filterMap (·.1.name?) ++ l.ending.names

end Layout

/-! ### Trimming what is written -/

/-- The blanks at the end of a text can be split off. -/
lemma exists_split_blanks (text : List Char) :
    ∃ more after, text = more ++ after ∧ (∀ c ∈ after, isBlank c = true) ∧
      ∀ c ∈ more.getLast?, isBlank c = false := by
  refine ⟨trimEnd text, (text.reverse.takeWhile isBlank).reverse, ?_, ?_, ?_⟩
  · rw [trimEnd, ← List.reverse_append, List.takeWhile_append_dropWhile, List.reverse_reverse]
  · intro c hc
    exact List.mem_takeWhile_imp (List.mem_reverse.1 hc)
  · intro c hc
    rw [trimEnd, List.getLast?_reverse] at hc
    exact head?_dropWhile_false text.reverse c hc

/-- Two texts one after the other end without a blank if both do. -/
lemma noBlankLast_append {front more : List Char} (hfront : ∀ c ∈ front.getLast?, isBlank c = false)
    (hmore : ∀ c ∈ more.getLast?, isBlank c = false) :
    ∀ c ∈ (front ++ more).getLast?, isBlank c = false := by
  intro c hc
  rw [List.getLast?_append, Option.mem_def, Option.or_eq_some_iff] at hc
  rcases hc with hc | ⟨-, hc⟩
  · exact hmore c hc
  · exact hfront c hc

/-! ### Declarations -/

section Parts

variable {words : List (List Char)}

/-- A gap is a run of blanks. -/
lemma Gap.isBlankRun (g : Gap) : IsBlankRun g.text := ⟨g.nonempty, g.blank⟩

/-- An attribute is written as one. -/
lemma Attribute.isAttribute (a : Attribute) : IsAttribute a.text := by
  refine .mk a.starts a.continues ?_
  unfold argumentText
  cases h : a.argument with
  | none => exact .none
  | some inside => exact .parens (a.closed inside h).1

/-- Attributes are written as attributes. -/
lemma areAttributes_attributesText (attributes : List (Attribute × Gap)) :
    AreAttributes (attributesText attributes) := by
  induction attributes with
  | nil => exact .nil
  | cons a rest ih =>
    have h := AreAttributes.cons a.1.isAttribute a.2.isBlankRun ih
    rwa [← List.append_assoc] at h

/-- An access level is written as one. -/
lemma isAccess_wordText (access : Option ({ w // w ∈ accessWords } × Gap)) :
    IsAccess (wordText access) := by
  cases access with
  | none => exact .none
  | some access => exact .level access.1.2 access.2.isBlankRun

/-- A declaration is written with a lead. -/
lemma Declaration.isLead (d : Declaration) : IsLead d.lead :=
  .mk (areAttributes_attributesText d.attributes) (isAccess_wordText d.access) d.gap.isBlankRun

/-- A name does not end with a blank. -/
lemma IsDotted.noBlank {name : List Char} (h : IsDotted name) : ∀ c ∈ name, isBlank c = false := by
  intro c hc
  rw [Bool.eq_false_iff]
  intro hblank
  rcases h.mem c hc with rfl | hstarts | hcontinues
  · exact absurd hblank (by decide)
  · simp [startsName_of_isBlank hblank] at hstarts
  · simp [isXidContinue_of_isBlank hblank] at hcontinues

/-- What may stand behind a name may stand there behind blanks. -/
lemma IsTail.of_blanks {ws rest : List Char} (hws : ∀ c ∈ ws, isBlank c = true) (h : IsTail rest) :
    IsTail (ws ++ rest) := by
  cases ws with
  | nil => exact h
  | cons c ws => exact .blank (hws c List.mem_cons_self)

/-- A sign that cuts a name off may stand behind one, with any text, and is neither a blank nor the
start of a name. -/
lemma isTail_of_mem_trailerSigns {sign : List Char} (h : sign ∈ trailerSigns) (rest : List Char) :
    IsTail (sign ++ rest) ∧
      (∀ c ∈ (sign ++ rest).head?, isBlank c = false ∧ startsName c = false) ∧
      ∀ c ∈ sign.getLast?, isBlank c = false := by
  have hsigns : sign = [';'] ∨ sign = ['/', '/'] := by simpa [trailerSigns] using h
  rcases hsigns with rfl | rfl
  · refine ⟨.semicolon, ?_, ?_⟩
    · rintro _ ⟨⟩
      decide +kernel
    · rintro _ ⟨⟩
      decide
  · refine ⟨.comment, ?_, ?_⟩
    · rintro _ ⟨⟩
      decide +kernel
    · rintro _ ⟨⟩
      decide

/-- What trimming leaves of a trailer may stand behind a name, and no name begins behind its
blanks. -/
lemma Trailer.exists_tail (t : Trailer) :
    ∃ tail after, t.text = tail ++ after ∧ (∀ c ∈ after, isBlank c = true) ∧ IsTail tail ∧
      (∀ c ∈ tail.getLast?, isBlank c = false) ∧
      ∀ c ∈ (tail.dropWhile isBlank).head?, startsName c = false := by
  cases t with
  | plain b => exact ⟨[], b.text, rfl, b.blank, .nil, by simp, by simp⟩
  | cut b sign rest =>
    obtain ⟨more, after, rfl, hafter, hlast⟩ := exists_split_blanks rest
    obtain ⟨htail, hhead, hend⟩ := isTail_of_mem_trailerSigns sign.2 more
    refine ⟨b.text ++ (sign.1 ++ more), after, ?_, hafter, .of_blanks b.blank htail, ?_, ?_⟩
    · simp only [Trailer.text, List.append_assoc]
    · have hne : sign.1 ++ more ≠ [] := by
        intro hnil
        have hmem := sign.2
        rw [(List.append_eq_nil_iff.1 hnil).1] at hmem
        exact absurd hmem (by decide)
      rw [List.getLast?_append_of_ne_nil _ hne]
      exact noBlankLast_append hend hlast
    · rw [dropWhile_append_of_head b.blank fun c hc => (hhead c hc).1]
      exact fun c hc => (hhead c hc).2

/-- A text is read as a name in only one way. -/
lemma Names.unique {text name name' tail tail' : List Char} (h : Names text name tail)
    (h' : Names text name' tail') : name = name' ∧ tail = tail' := by
  have hread := wholeName?_eq_some_iff.2 ⟨tail, h⟩
  rw [wholeName?_eq_some_iff.2 ⟨tail', h'⟩] at hread
  obtain rfl := Option.some.inj hread
  refine ⟨rfl, ?_⟩
  exact List.append_cancel_left (h.split.symm.trans h'.split)

/-- **A name is not taken for a kind word** if no other name begins behind it.

**Proof sketch.** A kind word is itself a name, and blanks may stand behind a name. So the kind word
would be the name, and what follows its blanks would be the start of another name. -/
lemma Names.not_kindForm {text name tail : List Char} (h : Names text name tail)
    (htail : ∀ c ∈ (tail.dropWhile isBlank).head?, startsName c = false) (n t : List Char) :
    ¬KindForm text n t := by
  rintro ⟨kind, hkind, ws, rest, hws, hrest, htext⟩
  obtain ⟨c, more, rfl⟩ := List.exists_cons_of_ne_nil hws.1
  have hname : Names text kind (c :: more ++ rest) :=
    ⟨htext, isDotted_of_mem_kindWords hkind, .blank (hws.2 c List.mem_cons_self)⟩
  obtain ⟨-, rfl⟩ := h.unique hname
  rw [dropWhile_append_of_head hws.2 (hrest.split ▸ hrest.name.noBlankFirst t)] at htail
  obtain ⟨d, word, rfl, hd, -⟩ := isDotted_iff.1 hrest.name
  rw [hrest.split] at htail
  simp [htail d rfl] at hd

end Parts

namespace Declaration

variable (d : Declaration) {tail after : List Char}

/-- A declaration with the trailer cut down is an import of its name, if no name begins behind the
blanks of what is left of the trailer.

With a kind word the text is one of the kind form. Without one it is not, even if the name is itself
a kind word. -/
lemma importLine (htail : IsTail tail)
    (hnext : ∀ c ∈ (tail.dropWhile isBlank).head?, startsName c = false) :
    ImportLine (d.lead ++ (wordText d.kind ++ (d.name ++ tail))) d.name tail := by
  have hnames : Names (d.name ++ tail) d.name tail := ⟨rfl, d.isDotted, htail⟩
  have himports : Imports (wordText d.kind ++ (d.name ++ tail)) d.name tail := by
    cases hkind : d.kind with
    | none => exact .inr ⟨hnames.not_kindForm hnext, hnames⟩
    | some kind =>
      refine .inl ⟨kind.1.1, kind.1.2, kind.2.text, _, kind.2.isBlankRun, hnames, ?_⟩
      simp only [wordText, List.append_assoc]
  exact ⟨d.ne_importWord, d.lead, _, d.isLead, himports, rfl⟩

/-- Trimming a declaration takes away its indentation and the blanks at the end of its trailer. -/
lemma trim_text (htrailer : d.trailer.text = tail ++ after)
    (hafter : ∀ c ∈ after, isBlank c = true) (hlast : ∀ c ∈ tail.getLast?, isBlank c = false) :
    trim d.text = d.lead ++ (wordText d.kind ++ (d.name ++ tail)) := by
  apply IsTrimOf.trim_eq
  refine ⟨⟨d.indent.text, after, ?_, d.indent.blank, hafter⟩, ?_, ?_⟩
  · simp only [Declaration.text, htrailer, List.append_assoc]
  · obtain ⟨c, more, hhead, hc⟩ := d.isLead.head (wordText d.kind ++ (d.name ++ tail))
    rw [hhead]
    rintro _ ⟨⟩
    rw [Bool.eq_false_iff]
    intro hblank
    rcases hc with rfl | halpha
    · exact absurd hblank (by decide)
    · simp [eq_false_of_isBlank (p := Char.isAlpha) (by decide) hblank] at halpha
  · have hname : ∀ c ∈ d.name.getLast?, isBlank c = false := fun c hc =>
      d.isDotted.noBlank c (List.mem_of_getLast? hc)
    have hend := noBlankLast_append hname hlast
    have hne : d.name ++ tail ≠ [] := by
      obtain ⟨c, rest, hcons, -⟩ := isDotted_iff.1 d.isDotted
      simp [hcons]
    rwa [← List.append_assoc, List.getLast?_append_of_ne_nil _ hne]

/-- **A declaration reads as the import of its name**, whatever its optional parts are. -/
lemma classify_text : Line.classify d.text = .importing (String.ofList d.name) := by
  obtain ⟨tail, after, htrailer, hafter, htail, hlast, hnext⟩ := d.trailer.exists_tail
  rw [Line.classify_importing_iff, d.trim_text htrailer hafter hlast, String.toList_ofList]
  exact ⟨tail, d.importLine htail hnext⟩

end Declaration

/-! ### One line -/

/-- A word of a list does not end the line, if no word of the list does. -/
lemma newline_not_mem_wordText {words : List (List Char)} (hwords : ∀ w ∈ words, '\n' ∉ w)
    (word : Option ({ w // w ∈ words } × Gap)) : '\n' ∉ wordText word := by
  cases word with
  | none => exact List.not_mem_nil
  | some word =>
    rw [wordText, List.mem_append, not_or]
    exact ⟨hwords word.1.1 word.1.2, word.2.oneLine⟩

/-- An attribute does not end the line. -/
lemma Attribute.newline_not_mem (a : Attribute) : '\n' ∉ a.text := by
  have hfirst : a.first ≠ '\n' := by
    intro h
    have hstarts := a.starts
    rw [h] at hstarts
    exact absurd hstarts (by decide)
  have hword : '\n' ∉ a.word := by
    intro h
    exact absurd (a.continues _ h) (by decide)
  have hargument : '\n' ∉ argumentText a.argument := by
    unfold argumentText
    cases h : a.argument with
    | none => exact List.not_mem_nil
    | some inside => simp [(a.closed inside h).2]
  simp [Attribute.text, hfirst.symm, hword, hargument]

/-- Attributes do not end the line. -/
lemma newline_not_mem_attributesText (attributes : List (Attribute × Gap)) :
    '\n' ∉ attributesText attributes := by
  intro h
  obtain ⟨a, -, ha⟩ := List.mem_flatMap.1 h
  rcases List.mem_append.1 ha with ha | ha
  · exact a.1.newline_not_mem ha
  · exact a.2.oneLine ha

/-- A trailer does not end the line. -/
lemma Trailer.newline_not_mem (t : Trailer) : '\n' ∉ t.text := by
  have hsigns : ∀ s ∈ trailerSigns, '\n' ∉ s := by decide
  cases t with
  | plain b => exact b.oneLine
  | cut b sign rest oneLine =>
    rw [Trailer.text, List.mem_append, List.mem_append, not_or, not_or]
    exact ⟨b.oneLine, hsigns sign.1 sign.2, oneLine⟩

/-- A declaration is written on one line. -/
lemma Declaration.newline_not_mem (d : Declaration) : '\n' ∉ d.text := by
  have hname : '\n' ∉ d.name := by
    intro h
    exact absurd (d.isDotted.noBlank _ h) (by decide)
  have haccess := newline_not_mem_wordText (by decide : ∀ w ∈ accessWords, '\n' ∉ w) d.access
  have hkind := newline_not_mem_wordText (by decide : ∀ w ∈ kindWords, '\n' ∉ w) d.kind
  have himport : '\n' ∉ importWord := by decide
  simp only [Declaration.text, Declaration.lead, List.mem_append, not_or]
  exact ⟨d.indent.oneLine,
    ⟨newline_not_mem_attributesText d.attributes, haccess, himport, d.gap.oneLine⟩, hkind, hname,
    d.trailer.newline_not_mem⟩

namespace Entry

/-- A line of a header is written on one line. -/
lemma newline_not_mem (e : Entry) : '\n' ∉ e.text := by
  cases e with
  | declaration d => exact d.newline_not_mem
  | blank b => exact b.oneLine
  | comment indent text _ oneLine =>
    rw [Entry.text, List.mem_append, not_or]
    exact ⟨indent.oneLine, oneLine⟩

end Entry

/-! ### Entries -/

/-- A line of blanks is blank. -/
lemma Blanks.classify_text (b : Blanks) : Line.classify b.text = .blank := by
  rw [Line.classify_blank_iff]
  apply IsTrimOf.trim_eq
  exact ⟨⟨b.text, [], by simp, b.blank, by simp⟩, by simp, by simp⟩

/-- A comment with blanks in front is a comment.

**Proof sketch.** Whichever way the comment begins, its first characters are no blanks, so trimming
leaves them where they are. -/
lemma classify_comment {text : List Char} (indent : Blanks) (h : IsCommentLine text) :
    Line.classify (indent.text ++ text) = .comment := by
  obtain ⟨sign, rest, rfl, hsign⟩ :
      ∃ sign rest, text = sign ++ rest ∧ sign ∈ [['/', '/'], ['/', '*'], ['*']] := by
    rcases h with ⟨rest, rfl⟩ | ⟨rest, rfl⟩ | ⟨rest, rfl⟩
    · exact ⟨_, rest, rfl, by simp⟩
    · exact ⟨_, rest, rfl, by simp⟩
    · exact ⟨_, rest, rfl, by simp⟩
  have hends : ∀ sign ∈ [['/', '/'], ['/', '*'], ['*']], sign.any isBlank = false ∧ sign ≠ [] := by
    decide
  obtain ⟨hany, hne⟩ := hends sign hsign
  have hnoblank : ∀ c ∈ sign, isBlank c = false := by simpa using hany
  obtain ⟨more, after, rfl, hafter, hlast⟩ := exists_split_blanks rest
  have htrim : trim (indent.text ++ (sign ++ (more ++ after))) = sign ++ more := by
    apply IsTrimOf.trim_eq
    refine ⟨⟨indent.text, after, by simp only [List.append_assoc], indent.blank, hafter⟩, ?_, ?_⟩
    · intro c hc
      rw [List.head?_append_of_ne_nil _ hne] at hc
      exact hnoblank c (List.mem_of_mem_head? hc)
    · exact noBlankLast_append (fun c hc => hnoblank c (List.mem_of_getLast? hc)) hlast
  rw [Line.classify_comment_iff, htrim]
  simp only [List.mem_cons, List.not_mem_nil, or_false] at hsign
  rcases hsign with rfl | rfl | rfl
  · exact .inl (List.prefix_append _ _)
  · exact .inr (.inl (List.prefix_append _ _))
  · exact .inr (.inr (List.prefix_append _ _))

namespace Entry

/-- **A line of a header does not end it**, and reads as the import of the module that it names, if
it names one. -/
lemma classify_text (e : Entry) :
    Line.classify e.text ≠ .code ∧ (Line.classify e.text).module? = e.name? := by
  cases e with
  | declaration d =>
    rw [Entry.text, d.classify_text]
    exact ⟨by simp, rfl⟩
  | blank b =>
    rw [Entry.text, b.classify_text]
    exact ⟨by simp, rfl⟩
  | comment indent text isComment _ =>
    rw [Entry.text, classify_comment indent isComment]
    exact ⟨by simp, rfl⟩

/-- A line of a header before other lines. -/
lemma modulesOf_cons (e : Entry) (ls : List (List Char)) :
    modulesOf (e.text :: ls) = e.name?.toList ++ modulesOf ls := by
  rw [modulesOf_line e.classify_text.1, e.classify_text.2]

end Entry

/-! ### Files -/

/-- A line with either end reads as itself, before what follows. -/
lemma LineEnd.modulesOf_lines (lineEnd : LineEnd) {line : List Char} (h : '\n' ∉ line)
    (rest : List Char) :
    modulesOf (lines (line ++ (lineEnd.text ++ rest))) = modulesOf (line :: lines rest) := by
  cases lineEnd with
  | lf => exact modulesOf_lines_cons h rest
  | crlf =>
    have hreturn : '\n' ∉ line ++ ['\r'] := by simp [h]
    have hsplit : line ++ (LineEnd.crlf.text ++ rest) = line ++ ['\r'] ++ '\n' :: rest := by
      simp [LineEnd.text]
    rw [hsplit, modulesOf_lines_cons hreturn]
    apply modulesOf_congr
    rw [List.map_cons, Line.classify_append_return]
    rfl

namespace Ending

/-- A line of code at the end, with what follows it, gives no modules. -/
lemma modulesOf_code_text {line : List Char} (isCode : Line.classify line = .code)
    (oneLine : '\n' ∉ line) (rest : Option (LineEnd × List Char)) :
    modulesOf (lines (code line isCode oneLine rest).text) = [] := by
  cases rest with
  | none =>
    have hne : line ≠ [] := by
      rintro rfl
      cases isCode
    rw [Ending.text, lines_unended oneLine hne]
    exact modulesOf_code isCode []
  | some rest =>
    rw [Ending.text, rest.1.modulesOf_lines oneLine]
    exact modulesOf_code isCode _

/-- An ending gives its modules. -/
lemma modulesOf_text (e : Ending) : modulesOf (lines e.text) = e.names := by
  cases e with
  | nothing => rfl
  | entry e =>
    by_cases hne : e.text = []
    · have hreading := e.classify_text.2
      rw [hne] at hreading
      rw [Ending.text, Ending.names, hne, ← hreading]
      rfl
    · rw [Ending.text, lines_unended e.newline_not_mem hne, e.modulesOf_cons]
      exact List.append_nil _
  | code line isCode oneLine rest => exact modulesOf_code_text isCode oneLine rest

end Ending

/-! ### The byte-order mark -/

/-- A text that does not begin with the byte-order mark has none to be taken off. -/
lemma dropByteOrderMark_eq_self {text : List Char} (h : text.head? ≠ some byteOrderMark) :
    dropByteOrderMark text = text := by
  cases text with
  | nil => rfl
  | cons c rest =>
    have hc : c ≠ byteOrderMark := by simpa using h
    exact if_neg hc

/-- The byte-order mark is taken off the first line, if that is not empty. -/
lemma dropByteOrderMark_append {line : List Char} (h : line ≠ []) (rest : List Char) :
    dropByteOrderMark (line ++ rest) = dropByteOrderMark line ++ rest := by
  obtain ⟨c, more, rfl⟩ := List.exists_cons_of_ne_nil h
  simp only [List.cons_append, dropByteOrderMark]
  split <;> rfl

/-- A line of a header does not begin with the byte-order mark, because such a line is code. -/
lemma Entry.head?_text_ne (e : Entry) : e.text.head? ≠ some byteOrderMark := by
  intro h
  obtain ⟨rest, hrest⟩ := List.head?_eq_some_iff.1 h
  apply e.classify_text.1
  rw [hrest]
  exact Line.classify_mark rest

/-- With its end, a line of a header does not begin with the byte-order mark either. -/
lemma Entry.head?_text_append_ne (e : Entry) (lineEnd : LineEnd) (rest : List Char) :
    (e.text ++ (lineEnd.text ++ rest)).head? ≠ some byteOrderMark := by
  cases htext : e.text with
  | nil => cases lineEnd <;> simp [LineEnd.text, byteOrderMark]
  | cons c more =>
    have h := e.head?_text_ne
    rw [htext] at h
    exact h

/-- Behind a byte-order mark that it may begin with, an ending gives the same modules, if a line of
code is one also without the mark.

**Proof sketch.** An entry has no mark to be dropped. Of a line of code the mark is dropped from the
line, which is still code and still one line. -/
lemma Ending.modulesOf_dropByteOrderMark (e : Ending) (h : e.CodeWithoutMark) :
    modulesOf (lines (dropByteOrderMark e.text)) = e.names := by
  cases e with
  | nothing => rfl
  | entry e =>
    rw [Ending.text, dropByteOrderMark_eq_self e.head?_text_ne]
    exact (Ending.entry e).modulesOf_text
  | code line isCode oneLine rest =>
    have hne : line ≠ [] := by
      rintro rfl
      cases isCode
    have hline : '\n' ∉ dropByteOrderMark line := by
      obtain ⟨c, more, rfl⟩ := List.exists_cons_of_ne_nil hne
      rw [List.mem_cons, not_or] at oneLine
      rw [dropByteOrderMark]
      split
      · exact oneLine.2
      · rw [List.mem_cons, not_or]
        exact oneLine
    have htext : dropByteOrderMark (Ending.code line isCode oneLine rest).text =
        (Ending.code (dropByteOrderMark line) h hline rest).text := by
      cases rest with
      | none => rfl
      | some rest => exact dropByteOrderMark_append hne _
    rw [htext]
    exact modulesOf_code_text h hline rest

namespace Layout

/-- **The entries of a header, line by line.** -/
lemma modulesOf_body (l : Layout) (rest : List Char) :
    modulesOf (lines (l.body ++ rest)) =
      l.entries.filterMap (·.1.name?) ++ modulesOf (lines rest) := by
  unfold Layout.body
  induction l.entries with
  | nil => rfl
  | cons line more ih =>
    rw [List.flatMap_cons, List.append_assoc, List.append_assoc,
      line.2.modulesOf_lines line.1.newline_not_mem, line.1.modulesOf_cons, ih]
    cases hname : line.1.name? <;> simp [hname]

/-- The lines of a file behind its byte-order mark give the names of its declarations. -/
lemma modulesOf_body_ending (l : Layout) :
    modulesOf (lines (l.body ++ l.ending.text)) = l.names := by
  rw [l.modulesOf_body, l.ending.modulesOf_text]
  rfl

/-- **A file imports the names of its declarations**, in their order and with repetitions, if a line
of code that nothing stands in front of, not even the byte-order mark, is code also without the mark
that it may begin with.

**Proof sketch.** With the mark in front, taking it off leaves the lines. Without it, a first line
of the header stays as it is, since no line that begins with the mark belongs to a header. A first
line of code may lose a mark, and by assumption it ends the header all the same. -/
theorem imports_text (l : Layout)
    (h : l.mark = false → l.entries = [] → l.ending.CodeWithoutMark) :
    imports l.text = l.names := by
  rw [imports_eq]
  cases hmark : l.mark with
  | true =>
    have htext : dropByteOrderMark l.text = l.body ++ l.ending.text := by
      simp [Layout.text, hmark, dropByteOrderMark]
    rw [htext]
    exact l.modulesOf_body_ending
  | false =>
    have htext : l.text = l.body ++ l.ending.text := by simp [Layout.text, hmark]
    cases hentries : l.entries with
    | nil =>
      have hbody : l.body = [] := by simp [Layout.body, hentries]
      have hnames : l.names = l.ending.names := by simp [Layout.names, hentries]
      rw [htext, hbody, hnames]
      exact l.ending.modulesOf_dropByteOrderMark (h hmark hentries)
    | cons line more =>
      have hhead : l.text.head? ≠ some byteOrderMark := by
        rw [htext, Layout.body, hentries, List.flatMap_cons, List.append_assoc, List.append_assoc]
        exact line.1.head?_text_append_ne line.2 _
      rw [dropByteOrderMark_eq_self hhead, htext]
      exact l.modulesOf_body_ending

/-- A header with an attribute, an access level, a kind word, names that are words themselves, a
comment, a blank line and both line ends, and a file whose first line is code.

**Proof sketch.** The two texts are written out as layouts, declaration by declaration. Only that
the lines of code are code is found by evaluation. -/
theorem imports_text_words :
    imports ("@testable(B) import class // c\r\n/* d */\n\n".toList ++
        "public import struct class.A ;\nlet x".toList) = ["class", "class.A"] ∧
      imports "let x = 1\nimport A".toList = [] := by
  let none : Blanks := ⟨[], by simp, by simp⟩
  let space : Gap := ⟨⟨[' '], List.all_eq_true.1 (by decide), by decide⟩, by decide⟩
  let testable : Attribute :=
    ⟨'t', "estable".toList, some ['B'], by decide, List.all_eq_true.1 (by decide +kernel), by simp⟩
  have hclass : IsDotted "class".toList := isDotted_of_mem_kindWords (by decide)
  let first : Declaration :=
    ⟨none, [(testable, space)], .none, space, .none, "class".toList, hclass, by decide,
      .cut space.toBlanks ⟨['/', '/'], by decide⟩ " c".toList (by decide)⟩
  let second : Declaration :=
    ⟨none, [], some (⟨"public".toList, by decide⟩, space), space,
      some (⟨"struct".toList, by decide⟩, space), "class.A".toList,
      .dot (n := "class".toList) ⟨by decide +kernel, List.all_eq_true.1 (by decide +kernel)⟩
        (.single ⟨by decide +kernel, by simp⟩),
      by decide, .cut space.toBlanks ⟨[';'], by decide⟩ [] (by simp)⟩
  have hcode : Line.classify "let x".toList = .code := by decide +kernel
  have hcode' : Line.classify "let x = 1".toList = .code := by decide +kernel
  let header : Layout :=
    ⟨false, [(.declaration first, .crlf),
      (.comment none "/* d */".toList (.inr (.inl ⟨" d */".toList, rfl⟩)) (by decide), .lf),
      (.blank none, .lf), (.declaration second, .lf)],
      .code "let x".toList hcode (by decide) .none⟩
  let body : Layout :=
    ⟨false, [], .code "let x = 1".toList hcode' (by decide) (some (.lf, "import A".toList))⟩
  exact ⟨imports_text header (by simp [header]), imports_text body fun _ _ => hcode'⟩

/-- **A line that is code only by the byte-order mark is read as the import that it hides**, if it
is the first line of a file. So not every layout is read back. -/
theorem not_imports_marked_code : ¬∀ l : Layout, imports l.text = l.names := by
  intro h
  have hcode : Line.classify (byteOrderMark :: "import A".toList) = .code := Line.classify_mark _
  have hnone : imports (byteOrderMark :: "import A".toList) = [] :=
    h ⟨false, [], .code (byteOrderMark :: "import A".toList) hcode (by decide) none⟩
  have hread : imports (byteOrderMark :: "import A".toList) = ["A"] := by decide +kernel
  rw [hread] at hnone
  cases hnone

end Layout

end ImportAtlas.Header
