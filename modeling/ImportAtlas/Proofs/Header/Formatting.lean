import ImportAtlas.Proofs.Header.Composition

/-!
# Formatting a file

Some changes of a text leave what it tells as it is: blanks at the starts and ends of its lines, the
other kind of line end, and more blank lines and comments. None of them changes what a file imports,
and neither does the byte-order mark in front of it.

## Main definitions

* `ImportAtlas.Header.withReturns`: a text with a carriage return in front of every line feed.
* `ImportAtlas.Header.Padded`: a text, and the text with blanks around its lines.
* `ImportAtlas.Header.Inserted`: a text, and the text with one more line.

## Main results

* `ImportAtlas.Header.told_append_blanks`, `ImportAtlas.Header.told_blanks_append`: blanks at the
  end and at the start of a text tell nothing.
* `ImportAtlas.Header.Padded.told_eq`, `ImportAtlas.Header.Inserted.told_eq`,
  `ImportAtlas.Header.told_append_withReturns`: the changed text tells the same.
* `ImportAtlas.Header.imports_formatted`: the changed file imports the same.

## Design

The changes are defined on the text, line by line, and not on the list of its lines. What they do to
that list is not the same for all of them: a carriage return that is added before a line feed goes
away with it, one that was there stays behind, and blanks behind the last line feed are a line more.
-/

namespace ImportAtlas.Header

open Text

/-! ### Changes -/

/-- A text with a carriage return in front of every line feed. -/
def withReturns (text : List Char) : List Char :=
  text.flatMap fun c => if c = '\n' then ['\r', '\n'] else [c]

/-- The second text is the first with blanks, perhaps none, at the start and the end of each
line. -/
inductive Padded : List Char → List Char → Prop
  /-- What stands behind the last line feed. -/
  | last (before after : Blanks) {line : List Char} : '\n' ∉ line →
      Padded line (before.text ++ (line ++ after.text))
  /-- A line with its end. -/
  | line (before after : Blanks) {line : List Char} (lineEnd : LineEnd) {rest rest' : List Char} :
      '\n' ∉ line → Padded rest rest' →
      Padded (line ++ (lineEnd.text ++ rest))
        (before.text ++ (line ++ (after.text ++ (lineEnd.text ++ rest'))))

/-- The second text is the first with one more line. -/
inductive Inserted (new : List Char) : List Char → List Char → Prop
  /-- The line stands in front of the others. -/
  | first (lineEnd : LineEnd) (rest : List Char) :
      Inserted new rest (new ++ (lineEnd.text ++ rest))
  /-- The line stands behind the last line feed, without an end. -/
  | last : Inserted new [] new
  /-- The line stands behind a line that had no end. -/
  | behind {line : List Char} (lineEnd : LineEnd) {rest' : List Char} : '\n' ∉ line →
      Inserted new [] rest' → Inserted new line (line ++ (lineEnd.text ++ rest'))
  /-- The line stands further down. -/
  | further {line : List Char} (lineEnd : LineEnd) {rest rest' : List Char} : '\n' ∉ line →
      Inserted new rest rest' →
      Inserted new (line ++ (lineEnd.text ++ rest)) (line ++ (lineEnd.text ++ rest'))

/-! ### Blanks -/

/-- Blanks at the start of a line are trimmed away. -/
lemma trim_blanks_append {ws : List Char} (hws : ∀ c ∈ ws, isBlank c = true) (line : List Char) :
    trim (ws ++ line) = trim line := by
  obtain ⟨⟨before, after, hline, hbefore, hafter⟩, hfirst, hlast⟩ := isTrimOf_trim line
  apply IsTrimOf.trim_eq
  refine ⟨⟨ws ++ before, after, ?_, ?_, hafter⟩, hfirst, hlast⟩
  · rw [List.append_assoc, List.append_assoc, ← List.append_assoc before, ← hline]
  · intro c hc
    exact (List.mem_append.1 hc).elim (hws c) (hbefore c)

/-- Blanks at the start of a line do not change what the line says. -/
lemma Line.classify_blanks_append (b : Blanks) (line : List Char) :
    classify (b.text ++ line) = classify line := by
  unfold classify
  rw [trim_blanks_append b.blank]

/-- Blanks at the end of a line do not change what the line says. -/
lemma Line.classify_append_blanks (line : List Char) (b : Blanks) :
    classify (line ++ b.text) = classify line := by
  unfold classify
  rw [trim_append_blanks line b.blank]

/-- **Blanks at the end of a text tell nothing.** They belong to its last line, or are a blank line
behind its last line feed. -/
lemma told_append_blanks (text : List Char) (b : Blanks) : told (text ++ b.text) = told text := by
  obtain ⟨line, hline, htext⟩ := exists_last_line text
  have hlast : told (line ++ b.text) = told line := by
    have hpadded : '\n' ∉ line ++ b.text := by simp [hline, b.oneLine]
    rw [told_line hpadded, told_line hline, Line.classify_append_blanks]
  rcases htext with rfl | ⟨front, rfl⟩
  · exact hlast
  · rw [List.append_assoc, List.cons_append, told_append_newline, told_append_newline, hlast]

/-- **Blanks at the start of a text tell nothing.** They belong to its first line. -/
lemma told_blanks_append (b : Blanks) (text : List Char) : told (b.text ++ text) = told text := by
  have hfirst : ∀ line : List Char, '\n' ∉ line → told (b.text ++ line) = told line := by
    intro line hline
    have hpadded : '\n' ∉ b.text ++ line := by simp [hline, b.oneLine]
    rw [told_line hpadded, told_line hline, Line.classify_blanks_append]
  by_cases h : '\n' ∈ text
  · obtain ⟨line, rest, rfl, hline⟩ := List.eq_append_cons_of_mem h
    rw [← List.append_assoc, told_append_newline, told_append_newline, hfirst line hline]
  · exact hfirst text h

/-- Texts with a line end of either kind between them tell what each of them tells. -/
lemma told_append_lineEnd (text : List Char) (lineEnd : LineEnd) (rest : List Char) :
    told (text ++ (lineEnd.text ++ rest)) = told text ++ told rest := by
  cases lineEnd with
  | lf => exact told_append_newline text rest
  | crlf =>
    let cr : Blanks := ⟨['\r'], List.forall_mem_singleton.2 (by decide), by decide⟩
    have hsplit : text ++ (LineEnd.crlf.text ++ rest) = text ++ cr.text ++ '\n' :: rest := by
      simp [LineEnd.text, cr]
    rw [hsplit, told_append_newline, told_append_blanks]

/-! ### What changed texts tell -/

/-- **A text with blanks around its lines tells the same.** -/
lemma Padded.told_eq {text text' : List Char} (h : Padded text text') :
    told text' = told text := by
  induction h with
  | last before after _ => rw [told_blanks_append, told_append_blanks]
  | @line before after line lineEnd rest rest' _ _ ih =>
    rw [told_blanks_append, ← List.append_assoc line after.text, told_append_lineEnd,
      told_append_blanks, told_append_lineEnd, ih]

/-- **A text with one more line tells the same**, if the line is blank or a comment. -/
lemma Inserted.told_eq {new text text' : List Char} (hnew : '\n' ∉ new)
    (hsilent : Line.classify new = .blank ∨ Line.classify new = .comment)
    (h : Inserted new text text') : told text' = told text := by
  have hnothing : told new = [] := by
    rw [told_line hnew]
    rcases hsilent with hsilent | hsilent <;> rw [hsilent] <;> rfl
  induction h with
  | first lineEnd rest => rw [told_append_lineEnd, hnothing, List.nil_append]
  | last => exact hnothing
  | behind lineEnd _ _ ih => exact (told_append_lineEnd ..).trans (ih ▸ List.append_nil _)
  | further lineEnd _ _ ih => rw [told_append_lineEnd, told_append_lineEnd, ih]

/-- **A text with the other kind of line ends tells the same.**

**Proof sketch.** Induction on the text behind any front. A line feed tells apart what is in front
of it and what is behind, with and without a carriage return, and any other character goes to the
front. -/
lemma told_append_withReturns (front text : List Char) :
    told (front ++ withReturns text) = told (front ++ text) := by
  induction text generalizing front with
  | nil => rfl
  | cons c rest ih =>
    by_cases hc : c = '\n'
    · subst hc
      have hreturn : withReturns ('\n' :: rest) = LineEnd.crlf.text ++ withReturns rest := rfl
      rw [hreturn, told_append_lineEnd, told_append_newline]
      exact congrArg (told front ++ ·) (ih [])
    · have hkept : withReturns (c :: rest) = c :: withReturns rest := by
        simp [withReturns, hc]
      rw [hkept, List.append_cons, ih (front ++ [c]), ← List.append_cons]

/-! ### The start of a text -/

/-- A text does not begin with the byte-order mark if neither of two parts does. -/
lemma head?_append_ne_mark {a b : List Char} (ha : a.head? ≠ some byteOrderMark)
    (hb : b.head? ≠ some byteOrderMark) : (a ++ b).head? ≠ some byteOrderMark := by
  cases a with
  | nil => exact hb
  | cons c rest => exact ha

/-- The first part of a text does not begin with the byte-order mark if the text does not. -/
lemma head?_ne_mark_of_append {a b : List Char} (h : (a ++ b).head? ≠ some byteOrderMark) :
    a.head? ≠ some byteOrderMark := by
  intro ha
  rw [List.head?_append, ha] at h
  exact h rfl

/-- Blanks do not begin with the byte-order mark. -/
lemma Blanks.head?_ne_mark (b : Blanks) : b.text.head? ≠ some byteOrderMark := by
  intro h
  exact absurd (b.blank _ (List.mem_of_mem_head? h)) (by decide)

/-- A text that begins with the end of a line does not begin with the byte-order mark. -/
lemma LineEnd.head?_append_ne_mark (lineEnd : LineEnd) (rest : List Char) :
    (lineEnd.text ++ rest).head? ≠ some byteOrderMark := by
  cases lineEnd <;> simp [LineEnd.text, byteOrderMark]

/-- A line that is no code does not begin with the byte-order mark. -/
lemma head?_ne_mark_of_classify {line : List Char} (h : Line.classify line ≠ .code) :
    line.head? ≠ some byteOrderMark := by
  intro hmark
  obtain ⟨rest, rfl⟩ := List.head?_eq_some_iff.1 hmark
  exact h (Line.classify_mark rest)

/-- With blanks around its lines a text does not come to begin with the byte-order mark. -/
lemma Padded.head?_ne_mark {text text' : List Char} (h : Padded text text')
    (htext : text.head? ≠ some byteOrderMark) : text'.head? ≠ some byteOrderMark := by
  cases h with
  | last before after _ =>
    exact head?_append_ne_mark before.head?_ne_mark
      (head?_append_ne_mark htext after.head?_ne_mark)
  | line before after lineEnd _ _ =>
    exact head?_append_ne_mark before.head?_ne_mark
      (head?_append_ne_mark (head?_ne_mark_of_append htext)
        (head?_append_ne_mark after.head?_ne_mark (lineEnd.head?_append_ne_mark _)))

/-- With one more line that does not begin with the byte-order mark a text does not come to begin
with it. -/
lemma Inserted.head?_ne_mark {new text text' : List Char} (h : Inserted new text text')
    (hnew : new.head? ≠ some byteOrderMark) (htext : text.head? ≠ some byteOrderMark) :
    text'.head? ≠ some byteOrderMark := by
  cases h with
  | first lineEnd _ => exact head?_append_ne_mark hnew (lineEnd.head?_append_ne_mark _)
  | last => exact hnew
  | behind lineEnd _ _ => exact head?_append_ne_mark htext (lineEnd.head?_append_ne_mark _)
  | further lineEnd _ _ =>
    exact head?_append_ne_mark (head?_ne_mark_of_append htext) (lineEnd.head?_append_ne_mark _)

/-- With the other kind of line ends a text does not come to begin with the byte-order mark. -/
lemma head?_withReturns_ne_mark {text : List Char} (h : text.head? ≠ some byteOrderMark) :
    (withReturns text).head? ≠ some byteOrderMark := by
  cases text with
  | nil => exact h
  | cons c rest =>
    by_cases hc : c = '\n'
    · subst hc
      exact LineEnd.crlf.head?_append_ne_mark (withReturns rest)
    · simpa [withReturns, hc] using h

/-! ### Files -/

/-- Files that tell the same import the same, if no byte-order mark is taken off. -/
lemma imports_eq_of_told_eq {text text' : List Char} (h : text.head? ≠ some byteOrderMark)
    (h' : text'.head? ≠ some byteOrderMark) (htold : told text' = told text) :
    imports text' = imports text := by
  rw [imports_eq_namesOf, imports_eq_namesOf, dropByteOrderMark_eq_self h,
    dropByteOrderMark_eq_self h', htold]

/-- **Formatting does not change the imports of a file** that does not begin with the byte-order
mark: not the mark in front of it, not a carriage return in front of every line feed, not blanks
around any of its lines, and not one more line anywhere that is blank or a comment.

**Proof sketch.** Each change leaves what the text tells as it is, and but for the first none makes
it begin with the byte-order mark. -/
theorem imports_formatted {text : List Char} (h : text.head? ≠ some byteOrderMark) :
    imports (byteOrderMark :: text) = imports text ∧
    imports (withReturns text) = imports text ∧
    (∀ text', Padded text text' → imports text' = imports text) ∧
    ∀ new text', (Line.classify new = .blank ∨ Line.classify new = .comment) → '\n' ∉ new →
      Inserted new text text' → imports text' = imports text := by
  refine ⟨?_, ?_, fun text' hpadded => ?_, fun new text' hsilent hnew hinserted => ?_⟩
  · have hmark : dropByteOrderMark (byteOrderMark :: text) = text := by
      rw [dropByteOrderMark, if_pos rfl]
    rw [imports_eq_namesOf, imports_eq_namesOf, hmark, dropByteOrderMark_eq_self h]
  · exact imports_eq_of_told_eq h (head?_withReturns_ne_mark h) (told_append_withReturns [] text)
  · exact imports_eq_of_told_eq h (hpadded.head?_ne_mark h) hpadded.told_eq
  · have hcode : Line.classify new ≠ .code := by
      rcases hsilent with hsilent | hsilent <;> rw [hsilent] <;> decide
    exact imports_eq_of_told_eq h (hinserted.head?_ne_mark (head?_ne_mark_of_classify hcode) h)
      (hinserted.told_eq hnew hsilent)

/-- An import and a line of code, with a mark, with carriage returns, with a carriage return and a
wide blank around the import, and with a comment between them. -/
theorem imports_formatted_two_lines :
    imports "\ufeffimport A\nlet x".toList = ["A"] ∧
      imports "import A\r\nlet x".toList = ["A"] ∧
      imports "\r\u3000import A\u3000\r\nlet x".toList = ["A"] ∧
      imports "import A\n * import B\nlet x".toList = ["A"] := by
  have hread : imports "import A\nlet x".toList = ["A"] := by decide +kernel
  obtain ⟨hmark, hreturns, hpadded, hinserted⟩ :=
    @imports_formatted "import A\nlet x".toList (by decide)
  let none : Blanks := ⟨[], by simp, by simp⟩
  let front : Blanks := ⟨['\r', '\u3000'], List.all_eq_true.1 (by decide), by decide⟩
  let back : Blanks := ⟨['\u3000', '\r'], List.all_eq_true.1 (by decide), by decide⟩
  have hline : '\n' ∉ "import A".toList := by decide
  have hcode : '\n' ∉ "let x".toList := by decide
  refine ⟨hmark.trans hread, hreturns.trans hread, ?_, ?_⟩
  · exact (hpadded _ (.line front back .lf hline (.last none none hcode))).trans hread
  · exact (hinserted " * import B".toList _ (.inr (by decide +kernel)) (by decide)
      (.further .lf hline (.first .lf "let x".toList))).trans hread

end ImportAtlas.Header
