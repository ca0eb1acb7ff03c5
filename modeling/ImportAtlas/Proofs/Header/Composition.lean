import ImportAtlas.Proofs.Header.Layout

/-!
# Headers of joined texts

What a file imports is told by those of its lines that are neither blank nor comments. Two texts
with a line feed between them tell what the first tells and then what the second tells: where one
line ends and the next begins makes no difference to that. So a header can be read piece by piece,
up to the first line of code, behind which nothing counts.

## Main definitions

* `ImportAtlas.Header.told`: the readings of the lines of a text that are neither blank nor
  comments.

## Main results

* `ImportAtlas.Header.told_append_newline`: texts with a line feed between them tell what each of
  them tells.
* `ImportAtlas.Header.imports_eq_namesOf`: what a file imports is told.
* `ImportAtlas.Header.imports_append_newline`: the imports of joined texts.
-/

namespace ImportAtlas.Header

open Text

/-! ### Readings -/

/-- Whether a reading is one of those that tell something: an import or code. -/
def Line.tells : Line → Bool
  | .blank => false
  | .comment => false
  | .importing _ => true
  | .code => true

/-- Blank lines and comments do not count. -/
lemma namesOf_filter_tells (readings : List Line) :
    namesOf (readings.filter Line.tells) = namesOf readings := by
  induction readings with
  | nil => rfl
  | cons r rest ih =>
    cases r with
    | blank => exact ih
    | comment => exact ih
    | importing module => exact congrArg (module :: ·) ih
    | code => rfl

/-! ### What a text tells -/

/-- What a text tells line by line: its imports and its code. -/
def told (text : List Char) : List Line := ((lines text).map Line.classify).filter Line.tells

/-- **What a file imports is told** behind its byte-order mark. -/
lemma imports_eq_namesOf (content : List Char) :
    imports content = namesOf (told (dropByteOrderMark content)) :=
  (namesOf_filter_tells _).symm

/-- A text tells of code just if a line of it is code. -/
lemma code_mem_told {text : List Char} :
    .code ∈ told text ↔ ∃ line ∈ lines text, Line.classify line = .code := by
  simp [told, Line.tells]

/-- A text of one line tells what the line tells, whether it is empty or not. -/
lemma told_line {line : List Char} (h : '\n' ∉ line) :
    told line = [Line.classify line].filter Line.tells := by
  by_cases hne : line = []
  · subst hne
    rfl
  · rw [told, lines_unended h hne]
    rfl

/-- A line tells the same with a line feed behind it. -/
lemma told_line_newline {line : List Char} (h : '\n' ∉ line) :
    told (line ++ ['\n']) = told line := by
  rw [told, map_classify_lines_cons h, told_line h]
  rfl

/-- A text is a line, or there is a line behind its last line feed. -/
lemma exists_last_line (text : List Char) :
    ∃ line, '\n' ∉ line ∧ (text = line ∨ ∃ front, text = front ++ '\n' :: line) := by
  by_cases h : '\n' ∈ text
  · obtain ⟨back, front, htext, hback⟩ := List.eq_append_cons_of_mem (List.mem_reverse.2 h)
    refine ⟨back.reverse, by simpa using hback, .inr ⟨front.reverse, ?_⟩⟩
    simpa using congrArg List.reverse htext
  · exact ⟨text, h, .inl rfl⟩

/-- Lines that end tell what they tell, whatever follows. -/
lemma told_ended_append (a b : List Char) :
    told (a ++ '\n' :: b) = told (a ++ ['\n']) ++ told b := by
  rw [told, lines_append_newline, List.map_append, List.filter_append]
  rfl

/-- **Texts with a line feed between them tell what each of them tells.** The last line of the first
text may lose a carriage return to the line feed. If there is nothing in that line, the line feed
ends a blank line that was none before.

**Proof sketch.** Only the line behind the last line feed of the first text has no end of its own,
and by itself it tells the same with and without one. -/
lemma told_append_newline (a b : List Char) : told (a ++ '\n' :: b) = told a ++ told b := by
  obtain ⟨line, hline, rfl | ⟨front, rfl⟩⟩ := exists_last_line a
  · rw [told_ended_append, told_line_newline hline]
  · rw [told_ended_append, List.append_assoc, List.cons_append, told_ended_append,
      told_line_newline hline, told_ended_append front line]

/-! ### Joined texts -/

/-- A byte-order mark is taken off the first of two texts with a line feed between them. -/
lemma dropByteOrderMark_append_newline (a b : List Char) :
    dropByteOrderMark (a ++ '\n' :: b) = dropByteOrderMark a ++ '\n' :: b := by
  by_cases hne : a = []
  · subst hne
    rfl
  · exact dropByteOrderMark_append hne _

/-- A text that begins with the byte-order mark tells of code first. -/
lemma told_mark (rest : List Char) : ∃ more, told (byteOrderMark :: rest) = .code :: more := by
  have hfirst : lines (byteOrderMark :: rest) =
      (byteOrderMark :: (lines rest).headD []) :: (lines rest).tail :=
    lines_cons (by decide) fun h => absurd h (by decide)
  refine ⟨((lines rest).tail.map Line.classify).filter Line.tells, ?_⟩
  rw [told, hfirst, List.map_cons, Line.classify_mark]
  rfl

/-- **A header is read piece by piece, and ends for good.** If no line of the first text is code,
behind a byte-order mark that it may begin with, the second text goes on with its imports; if it
begins with the byte-order mark, its first line is code and nothing of it counts. If a line of the
first text is code, nothing of the second counts, whatever it is.

**Proof sketch.** The joined text tells what the two texts tell. Its byte-order mark is that of the
first text, and a mark at the start of the second is not taken off. -/
theorem imports_append_newline (a b : List Char) :
    ((∀ line ∈ lines (dropByteOrderMark a), Line.classify line ≠ .code) →
      (b.head? ≠ some byteOrderMark → imports (a ++ '\n' :: b) = imports a ++ imports b) ∧
      (b.head? = some byteOrderMark → imports (a ++ '\n' :: b) = imports a)) ∧
    ((∃ line ∈ lines (dropByteOrderMark a), Line.classify line = .code) →
      imports (a ++ '\n' :: b) = imports a) := by
  have hjoined : imports (a ++ '\n' :: b) = namesOf (told (dropByteOrderMark a) ++ told b) := by
    rw [imports_eq_namesOf, dropByteOrderMark_append_newline, told_append_newline]
  rw [hjoined, imports_eq_namesOf a, imports_eq_namesOf b]
  refine ⟨fun h => ?_, fun h => namesOf_append_of_code (code_mem_told.2 h) _⟩
  have hcode : .code ∉ told (dropByteOrderMark a) := by
    intro hmem
    obtain ⟨line, hline, hreading⟩ := code_mem_told.1 hmem
    exact h line hline hreading
  rw [namesOf_append hcode]
  refine ⟨fun hmark => ?_, fun hmark => ?_⟩
  · rw [dropByteOrderMark_eq_self hmark]
  · obtain ⟨rest, rfl⟩ := List.head?_eq_some_iff.1 hmark
    obtain ⟨more, hmore⟩ := told_mark rest
    rw [hmore]
    exact List.append_nil _

/-- A header in two pieces, of which the first ends in a carriage return; a second piece that begins
with the byte-order mark; and a first piece with a line of code. -/
theorem imports_append_newline_pieces :
    imports "\ufeff// a\nimport A\r\nimport B".toList = ["A", "B"] ∧
      imports "import A\n\ufeffimport B".toList = ["A"] ∧
      imports "import A\nlet x = 1\nimport B".toList = ["A"] := by
  have hmark : ∀ line ∈ lines (dropByteOrderMark "\ufeff// a\nimport A\r".toList),
      Line.classify line ≠ .code := by decide +kernel
  have hplain : ∀ line ∈ lines (dropByteOrderMark "import A".toList),
      Line.classify line ≠ .code := by decide +kernel
  have hcode : ∃ line ∈ lines (dropByteOrderMark "import A\nlet x = 1".toList),
      Line.classify line = .code := by decide +kernel
  refine ⟨?_, ?_, ?_⟩
  · exact (((imports_append_newline _ "import B".toList).1 hmark).1 (by decide)).trans
      (by decide +kernel)
  · exact (((imports_append_newline _ "\ufeffimport B".toList).1 hplain).2 (by decide)).trans
      (by decide +kernel)
  · exact ((imports_append_newline _ "import B".toList).2 hcode).trans (by decide +kernel)

end ImportAtlas.Header
