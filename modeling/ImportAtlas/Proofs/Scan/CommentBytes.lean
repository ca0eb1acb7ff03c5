import ImportAtlas.Proofs.Header.Layout
import ImportAtlas.Proofs.Text.Resume
import ImportAtlas.Scan.Tally

/-!
# The bytes of a comment

Whatever bytes stand behind the sign of a line comment, even if they are no text, they change
nothing but the text of that comment: a scan finds the same imports in the file.

## Main definitions

* `ImportAtlas.CommentPlace`: a place for a line comment in the bytes of a file.

## Main results

* `ImportAtlas.Header.map_classify_lines_between`: a line between lines is read for itself.
* `ImportAtlas.Header.imports_comment_between`: two comments in one place leave the same imports.
* `ImportAtlas.comment_bytes_stay_in_line`: the bytes of a comment have no effect on the imports.
-/

namespace ImportAtlas

namespace Header

open Text

/-! ### A line between others -/

section Between

variable {before line line' after : List Char}

/-- **A line between others is read for itself.** The lines in front of it end, and what follows it
begins with its end. -/
lemma map_classify_lines_between (hbefore : ∀ c ∈ before.getLast?, c = '\n') (hline : '\n' ∉ line)
    (hne : line ≠ []) (hafter : ∀ c ∈ after.head?, c = '\n') :
    (lines (before ++ (line ++ after))).map Line.classify =
      (lines before).map Line.classify ++
        Line.classify line :: (lines after.tail).map Line.classify := by
  have hrest : (lines (line ++ after)).map Line.classify =
      Line.classify line :: (lines after.tail).map Line.classify := by
    cases after with
    | nil =>
      rw [List.append_nil, lines_unended hline hne]
      rfl
    | cons c after =>
      obtain rfl : c = '\n' := hafter c rfl
      exact map_classify_lines_cons hline after
  rcases before.eq_nil_or_concat with rfl | ⟨before, c, rfl⟩
  · exact hrest
  · obtain rfl : c = '\n' := hbefore c (by simp)
    rw [List.concat_eq_append, List.append_assoc, List.singleton_append, lines_append_newline,
      List.map_append, hrest]

/-- Without a byte-order mark, whole lines are still whole lines. -/
lemma getLast?_dropByteOrderMark (hbefore : ∀ c ∈ before.getLast?, c = '\n') :
    ∀ c ∈ (dropByteOrderMark before).getLast?, c = '\n' := by
  cases before with
  | nil => exact hbefore
  | cons d rest =>
    rw [dropByteOrderMark]
    split_ifs with hd
    · cases rest with
      | nil => simp
      | cons e rest => simpa using hbefore
    · exact hbefore

/-- A comment does not begin with the byte-order mark, so only what stands in front of it can lose
one. -/
lemma dropByteOrderMark_comment_between (hcomment : Line.classify line = .comment) :
    dropByteOrderMark (before ++ (line ++ after)) =
      dropByteOrderMark before ++ (line ++ after) := by
  have hmark : (line ++ after).head? ≠ some byteOrderMark := by
    intro h
    cases line with
    | nil => cases hcomment
    | cons c rest =>
      obtain rfl : c = byteOrderMark := by simpa using h
      rw [Line.classify_mark] at hcomment
      cases hcomment
  cases before with
  | nil => exact dropByteOrderMark_eq_self hmark
  | cons c rest => exact dropByteOrderMark_append (List.cons_ne_nil c rest) _

/-- **Two comments in one place leave the same imports.** -/
lemma imports_comment_between (hbefore : ∀ c ∈ before.getLast?, c = '\n')
    (hafter : ∀ c ∈ after.head?, c = '\n') (hline : '\n' ∉ line) (hline' : '\n' ∉ line')
    (hcomment : Line.classify line = .comment) (hcomment' : Line.classify line' = .comment) :
    imports (before ++ (line ++ after)) = imports (before ++ (line' ++ after)) := by
  have hne : ∀ {l : List Char}, Line.classify l = .comment → l ≠ [] := by
    rintro _ h rfl
    cases h
  rw [imports_eq, imports_eq, dropByteOrderMark_comment_between hcomment,
    dropByteOrderMark_comment_between hcomment']
  apply modulesOf_congr
  have hfront := getLast?_dropByteOrderMark hbefore
  rw [map_classify_lines_between hfront hline (hne hcomment) hafter,
    map_classify_lines_between hfront hline' (hne hcomment') hafter, hcomment, hcomment']

end Between

end Header

/-! ### Comments in bytes -/

open Text Utf8

/-- The bytes of the blanks below `0x80` that do not end a line. -/
def blankBytes : List UInt8 := [0x09, 0x0B, 0x0C, 0x0D, 0x20]

/-- The bytes of the sign of a line comment. -/
def commentSign : List UInt8 := [0x2F, 0x2F]

/-- A place for a line comment in the bytes of a file. -/
structure CommentPlace where
  /-- The lines in front of the line. -/
  before : List UInt8
  /-- The blanks at the start of the line. -/
  indent : List UInt8
  /-- What follows the line, with the end of the line. -/
  after : List UInt8
  /-- The lines in front have ended. -/
  starts : ∀ b ∈ before.getLast?, b = 0x0A
  /-- The line starts with blanks. -/
  blank : ∀ b ∈ indent, b ∈ blankBytes
  /-- The line ends before what follows it. -/
  ends : ∀ b ∈ after.head?, b = 0x0A

namespace CommentPlace

variable (place : CommentPlace)

/-- The line, with bytes behind the sign of the comment. -/
def line (behind : List UInt8) : List UInt8 := place.indent ++ (commentSign ++ behind)

/-- The file, with bytes behind the sign of the comment. -/
def file (behind : List UInt8) : List UInt8 := place.before ++ (place.line behind ++ place.after)

/-- The blanks at the start of the line as text. -/
def indentText : Header.Blanks where
  text := place.indent.map fun b => Char.ofNat b.toNat
  blank := by
    have hblank : ∀ b ∈ blankBytes, isBlank (Char.ofNat b.toNat) = true :=
      List.all_eq_true.1 (by decide)
    intro c hc
    obtain ⟨b, hb, rfl⟩ := List.mem_map.1 hc
    exact hblank b (place.blank b hb)
  oneLine := by
    have honeLine : '\n' ∉ blankBytes.map fun b => Char.ofNat b.toNat := by decide
    intro h
    obtain ⟨b, hb, hchar⟩ := List.mem_map.1 h
    exact honeLine (List.mem_map.2 ⟨b, place.blank b hb, hchar⟩)

/-- The line as text. -/
lemma decodeLossy_line (behind : List UInt8) :
    decodeLossy (place.line behind) =
      place.indentText.text ++ ('/' :: '/' :: decodeLossy behind) := by
  have hblank : ∀ b ∈ blankBytes, b < 0x80 := by simp [blankBytes]
  have hsign : ∀ b ∈ commentSign, b < 0x80 := by simp [commentSign]
  rw [line, decodeLossy_append_all_ascii fun b hb => hblank b (place.blank b hb),
    decodeLossy_append_all_ascii hsign]
  rfl

/-- The line is a comment, whatever the bytes behind its sign are. -/
lemma classify_line (behind : List UInt8) :
    Header.Line.classify (decodeLossy (place.line behind)) = .comment := by
  rw [decodeLossy_line]
  exact Header.classify_comment place.indentText (.inl (List.prefix_append ['/', '/'] _))

/-- Without a line feed behind its sign, the line is one line as text. -/
lemma newline_not_mem_line {behind : List UInt8} (h : 0x0A ∉ behind) :
    '\n' ∉ decodeLossy (place.line behind) := by
  have hbehind := newline_not_mem_decodeLossy h
  rw [decodeLossy_line, List.mem_append]
  simp [place.indentText.oneLine, hbehind]

/-- The file as text is read line by line around the comment. -/
lemma decodeLossy_file (behind : List UInt8) :
    decodeLossy (place.file behind) =
      decodeLossy place.before ++
        (decodeLossy (place.line behind) ++ decodeLossy place.after) := by
  rw [file, decodeLossy_append_of_getLast? place.starts, decodeLossy_append_of_head? _ place.ends]

/-- Two runs of bytes behind the sign of the comment leave the same imports. -/
lemma importsOfBytes_file {behind behind' : List UInt8} (h : 0x0A ∉ behind)
    (h' : 0x0A ∉ behind') :
    importsOfBytes (place.file behind) = importsOfBytes (place.file behind') := by
  unfold importsOfBytes
  rw [decodeLossy_file, decodeLossy_file]
  exact Header.imports_comment_between (getLast?_decodeLossy place.starts)
    (head?_decodeLossy place.ends) (place.newline_not_mem_line h) (place.newline_not_mem_line h')
    (place.classify_line behind) (place.classify_line behind')

end CommentPlace

/-- Files with the same imports are folded into a tally the same way. -/
lemma Tally.foldFile_congr_content {content content' : List UInt8}
    (h : importsOfBytes content = importsOfBytes content') (filter : Filter) (t : Tally)
    (path : String) :
    t.foldFile filter ⟨path, .ok content⟩ = t.foldFile filter ⟨path, .ok content'⟩ := by
  unfold Tally.foldFile
  dsimp only
  rw [h]

/-- **Bytes that are no text stay in their line.** Reading splits at a line feed, whatever the bytes
on its two sides are, and gives a text back from its bytes. So the bytes behind the sign of a line
comment have no effect on the imports of a file, nor on what a scan collects from it.

**Proof sketch.** The bytes in front of the comment end with a line feed, and those behind it begin
with one, so the comment is read for itself. It has no line feed as text because it has none as
bytes, and it is a comment by its sign. -/
theorem comment_bytes_stay_in_line :
    (∀ front rest : List UInt8,
      decodeLossy (front ++ [0x0A] ++ rest) = decodeLossy front ++ ['\n'] ++ decodeLossy rest) ∧
    (∀ text : List Char, decodeLossy (encode text) = text) ∧
    ∀ (place : CommentPlace) (behind behind' : List UInt8), 0x0A ∉ behind → 0x0A ∉ behind' →
      importsOfBytes (place.file behind) = importsOfBytes (place.file behind') ∧
        ∀ (filter : Filter) (t : Tally) (path : String),
          t.foldFile filter ⟨path, .ok (place.file behind)⟩ =
            t.foldFile filter ⟨path, .ok (place.file behind')⟩ := by
  refine ⟨?_, decodeLossy_encode, ?_⟩
  · intro front rest
    rw [List.append_assoc, List.append_assoc]
    exact decodeLossy_append_newline front rest
  · intro place behind behind' h h'
    have himports := place.importsOfBytes_file h h'
    exact ⟨himports, fun filter t path => Tally.foldFile_congr_content himports filter t path⟩

/-- A cut-off character at the end of a comment between two imports. -/
theorem comment_bytes_stay_in_line_cut :
    let before := encode "import A\n".toList
    let after := encode "\nimport B".toList
    importsOfBytes (before ++ ([0x20, 0x2F, 0x2F, 0xE2, 0x82] ++ after)) =
        importsOfBytes (before ++ ([0x20, 0x2F, 0x2F] ++ after)) ∧
      importsOfBytes (before ++ ([0x20, 0x2F, 0x2F] ++ after)) = ["A", "B"] := by
  intro before after
  have hlast : before.getLast? = some 0x0A := by decide +kernel
  have hfirst : after.head? = some 0x0A := by decide +kernel
  let place : CommentPlace :=
    { before, indent := [0x20], after
      starts := by
        rw [hlast]
        simp
      blank := by simp [blankBytes]
      ends := by
        rw [hfirst]
        simp }
  exact ⟨(comment_bytes_stay_in_line.2.2 place [0xE2, 0x82] [] (by decide) (by decide)).1,
    by decide +kernel⟩

end ImportAtlas
