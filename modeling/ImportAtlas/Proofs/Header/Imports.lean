import ImportAtlas.Header.Imports
import ImportAtlas.Proofs.Header.Reading

/-!
# The imports of a header, line by line

A header is read one line after the other, and the first line of code ends it. A line means the
same whether a line feed or a carriage return and a line feed ends it, because trimming takes the
carriage return away.

## Main definitions

* `ImportAtlas.Header.namesOf`: the modules that some readings import before the first line of code.
* `ImportAtlas.Header.modulesOf`: the same for some lines.

## Main results

* `ImportAtlas.Header.namesOf_append`, `ImportAtlas.Header.namesOf_append_of_code`: readings that go
  on and readings that end the header, each with what follows them.
* `ImportAtlas.Header.Line.classify_mark`: a line that begins with the byte-order mark is code.
* `ImportAtlas.Header.isDotted_of_mem_imports`: what a file imports is a dotted name.
-/

namespace ImportAtlas.Header

open Text Unicode

/-! ### Trimming -/

/-- There is only one way to take the blanks off the two ends of a line.

**Proof sketch.** If nothing is left, the line is all blanks. Otherwise the first character that is
left ends the run of blanks in front of it, and the last one the run behind it. -/
lemma IsTrimOf.trim_eq {text line : List Char} (h : IsTrimOf text line) : trim line = text := by
  obtain ⟨⟨before, after, rfl, hbefore, hafter⟩, hfirst, hlast⟩ := h
  rcases text.eq_nil_or_concat with rfl | ⟨text, c, rfl⟩
  · have hall : ∀ c ∈ before ++ [] ++ after, isBlank c = true := by
      intro c hc
      rw [List.append_nil, List.mem_append] at hc
      exact hc.elim (hbefore c) (hafter c)
    rw [trim, trimStart, List.dropWhile_eq_nil_iff.2 hall]
    rfl
  · rw [List.concat_eq_append] at hfirst hlast ⊢
    have hstart : trimStart (before ++ (text ++ [c]) ++ after) = text ++ [c] ++ after := by
      rw [trimStart, List.append_assoc]
      refine dropWhile_append_of_head hbefore ?_
      intro d hd
      refine hfirst d ?_
      cases text <;> simpa using hd
    have hend : (after.reverse ++ (text ++ [c]).reverse).dropWhile isBlank =
        (text ++ [c]).reverse := by
      refine dropWhile_append_of_head (fun d hd => hafter d (List.mem_reverse.1 hd)) ?_
      intro d hd
      refine hlast d ?_
      rwa [List.head?_reverse] at hd
    rw [trim, hstart, trimEnd, List.reverse_append, hend, List.reverse_reverse]

/-- Blanks at the end of a line are trimmed away. -/
lemma trim_append_blanks (line : List Char) {ws : List Char} (hws : ∀ c ∈ ws, isBlank c = true) :
    trim (line ++ ws) = trim line := by
  obtain ⟨⟨before, after, hline, hbefore, hafter⟩, hfirst, hlast⟩ := isTrimOf_trim line
  apply IsTrimOf.trim_eq
  refine ⟨⟨before, after ++ ws, ?_, hbefore, ?_⟩, hfirst, hlast⟩
  · rw [← List.append_assoc, ← hline]
  · intro c hc
    rcases List.mem_append.1 hc with hc | hc
    · exact hafter c hc
    · exact hws c hc

/-- A carriage return at the end of a line does not change what the line says. -/
lemma Line.classify_append_return (line : List Char) :
    classify (line ++ ['\r']) = classify line := by
  have htrim : trim (line ++ ['\r']) = trim line :=
    trim_append_blanks line (List.forall_mem_singleton.2 (by decide))
  unfold classify
  rw [htrim]

/-- Trimming leaves a first character that is no blank where it is. -/
lemma exists_trim_cons {c : Char} (hc : isBlank c = false) (rest : List Char) :
    ∃ more, trim (c :: rest) = c :: more := by
  obtain ⟨⟨before, after, hline, hbefore, hafter⟩, -, -⟩ := isTrimOf_trim (c :: rest)
  have hkept : ∀ ws : List Char, (∀ d ∈ ws, isBlank d = true) → c ∉ ws := by
    intro ws hws hmem
    rw [hws c hmem] at hc
    cases hc
  cases before with
  | cons d before =>
    obtain ⟨rfl, -⟩ := List.cons.inj hline
    exact absurd List.mem_cons_self (hkept _ hbefore)
  | nil =>
    cases htrim : trim (c :: rest) with
    | nil =>
      rw [htrim] at hline
      obtain rfl : c :: rest = after := hline
      exact absurd List.mem_cons_self (hkept _ hafter)
    | cons d more =>
      rw [htrim] at hline
      obtain ⟨rfl, -⟩ := List.cons.inj hline
      exact ⟨more, rfl⟩

/-- **A line that begins with the byte-order mark is code.** The mark is neither a blank nor the
first character of a comment or an import. -/
lemma Line.classify_mark (rest : List Char) : classify (byteOrderMark :: rest) = .code := by
  obtain ⟨more, hmore⟩ := exists_trim_cons (c := byteOrderMark) (by decide) rest
  rw [classify_code_iff, hmore]
  refine ⟨by simp, ?_, ?_⟩
  · rintro (h | h | h) <;> obtain ⟨h, -⟩ := List.cons_prefix_cons.1 h <;> exact absurd h (by decide)
  · rintro name tail ⟨-, lead, text, hlead, -, hsplit⟩
    obtain ⟨c, _, hhead, hc⟩ := hlead.head text
    rw [hhead] at hsplit
    obtain ⟨rfl, -⟩ := List.cons.inj hsplit
    exact absurd hc (by decide)

/-! ### Single lines -/

/-- A text up to its only line feed is one line, but for a carriage return before the line feed. -/
lemma lines_single {line : List Char} (h : '\n' ∉ line) :
    ∃ seen, lines (line ++ ['\n']) = [seen] ∧ (line = seen ∨ line = seen ++ ['\r']) := by
  induction line with
  | nil => exact ⟨[], rfl, .inl rfl⟩
  | cons c rest ih =>
    rw [List.mem_cons, not_or] at h
    obtain ⟨hc, hrest⟩ := h
    by_cases hlast : c = '\r' ∧ rest = []
    · obtain ⟨rfl, rfl⟩ := hlast
      exact ⟨[], rfl, .inr rfl⟩
    · have hnext : c = '\r' → (rest ++ ['\n']).head? ≠ some '\n' := by
        intro hcr
        cases rest with
        | nil => exact absurd ⟨hcr, rfl⟩ hlast
        | cons d rest =>
          rw [List.mem_cons, not_or] at hrest
          simpa [eq_comm] using hrest.1
      obtain ⟨seen, hseen, hline⟩ := ih hrest
      refine ⟨c :: seen, ?_, ?_⟩
      · rw [List.cons_append, lines_cons (Ne.symm hc) hnext, hseen]
        rfl
      · rcases hline with rfl | rfl
        · exact .inl rfl
        · exact .inr rfl

/-- A text without a line feed is one line, if it is not empty. -/
lemma lines_unended {line : List Char} (h : '\n' ∉ line) (hne : line ≠ []) :
    lines line = [line] := by
  induction line with
  | nil => exact absurd rfl hne
  | cons c rest ih =>
    rw [List.mem_cons, not_or] at h
    obtain ⟨hc, hrest⟩ := h
    have hnext : c = '\r' → rest.head? ≠ some '\n' := by
      rintro - hhead
      exact hrest (List.mem_of_mem_head? hhead)
    rw [lines_cons (Ne.symm hc) hnext]
    cases rest with
    | nil => rfl
    | cons d rest =>
      rw [ih hrest (by simp)]
      rfl

/-! ### Readings -/

/-- The modules that some readings import before the first line of code. -/
def namesOf (readings : List Line) : List String :=
  (readings.takeWhile (· ≠ .code)).filterMap Line.module?

/-- Readings without code go on with those that follow them. -/
lemma namesOf_append {readings : List Line} (h : .code ∉ readings) (more : List Line) :
    namesOf (readings ++ more) = namesOf readings ++ namesOf more := by
  have hgo : ∀ r ∈ readings, decide (r ≠ .code) = true := by
    intro r hr
    apply decide_eq_true
    rintro rfl
    exact h hr
  unfold namesOf
  rw [List.takeWhile_append_of_pos hgo, List.filterMap_append, List.takeWhile_eq_self_iff.2 hgo]

/-- Behind code no reading counts. -/
lemma namesOf_append_of_code {readings : List Line} (h : .code ∈ readings) (more : List Line) :
    namesOf (readings ++ more) = namesOf readings := by
  obtain ⟨front, rest, rfl, hfront⟩ := List.eq_append_cons_of_mem h
  rw [List.append_assoc, namesOf_append hfront, namesOf_append hfront]
  rfl

/-! ### Line by line -/

/-- The modules that some lines import before the first line of code. -/
def modulesOf (ls : List (List Char)) : List String := namesOf (ls.map Line.classify)

/-- What a file imports is what its lines import, behind the byte-order mark. -/
lemma imports_eq (content : List Char) :
    imports content = modulesOf (lines (dropByteOrderMark content)) := rfl

/-- Lines with the same readings import the same. -/
lemma modulesOf_congr {ls ls' : List (List Char)}
    (h : ls.map Line.classify = ls'.map Line.classify) : modulesOf ls = modulesOf ls' := by
  unfold modulesOf
  rw [h]

/-- A line with its line feed reads as itself, before what follows. -/
lemma map_classify_lines_cons {line : List Char} (h : '\n' ∉ line) (rest : List Char) :
    (lines (line ++ '\n' :: rest)).map Line.classify =
      Line.classify line :: (lines rest).map Line.classify := by
  obtain ⟨seen, hseen, hline⟩ := lines_single h
  rw [lines_append_newline, hseen, List.map_append]
  rcases hline with rfl | rfl
  · rfl
  · rw [Line.classify_append_return]
    rfl

/-- A line with its line feed imports what it imports as a line, before what follows. -/
lemma modulesOf_lines_cons {line : List Char} (h : '\n' ∉ line) (rest : List Char) :
    modulesOf (lines (line ++ '\n' :: rest)) = modulesOf (line :: lines rest) :=
  modulesOf_congr (map_classify_lines_cons h rest)

/-- **A line that goes on** gives its module, if it imports one, before those of the lines behind
it. -/
lemma modulesOf_line {line : List Char} (h : Line.classify line ≠ .code) (ls : List (List Char)) :
    modulesOf (line :: ls) = (Line.classify line).module?.toList ++ modulesOf ls := by
  have hsingle : namesOf [Line.classify line] = (Line.classify line).module?.toList := by
    cases hreading : Line.classify line with
    | code => exact absurd hreading h
    | blank => rfl
    | comment => rfl
    | importing module => rfl
  rw [modulesOf, List.map_cons, ← List.singleton_append, namesOf_append (by simpa using h.symm),
    hsingle, modulesOf]

/-- **A line of code** ends the header, whatever follows it. -/
lemma modulesOf_code {line : List Char} (h : Line.classify line = .code) (ls : List (List Char)) :
    modulesOf (line :: ls) = [] := by
  rw [modulesOf, List.map_cons, h]
  rfl

/-! ### Names -/

/-- What an import imports is a dotted name. -/
lemma Imports.isDotted {text name tail : List Char} (h : Imports text name tail) :
    IsDotted name := by
  rcases h with ⟨_, _, _, _, _, hnames, _⟩ | ⟨_, hnames⟩
  · exact hnames.name
  · exact hnames.name

/-- **What a file imports is a dotted name**, and not the import word. -/
lemma isDotted_of_mem_imports {content : List Char} {token : String} (h : token ∈ imports content) :
    IsDotted token.toList ∧ token.toList ≠ importWord := by
  obtain ⟨reading, hreading, hmodule⟩ := List.mem_filterMap.1 h
  obtain ⟨line, -, hline⟩ := List.mem_map.1 ((List.takeWhile_sublist _).subset hreading)
  cases reading with
  | importing module =>
    obtain rfl : module = token := Option.some.inj hmodule
    obtain ⟨tail, hname, lead, rest, -, himports, -⟩ := Line.classify_importing_iff.1 hline
    exact ⟨himports.isDotted, hname⟩
  | blank => cases hmodule
  | comment => cases hmodule
  | code => cases hmodule

end ImportAtlas.Header
