/-!
# Lines of a text

A line ends at a line feed, and a carriage return just before that line feed belongs to the line
end. Text after the last line feed is a line of its own, with every carriage return it holds.

## Main definitions

* `ImportAtlas.Text.lines`: the lines of a text without their ends.

## Main statements

* `ImportAtlas.Text.lines_append_newline`: lines that end can be read off on their own.
-/

namespace ImportAtlas.Text

/-- The lines of a text without their ends. -/
def lines : List Char → List (List Char)
  | [] => []
  | '\n' :: rest => [] :: lines rest
  | '\r' :: '\n' :: rest => [] :: lines rest
  | c :: rest =>
    match lines rest with
    | [] => [[c]]
    | line :: more => (c :: line) :: more

@[simp] theorem lines_nil : lines [] = [] := rfl

@[simp] theorem lines_newline (rest : List Char) : lines ('\n' :: rest) = [] :: lines rest := by
  rw [lines]

/-- A character that neither is a line feed nor belongs to one opens the first line. -/
theorem lines_cons {c : Char} {rest : List Char} (hc : c ≠ '\n')
    (hr : c = '\r' → rest.head? ≠ some '\n') :
    lines (c :: rest) = (c :: (lines rest).headD []) :: (lines rest).tail := by
  rw [lines]
  · split <;> simp_all
  · exact hc
  · rintro tail rfl rfl
    exact hr rfl rfl

theorem lines_eq_nil_iff {text : List Char} : lines text = [] ↔ text = [] := by
  refine ⟨fun h => ?_, fun h => h ▸ rfl⟩
  fun_cases lines text <;> simp_all [lines]

/-- Text up to a line feed makes lines of its own, whatever follows. -/
theorem lines_append_newline (a b : List Char) :
    lines (a ++ '\n' :: b) = lines (a ++ ['\n']) ++ lines b := by
  induction a with
  | nil => simp
  | cons c rest ih =>
    by_cases hc : c = '\n'
    · subst hc; simp [ih]
    · by_cases hr : c = '\r' ∧ (rest ++ '\n' :: b).head? = some '\n'
      · obtain ⟨rfl, hr⟩ := hr
        cases rest with
        | nil => simp [lines]
        | cons d more =>
          obtain rfl : d = '\n' := by simpa using hr
          simpa [lines] using ih
      · have hr' : c = '\r' → (rest ++ ['\n']).head? ≠ some '\n' := by
          cases rest <;> simp_all
        rw [List.cons_append, List.cons_append, lines_cons hc fun h => not_and.1 hr h,
          lines_cons hc hr', ih]
        have hne : lines (rest ++ ['\n']) ≠ [] := by simp [lines_eq_nil_iff]
        cases h : lines (rest ++ ['\n']) <;> simp_all

/-- The byte-order mark, which is no part of the text that it announces. -/
def byteOrderMark : Char := '\uFEFF'

/-- A text without one byte-order mark at its start. -/
def dropByteOrderMark : List Char → List Char
  | c :: rest => if c = byteOrderMark then rest else c :: rest
  | [] => []

end ImportAtlas.Text
