import ImportAtlas.Proofs.Text.Numeral
import ImportAtlas.Table
import Mathlib.Algebra.BigOperators.Group.List.Lemmas
import Mathlib.Algebra.GroupWithZero.Nat
import Mathlib.Order.Bounds.Defs
import Mathlib.Order.MinMax

/-!
# Tables are grids

Whatever the shape of its rows, a table is drawn as a grid: all lines are equally long, and every
cell under a head stands in the slot of its column, filled up with spaces on one side.

## Main definitions

* `ImportAtlas.Table.IsWidth`: the greatest length of a head and the cells under it.
* `ImportAtlas.Table.HoldsNumbers`: a column has rows, and a number in each.
* `ImportAtlas.Table.linesByIndex?`: the drawing with all widths looked up by index, which fails
  where there is none.
* `ImportAtlas.Table.IsGrid`: some lines are the grid of a table.

## Main results

* `ImportAtlas.Table.isWidth_width`: the running maximum over the rows is the greatest length.
* `ImportAtlas.Table.linesByIndex?_eq`: no index is out of range.
* `ImportAtlas.Table.isGrid_lines`: the lines of a drawing are the grid of the table.
* `ImportAtlas.Table.render_isGrid`: so are the lines that the drawing as one text is read as.

## Design

All three kinds of line are a sign and then one piece for each column, three characters longer than
the column is wide (`ImportAtlas.Table.PiecesFit`). The length of a line and the place of a slot
follow from this alone.
-/

namespace ImportAtlas.Table

variable {t : Table}

/-! ### Columns -/

/-- The number is the greatest length of the head of a column and of the cells that the rows have in
it. -/
def IsWidth (t : Table) (column width : Nat) : Prop :=
  IsGreatest {n | (∃ head, t.headers[column]? = some head ∧ n = head.length) ∨
    ∃ row ∈ t.rows, ∃ cell, row[column]? = some cell ∧ n = cell.length} width

/-- There are rows, and each of them has an unsigned integer of 64 bits in the column. -/
def HoldsNumbers (t : Table) (column : Nat) : Prop :=
  t.rows ≠ [] ∧
    ∀ row ∈ t.rows, ∃ cell, row[column]? = some cell ∧ Numeral.IsUnsigned cell.toList

/-- The widths of the columns. -/
def widths (t : Table) : List Nat := t.columns.map (·.width)

/-- A running maximum is the greatest of its start and all values. -/
lemma isGreatest_foldl_max {α : Type} (f : α → Nat) (l : List α) (start : Nat) :
    IsGreatest {n | n = start ∨ ∃ a ∈ l, n = f a} (l.foldl (fun n a => max n (f a)) start) := by
  induction l generalizing start with
  | nil => simp [IsGreatest, upperBounds]
  | cons a rest ih =>
    obtain ⟨hmem, hbound⟩ := ih (max start (f a))
    rw [List.foldl_cons]
    refine ⟨?_, ?_⟩
    · obtain hstart | ⟨b, hb, hvalue⟩ := hmem
      · rw [hstart]
        obtain hmax | hmax := max_choice start (f a)
        · exact .inl hmax
        · exact .inr ⟨a, List.mem_cons_self, hmax⟩
      · exact .inr ⟨b, List.mem_cons_of_mem _ hb, hvalue⟩
    · have hstart := hbound (.inl rfl)
      rintro n (rfl | ⟨b, hb, rfl⟩)
      · exact (le_max_left _ _).trans hstart
      · obtain rfl | hb := List.mem_cons.1 hb
        · exact (le_max_right _ _).trans hstart
        · exact hbound (.inr ⟨b, hb, rfl⟩)

/-- **The running maximum over the rows is the greatest length.** A row without a cell counts as
zero there, which is no more than the head. -/
lemma isWidth_width {column : Nat} {head : String} (h : t.headers[column]? = some head) :
    t.IsWidth column (t.width column head) := by
  have hgreatest : IsGreatest
      {n | n = head.length ∨ ∃ row ∈ t.rows, n = (row.getD column "").length}
      (t.width column head) := isGreatest_foldl_max _ t.rows head.length
  obtain ⟨hmem, hbound⟩ := hgreatest
  refine ⟨?_, ?_⟩
  · obtain hhead | ⟨row, hrow, hcell⟩ := hmem
    · exact .inl ⟨head, h, hhead⟩
    · cases hc : row[column]? with
      | some cell =>
        refine .inr ⟨row, hrow, cell, hc, ?_⟩
        simpa [hc] using hcell
      | none =>
        have hzero : t.width column head = 0 := by simpa [hc] using hcell
        have hle : head.length ≤ t.width column head := hbound (.inl rfl)
        exact .inl ⟨head, h, by omega⟩
  · rintro n (⟨other, hother, rfl⟩ | ⟨row, hrow, cell, hc, rfl⟩)
    · obtain rfl : head = other := Option.some.inj (h.symm.trans hother)
      exact hbound (.inl rfl)
    · exact hbound (.inr ⟨row, hrow, by simp [hc]⟩)

/-- A column is aligned to the right just if it holds numbers. -/
lemma isNumeric_iff (t : Table) (column : Nat) :
    t.isNumeric column = true ↔ t.HoldsNumbers column := by
  rw [isNumeric, HoldsNumbers, Bool.and_eq_true, List.all_eq_true]
  refine and_congr (by simp) (forall₂_congr fun row _ => ?_)
  cases row[column]? <;> simp [Numeral.unsigned?_isSome_iff]

@[simp] lemma length_columns (t : Table) : t.columns.length = t.headers.length :=
  List.length_mapIdx

@[simp] lemma length_widths (t : Table) : t.widths.length = t.headers.length := by
  rw [widths, List.length_map, length_columns]

/-! ### Slots -/

/-- The place in a line at which the slot of a column begins, or at which the last slot ends. -/
def slotStart (widths : List Nat) (column : Nat) : Nat := 1 + ((widths.map (· + 3)).take column).sum

/-- The slot of a column in a line: from where it begins to where the next one does. -/
def slotOf (widths : List Nat) (column : Nat) (line : List Char) : List Char :=
  (line.take (slotStart widths (column + 1))).drop (slotStart widths column)

/-- A slot shows a cell: after a space the cell, filled up to the width with spaces on the left or
on the right, and then a space and a bar. -/
def Shows (slot : List Char) (cell : String) (width : Nat) (onLeft : Prop) : Prop :=
  ∃ pad, pad + cell.length = width ∧
    (onLeft → slot = ' ' :: (List.replicate pad ' ' ++ cell.toList) ++ [' ', '|']) ∧
    (¬onLeft → slot = ' ' :: (cell.toList ++ List.replicate pad ' ') ++ [' ', '|'])

/-- A cell that is no longer than its column is wide is shown in its slot. -/
lemma shows_slot {cell : String} {column : Column} (h : cell.length ≤ column.width) :
    Shows (slot cell column) cell column.width (column.right = true) := by
  refine ⟨column.width - cell.length, Nat.sub_add_cancel h, fun hright => ?_, fun hleft => ?_⟩
  · rw [slot, if_pos hright]
  · rw [slot, if_neg hleft]

/-- A slot is three characters longer than its column is wide. -/
lemma Shows.length_eq {slot : List Char} {cell : String} {width : Nat} {onLeft : Prop}
    (h : Shows slot cell width onLeft) : slot.length = width + 3 := by
  obtain ⟨pad, hwidth, hon, hoff⟩ := h
  by_cases hside : onLeft
  · rw [hon hside]
    simp only [List.length_append, List.length_cons, List.length_replicate, String.length_toList,
      List.length_nil]
    omega
  · rw [hoff hside]
    simp only [List.length_append, List.length_cons, List.length_replicate, String.length_toList,
      List.length_nil]
    omega

/-- A line is a sign and then pieces, one for each column and three characters longer than the
column is wide. -/
structure PiecesFit (widths : List Nat) (pieces : List (List Char)) (line : List Char) : Prop where
  /-- The line is made up of the pieces, but for its first character. -/
  text : ∃ sign, line = sign :: pieces.flatten
  /-- Each piece has the length of its slot. -/
  lengths : pieces.map List.length = widths.map (· + 3)

section PiecesFit

variable {widths : List Nat} {pieces : List (List Char)} {line : List Char}

/-- All lines of such pieces are equally long. -/
lemma PiecesFit.length_eq (h : PiecesFit widths pieces line) :
    line.length = 1 + (widths.map (· + 3)).sum := by
  obtain ⟨sign, rfl⟩ := h.text
  rw [List.length_cons, List.length_flatten, h.lengths, Nat.add_comm]

/-- The piece of a column is its slot. -/
lemma PiecesFit.slotOf_eq (h : PiecesFit widths pieces line) {column : Nat} {piece : List Char}
    (hpiece : pieces[column]? = some piece) : slotOf widths column line = piece := by
  obtain ⟨sign, rfl⟩ := h.text
  obtain ⟨hbound, rfl⟩ := List.getElem?_eq_some_iff.1 hpiece
  rw [slotOf, slotStart, slotStart, ← h.lengths, Nat.add_comm 1, Nat.add_comm 1,
    List.take_succ_cons, List.drop_succ_cons]
  exact List.drop_take_succ_flatten_eq_getElem pieces column hbound

end PiecesFit

/-! ### Lines -/

/-- The pieces of the line of the heads. -/
def headPieces (t : Table) : List (List Char) :=
  t.headers.mapIdx fun c head => slot head ⟨t.width c head, false⟩

/-- The pieces of the line of a row. -/
def rowPieces (t : Table) (row : List String) : List (List Char) :=
  t.headers.mapIdx fun c head => slot (row.getD c "") ⟨t.width c head, t.isNumeric c⟩

/-- The line of the heads is made up of its pieces. -/
lemma headerLine_eq (t : Table) : headerLine t.headers t.columns = '|' :: t.headPieces.flatten := by
  rw [headerLine, List.flatMap_def]
  refine congrArg (fun pieces => '|' :: List.flatten pieces) ?_
  exact List.ext_getElem (by simp [headPieces]) (by simp [headPieces, columns])

/-- The line of a row is made up of its pieces. -/
lemma rowLine_eq (t : Table) (row : List String) :
    rowLine t.columns row = '|' :: (t.rowPieces row).flatten := by
  have hpieces : t.columns.mapIdx (fun c column => slot (row.getD c "") column) = t.rowPieces row :=
    List.ext_getElem (by simp [rowPieces]) (by simp [rowPieces, columns])
  rw [rowLine, hpieces]

/-- No head is longer than its column is wide. -/
lemma length_head_le {column : Nat} {head : String} (h : t.headers[column]? = some head) :
    head.length ≤ t.width column head :=
  (isWidth_width h).2 (.inl ⟨head, h, rfl⟩)

/-- No cell that is shown is longer than its column is wide. -/
lemma length_cell_le {column : Nat} {head : String} (h : t.headers[column]? = some head)
    {row : List String} (hrow : row ∈ t.rows) :
    (row.getD column "").length ≤ t.width column head := by
  cases hc : row[column]? with
  | none => simp [hc]
  | some cell =>
    have hle := (isWidth_width h).2 (.inr ⟨row, hrow, cell, hc, rfl⟩)
    simpa [hc] using hle

/-- Pieces that show cells of the width of their column fit. -/
lemma PiecesFit.of_mapIdx {piece : Nat → String → List Char} (sign : Char)
    (h : ∀ c head, t.headers[c]? = some head → (piece c head).length = t.width c head + 3) :
    PiecesFit t.widths (t.headers.mapIdx piece) (sign :: (t.headers.mapIdx piece).flatten) where
  text := ⟨sign, rfl⟩
  lengths := by
    refine List.ext_getElem (by simp) fun c hc _ => ?_
    have hbound : c < t.headers.length := by simpa using hc
    simpa [widths, columns] using h c _ (List.getElem?_eq_getElem hbound)

/-- The line of the heads has pieces that fit. -/
lemma piecesFit_headerLine (t : Table) :
    PiecesFit t.widths t.headPieces (headerLine t.headers t.columns) := by
  rw [headerLine_eq]
  exact .of_mapIdx '|' fun c head h => (shows_slot (length_head_le h)).length_eq

/-- The line of a row has pieces that fit. -/
lemma piecesFit_rowLine {row : List String} (hrow : row ∈ t.rows) :
    PiecesFit t.widths (t.rowPieces row) (rowLine t.columns row) := by
  rw [rowLine_eq]
  exact .of_mapIdx '|' fun c head h => (shows_slot (length_cell_le h hrow)).length_eq

/-- A separator has as many dashes for a column as there is room between two bars. -/
lemma piecesFit_separator (t : Table) :
    PiecesFit t.widths (t.widths.map fun width => List.replicate (width + 2) '-' ++ ['+'])
      (separator t.columns) where
  text := ⟨'+', by rw [separator, List.flatMap_def, widths, List.map_map]; rfl⟩
  lengths := by simp [Function.comp_def]

/-! ### Indices -/

/-- The slots of some cells, in which the width of each is looked up by its index, from some index
on. There are none if an index is out of range. -/
def slotsByIndex? (widths : List Nat) (right : List Bool) :
    Nat → List String → Option (List (List Char))
  | _, [] => some []
  | i, cell :: rest => do
    let width ← widths[i]?
    let slots ← slotsByIndex? widths right (i + 1) rest
    return slot cell ⟨width, right.getD i false⟩ :: slots

/-- The cells of a row that are shown: one for each head. -/
def shownCells (t : Table) (row : List String) : List String :=
  (List.range t.headers.length).map fun c => row.getD c ""

/-- The lines of the drawing, in which the width of each cell is looked up by its index. There are
none if an index is out of range. -/
def linesByIndex? (t : Table) : Option (List (List Char)) := do
  let bar := separator t.columns
  let heads ← slotsByIndex? t.widths [] 0 t.headers
  let rows ← t.rows.mapM fun row =>
    slotsByIndex? t.widths (t.columns.map (·.right)) 0 (t.shownCells row)
  return [bar, '|' :: heads.flatten, bar] ++ rows.map (fun slots => '|' :: slots.flatten) ++ [bar]

/-- The slots are found if there is a width under every index. -/
lemma slotsByIndex?_eq {widths : List Nat} (right : List Bool) {cells : List String} (start : Nat)
    (h : start + cells.length ≤ widths.length) :
    slotsByIndex? widths right start cells = some (cells.mapIdx fun i cell =>
      slot cell ⟨widths.getD (start + i) 0, right.getD (start + i) false⟩) := by
  induction cells generalizing start with
  | nil => rfl
  | cons cell rest ih =>
    rw [List.length_cons] at h
    have hwidth : widths[start]? = some (widths.getD start 0) := by
      rw [List.getD_eq_getElem?_getD, List.getElem?_eq_getElem (by omega)]
      rfl
    rw [slotsByIndex?, hwidth, ih (start + 1) (by omega), List.mapIdx_cons]
    simp only [Option.bind_eq_bind, Option.bind_some, Nat.add_zero, Nat.add_assoc, Nat.add_comm 1]
    rfl

/-- **No index is out of range**, and what is drawn is the same. -/
lemma linesByIndex?_eq (t : Table) : t.linesByIndex? = some t.lines := by
  have hheads : slotsByIndex? t.widths [] 0 t.headers = some t.headPieces := by
    rw [slotsByIndex?_eq [] 0 (by simp)]
    refine congrArg some (List.ext_getElem (by simp [headPieces]) fun c hc _ => ?_)
    have hbound : c < t.headers.length := by simpa using hc
    simp [headPieces, widths, columns, hbound]
  have hrow : ∀ row, slotsByIndex? t.widths (t.columns.map (·.right)) 0 (t.shownCells row) =
      pure (t.rowPieces row) := by
    intro row
    rw [slotsByIndex?_eq _ 0 (by simp [shownCells])]
    refine congrArg some (List.ext_getElem (by simp [rowPieces, shownCells]) fun c hc _ => ?_)
    have hbound : c < t.headers.length := by simpa [shownCells] using hc
    simp [rowPieces, shownCells, widths, columns, hbound]
  simp only [linesByIndex?, lines, hheads, hrow, List.mapM_pure, headerLine_eq]
  simp [rowLine_eq, Function.comp_def]

/-! ### The grid -/

/-- Some lines are the grid of a table with columns of some widths. -/
structure IsGrid (t : Table) (widths : List Nat) (lines : List (List Char)) : Prop where
  /-- There is a column for each head. -/
  columns : widths.length = t.headers.length
  /-- A column is as wide as its longest text. -/
  widest : ∀ column width, widths[column]? = some width → t.IsWidth column width
  /-- There is a line for each row, one for the heads and three between and around them. -/
  count : lines.length = t.rows.length + 4
  /-- All lines are equally long. -/
  rectangular : ∀ line ∈ lines, line.length = 1 + (widths.map (· + 3)).sum
  /-- The lines between and around are drawn with dashes, and with a plus sign where a slot ends. -/
  bars : ∀ i ∈ [0, 2, t.rows.length + 3], lines[i]? =
    some ('+' :: widths.flatMap fun width => List.replicate (width + 2) '-' ++ ['+'])
  /-- The heads stand in their slots, with spaces on the right. -/
  heads : ∃ line, lines[1]? = some line ∧ ∀ column head width, t.headers[column]? = some head →
    widths[column]? = some width → Shows (slotOf widths column line) head width False
  /-- The cells of a row stand in their slots, those that are missing being empty. The spaces are on
  the left just if the column holds numbers. -/
  cells : ∀ r row, t.rows[r]? = some row → ∃ line, lines[r + 3]? = some line ∧
    ∀ column width, widths[column]? = some width →
      Shows (slotOf widths column line) (row.getD column "") width (t.HoldsNumbers column)

/-- A width is that of the column of a head. -/
lemma exists_head_of_widths {column width : Nat} (h : t.widths[column]? = some width) :
    ∃ head, t.headers[column]? = some head ∧ width = t.width column head := by
  have hbound : column < t.headers.length := by
    simpa using (List.getElem?_eq_some_iff.1 h).1
  refine ⟨_, List.getElem?_eq_getElem hbound, ?_⟩
  simpa [widths, columns, hbound, eq_comm] using h

/-- **The lines of a drawing are the grid of the table.**

**Proof sketch.** Every line is made of pieces that fit the widths, so the slot of a line in a
column is the piece there. A piece shows its text, which is no longer than the width. -/
lemma isGrid_lines (t : Table) : t.IsGrid t.widths t.lines where
  columns := t.length_widths
  widest column width h := by
    obtain ⟨head, hhead, rfl⟩ := exists_head_of_widths h
    exact isWidth_width hhead
  count := by simp [lines]
  rectangular line hline := by
    simp only [lines, List.mem_append, List.mem_cons, List.mem_map, List.not_mem_nil,
      or_false] at hline
    obtain ((rfl | rfl | rfl) | ⟨row, hrow, rfl⟩) | rfl := hline
    · exact t.piecesFit_separator.length_eq
    · exact t.piecesFit_headerLine.length_eq
    · exact t.piecesFit_separator.length_eq
    · exact (piecesFit_rowLine hrow).length_eq
    · exact t.piecesFit_separator.length_eq
  bars i hi := by
    have hbar : separator t.columns = '+' :: t.widths.flatMap fun width =>
        List.replicate (width + 2) '-' ++ ['+'] := by
      rw [separator, widths, List.flatMap_map]
    rw [← hbar]
    simp only [List.mem_cons, List.not_mem_nil, or_false] at hi
    obtain rfl | rfl | rfl := hi <;> simp [lines]
  heads := by
    refine ⟨_, rfl, fun column head width hhead hwidth => ?_⟩
    obtain ⟨other, hother, rfl⟩ := exists_head_of_widths hwidth
    obtain rfl : head = other := Option.some.inj (hhead.symm.trans hother)
    have hpiece : t.headPieces[column]? = some (slot head ⟨t.width column head, false⟩) := by
      simp [headPieces, hhead]
    have hshows : Shows (slot head ⟨t.width column head, false⟩) head (t.width column head)
        (false = true) := shows_slot (length_head_le hhead)
    rw [t.piecesFit_headerLine.slotOf_eq hpiece]
    simpa using hshows
  cells r row hrow := by
    have hline : t.lines[r + 3]? = some (rowLine t.columns row) := by
      obtain ⟨hbound, hget⟩ := List.getElem?_eq_some_iff.1 hrow
      simp [lines, List.getElem?_append_left, hbound, hget]
    refine ⟨rowLine t.columns row, hline, fun column width hwidth => ?_⟩
    obtain ⟨head, hhead, rfl⟩ := exists_head_of_widths hwidth
    have hmem : row ∈ t.rows := List.mem_of_getElem? hrow
    have hpiece : (t.rowPieces row)[column]? =
        some (slot (row.getD column "") ⟨t.width column head, t.isNumeric column⟩) := by
      simp [rowPieces, hhead]
    rw [(piecesFit_rowLine hmem).slotOf_eq hpiece, ← isNumeric_iff]
    exact shows_slot (length_cell_le hhead hmem)

/-! ### The text -/

/-- Nothing in a slot is a line feed if nothing in its cell is. -/
lemma newline_not_mem_slot {cell : String} (h : '\n' ∉ cell.toList) (column : Column) :
    '\n' ∉ slot cell column := by
  unfold slot
  split <;> simp [h, List.mem_replicate]

/-- The lines of a drawing have no line feed if no text of the table has one.

**Proof sketch.** Separators have no line feed, and the pieces of the other lines have none but
those of their texts. A missing cell is empty. -/
lemma newline_not_mem_lines (h : ∀ text ∈ t.headers ++ t.rows.flatten, '\n' ∉ text.toList) :
    ∀ line ∈ t.lines, '\n' ∉ line := by
  have hbar : '\n' ∉ separator t.columns := by simp [separator, List.mem_replicate]
  have hheads : '\n' ∉ headerLine t.headers t.columns := by
    rw [headerLine_eq, headPieces]
    simp only [List.mem_cons, List.mem_flatten, List.mem_mapIdx, not_or, not_exists, not_and]
    refine ⟨by decide, ?_⟩
    rintro _ ⟨c, hc, rfl⟩
    exact newline_not_mem_slot (h _ (List.mem_append_left _ (List.getElem_mem hc))) _
  have hrow : ∀ row ∈ t.rows, '\n' ∉ rowLine t.columns row := by
    intro row hrow
    rw [rowLine_eq, rowPieces]
    simp only [List.mem_cons, List.mem_flatten, List.mem_mapIdx, not_or, not_exists, not_and]
    refine ⟨by decide, ?_⟩
    rintro _ ⟨c, hc, rfl⟩
    refine newline_not_mem_slot ?_ _
    cases hcell : row[c]? with
    | none => simp [hcell]
    | some cell =>
      have hmem : cell ∈ t.rows.flatten :=
        List.mem_flatten.2 ⟨row, hrow, List.mem_of_getElem? hcell⟩
      simpa [hcell] using h cell (List.mem_append_right _ hmem)
  simp only [lines, List.mem_append, List.mem_cons, List.mem_map, List.not_mem_nil, or_false]
  rintro _ (((rfl | rfl | rfl) | ⟨row, hmem, rfl⟩) | rfl)
  exacts [hbar, hheads, hbar, hrow row hmem, hbar]

/-- **A table is drawn as a grid, whatever the shape of its rows.** If no text of it has a line
feed, the drawing is read as lines that are the grid of the table, with columns as wide as their
longest texts. Drawing it with all widths looked up by index fails at no index and gives the same
lines. -/
theorem render_isGrid (t : Table) (h : ∀ text ∈ t.headers ++ t.rows.flatten, '\n' ∉ text.toList) :
    ∃ lines, t.linesByIndex? = some lines ∧ t.render.toList.splitOn '\n' = lines ∧
      t.IsGrid t.widths lines := by
  refine ⟨t.lines, t.linesByIndex?_eq, ?_, t.isGrid_lines⟩
  rw [render, String.toList_ofList]
  exact List.splitOn_intercalate '\n' (newline_not_mem_lines h) (by simp [lines])

/-- A table with a column of numbers, a column of words, a row that is too short and a row that is
too long. -/
theorem render_isGrid_ragged :
    let t : Table := ⟨["#", "Näme"], [["7"], ["+12", "Core", "lost"]]⟩
    (∀ text ∈ t.headers ++ t.rows.flatten, '\n' ∉ text.toList) ∧
      ∃ lines, t.linesByIndex? = some lines ∧ t.render.toList.splitOn '\n' = lines ∧
        t.IsGrid t.widths lines := by
  intro t
  have htexts : ∀ text ∈ t.headers ++ t.rows.flatten, '\n' ∉ text.toList := by decide
  exact ⟨htexts, t.render_isGrid htexts⟩

end ImportAtlas.Table
