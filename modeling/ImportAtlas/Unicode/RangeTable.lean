import ImportAtlas.Text.Numeral

/-!
# Range tables

A set of code points as its ranges in ascending order, the form in which the properties of the
Unicode standard are listed.

## Main definitions

* `ImportAtlas.Unicode.RangeTable`: ranges with both ends included, in ascending order.
* `ImportAtlas.Unicode.RangeTable.covers`: membership, which stops at the first range beyond the
  code point.
* `ImportAtlas.Unicode.RangeTable.ofText`: the ranges of a table that is written as text.
-/

namespace ImportAtlas.Unicode

open Numeral

/-- Ranges of code points with both ends included, in ascending order. -/
abbrev RangeTable := List (Nat × Nat)

/-- Whether a code point lies in one of the ranges. The search ends at the first range that starts
beyond it. -/
def RangeTable.covers : RangeTable → Nat → Bool
  | [], _ => false
  | (low, high) :: rest, n => if n < low then false else n ≤ high || covers rest n

/-- The words of a text, with spaces or line ends between them. -/
def words (text : String) : List (List Char) :=
  let between (c : Char) : Bool := c == ' ' || c == '\n'
  (text.toList.splitBy fun a b => between a == between b).filter fun w => !w.any between

/-- The ranges of a table's text: one word for each, with the gap since the last range and, after a
plus sign, how many code points follow the first, both in hexadecimal. -/
def RangeTable.ofText (text : String) : RangeTable :=
  let step (state : Nat × RangeTable) (word : List Char) : Nat × RangeTable :=
    let low := state.1 + ofDigits 16 (word.takeWhile (· ≠ '+'))
    let high := low + ofDigits 16 ((word.dropWhile (· ≠ '+')).drop 1)
    (high + 1, (low, high) :: state.2)
  ((words text).foldl step (0, [])).2.reverse

end ImportAtlas.Unicode
