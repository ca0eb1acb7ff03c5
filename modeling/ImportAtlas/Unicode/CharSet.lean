import ImportAtlas.Unicode.CaseData
import ImportAtlas.Unicode.RangeTable

/-!
# Character sets

Sets of characters as range tables in normal form: ascending ranges with gaps between them, and no
surrogates. The operations of set algebra keep the form.

## Main definitions

* `ImportAtlas.Unicode.CharSet`: the sets.
* `ImportAtlas.Unicode.CharSet.union`, `ImportAtlas.Unicode.CharSet.inter`,
  `ImportAtlas.Unicode.CharSet.compl`, `ImportAtlas.Unicode.CharSet.diff`,
  `ImportAtlas.Unicode.CharSet.symmDiff`: set algebra.
* `ImportAtlas.Unicode.CharSet.foldCase`, `ImportAtlas.Unicode.CharSet.foldAsciiCase`: the set with
  all characters that differ from a member in case alone.
-/

namespace ImportAtlas.Unicode

open Numeral

/-- A set of characters as its ranges. -/
structure CharSet where
  /-- The ranges, ascending and apart. -/
  ranges : RangeTable
  deriving Repr, DecidableEq

namespace CharSet

/-- Whether a character is a member. -/
def contains (s : CharSet) (c : Char) : Bool := s.ranges.covers c.toNat

/-- The set without members. -/
def empty : CharSet := ⟨[]⟩

/-- The set of all characters. -/
def all : CharSet := ⟨[(0, 0xD7FF), (0xE000, 0x10FFFF)]⟩

/-- The set of one character. -/
def single (c : Char) : CharSet := ⟨[(c.toNat, c.toNat)]⟩

/-- The one member, if there is just one. -/
def single? (s : CharSet) : Option Char :=
  match s.ranges with
  | [(a, b)] => if a = b then some (Char.ofNat a) else none
  | _ => none

/-- Whether all members are ASCII characters. -/
def isAscii (s : CharSet) : Bool := s.ranges.all fun r => r.2 < 0x80

/-- The set of all characters has every character in it. -/
theorem contains_all (c : Char) : all.contains c = true := by
  have hvalid := c.valid
  simp only [UInt32.isValidChar, Nat.isValidChar] at hvalid
  have hval : c.val.toNat = c.toNat := rfl
  simp [contains, all, RangeTable.covers]
  omega

/-- The set of one character has just that in it. -/
theorem contains_single {c d : Char} : (single c).contains d = true ↔ c = d := by
  have hinj : c.toNat = d.toNat ↔ c = d := by
    refine ⟨fun h => ?_, fun h => h ▸ rfl⟩
    rw [← Char.ofNat_toNat c, h, Char.ofNat_toNat]
  rw [← hinj]
  simp [contains, single, RangeTable.covers]
  omega

/-! ### Set algebra -/

/-- The range from `low` to `high` joined with those that it meets. -/
def fuseFrom (low high : Nat) : RangeTable → RangeTable
  | [] => [(low, high)]
  | (a, b) :: rest =>
    if a ≤ high + 1 then fuseFrom low (max high b) rest else (low, high) :: fuseFrom a b rest

/-- Ranges in the order of their starts, joined where they meet. -/
def fuse : RangeTable → RangeTable
  | [] => []
  | (a, b) :: rest => fuseFrom a b rest

/-- What a range and those behind it share with a range table, by what those behind it do. -/
def interFrom (a b : Nat) (behind : RangeTable → RangeTable) : RangeTable → RangeTable
  | [] => []
  | (c, d) :: t =>
    let rest := if b < d then behind ((c, d) :: t) else interFrom a b behind t
    if max a c ≤ min b d then (max a c, min b d) :: rest else rest

/-- What two range tables share. -/
def interRanges : RangeTable → RangeTable → RangeTable
  | [] => fun _ => []
  | (a, b) :: s => interFrom a b (interRanges s)

/-- The code points from `start` on that a range table leaves out. -/
def gapsFrom (start : Nat) : RangeTable → RangeTable
  | [] => if start ≤ 0x10FFFF then [(start, 0x10FFFF)] else []
  | (a, b) :: rest =>
    if start < a then (start, a - 1) :: gapsFrom (b + 1) rest else gapsFrom (b + 1) rest

/-- A range put into a range table before the ranges that start no earlier. -/
def insertRange (r : Nat × Nat) : RangeTable → RangeTable
  | [] => [r]
  | r' :: rest => if r.1 ≤ r'.1 then r :: r' :: rest else r' :: insertRange r rest

/-- The set of the characters in a list of ranges, whatever their order. -/
def ofRanges (ranges : List (Nat × Nat)) : CharSet :=
  ⟨interRanges (fuse (ranges.foldr insertRange [])) all.ranges⟩

/-- The members of one set or the other. -/
def union (s t : CharSet) : CharSet := ofRanges (s.ranges ++ t.ranges)

/-- The members of both sets. -/
def inter (s t : CharSet) : CharSet := ⟨interRanges s.ranges t.ranges⟩

/-- The characters that are no members. -/
def compl (s : CharSet) : CharSet := ⟨interRanges (gapsFrom 0 s.ranges) all.ranges⟩

/-- The members of the first set alone. -/
def diff (s t : CharSet) : CharSet := s.inter t.compl

/-- The members of just one of the sets. -/
def symmDiff (s t : CharSet) : CharSet := (s.union t).diff (s.inter t)

/-! ### Case -/

/-- The sets of characters that differ in case alone. -/
def caseOrbits (_ : Unit) : List (List Nat) :=
  (words caseOrbitText).map fun word =>
    ((word.splitBy fun a b => (a == '+') == (b == '+')).filter (· ≠ ['+'])).map (ofDigits 16)

/-- The set with all characters that differ from a member in case alone. -/
def foldCase (s : CharSet) : CharSet :=
  let met := (caseOrbits ()).filter fun orbit => orbit.any s.ranges.covers
  s.union ⟨met.flatten.map fun n => (n, n)⟩

/-- The set with all ASCII letters that differ from a member in case alone. -/
def foldAsciiCase (s : CharSet) : CharSet :=
  let shift (low high target : Nat) : RangeTable :=
    (interRanges s.ranges [(low, high)]).map fun r => (r.1 - low + target, r.2 - low + target)
  s.union ⟨shift 0x41 0x5A 0x61 ++ shift 0x61 0x7A 0x41⟩

end CharSet

end ImportAtlas.Unicode
