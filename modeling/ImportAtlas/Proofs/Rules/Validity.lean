import ImportAtlas.Proofs.Regex.Size
import ImportAtlas.Proofs.Rules.Wildcard

/-!
# Which exclude patterns are refused

No character of a wildcard can spoil the regular expression that the wildcard is turned into, nor
change how it is put together. So the one reason to refuse an exclude pattern is its size, and that
is a sum over the characters of the wildcard.

## Main definitions

* `ImportAtlas.Regex.Pattern.parts`: the parts that a pattern puts one after the other.
* `ImportAtlas.Wildcard.room`: the room of the characters of a wildcard.

## Main results

* `ImportAtlas.ExcludeRule.refused_only_for_size`: a wildcard is read as one part for each
  character, between the anchors, and an exclude pattern is refused only for its size.
* `ImportAtlas.Wildcard.size_expr`: the size of a wildcard is the sum of those of its characters.
* `ImportAtlas.Wildcard.fits_expr_iff`: so the limit is one on that sum.
* `ImportAtlas.ExcludeRule.exists_compile_of_length_le`,
  `ImportAtlas.ExcludeRule.compile_of_lt_length`: no short exclude pattern is refused, and every
  exclude pattern from some length on is.
-/

namespace ImportAtlas

open Regex Unicode

/-! ### Parts -/

/-- The parts that a pattern puts one after the other. -/
def Regex.Pattern.parts : Pattern → List Pattern
  | .empty => []
  | .concat parts => parts
  | p => [p]

namespace Wildcard

/-- What a character stands for is a single part. -/
lemma parts_itemPattern (c : Char) : (itemPattern c).parts = [itemPattern c] := by
  unfold itemPattern
  split
  · rfl
  · split <;> rfl

/-- The parts of a wildcard are read back from the pattern that they make. -/
lemma parts_ofParts_items (wildcard : List Char) :
    (Pattern.ofParts (wildcard.map itemPattern)).parts = wildcard.map itemPattern := by
  match wildcard with
  | [] => rfl
  | [c] => exact parts_itemPattern c
  | _ :: _ :: _ => rfl

end Wildcard

/-! ### The size of a wildcard -/

namespace Wildcard

variable {reading : Reading} {wildcard : List Char}

/-- What a character stands for is not empty. -/
lemma isEmpty_itemExpr (c : Char) : (itemExpr c).isEmpty = false := by
  unfold itemExpr
  split
  · rfl
  · split <;> rfl

/-- The parts of a wildcard are not empty. -/
lemma isEmpty_items : ∀ p ∈ wildcard.map itemExpr, p.isEmpty = false := by
  intro p hp
  obtain ⟨c, -, rfl⟩ := List.mem_map.1 hp
  exact isEmpty_itemExpr c

/-- The empty wildcard matches where the text starts and ends. -/
lemma expr_nil : expr [] = .seq (.look .textStart) (.look .textEnd) := rfl

/-- The parts of any other wildcard stand between the two ends of the text. -/
lemma expr_of_ne_nil (hne : wildcard ≠ []) :
    expr wildcard =
      .seq (.look .textStart) (.seq (.sequence (wildcard.map itemExpr)) (.look .textEnd)) := by
  have hinner : (Expr.sequence (wildcard.map itemExpr)).isEmpty = false :=
    Expr.isEmpty_sequence (by simpa using hne) isEmpty_items
  have hparts : ∀ p ∈ [Expr.look .textStart, .sequence (wildcard.map itemExpr)] ++
      [Expr.look .textEnd], p.isEmpty = false := by
    simpa [hinner] using ⟨rfl, rfl⟩
  exact Expr.sequence_concat hparts

/-- The room of the characters of a wildcard, in the automaton of a direction. -/
def room (reading : Reading) (wildcard : List Char) : Nat :=
  (wildcard.map fun c => (itemExpr c).size reading).sum

/-- **The size of a wildcard is the sum of those of its characters**, and the room of its two
ends. -/
lemma size_expr : (expr wildcard).size reading = room reading wildcard + 64 := by
  by_cases hne : wildcard = []
  · subst hne
    simp [expr_nil, room]
  · have hinner : (Expr.sequence (wildcard.map itemExpr)).size reading = room reading wildcard := by
      rw [Expr.size_sequence (by simpa using hne) isEmpty_items, List.map_map]
      rfl
    rw [expr_of_ne_nil hne, Expr.size_seq, Expr.size_seq, hinner, Expr.size_look, Expr.size_look]
    omega

/-- A wildcard is tried only from where a text starts, and backward only from where it ends. -/
lemma anchored_expr : (expr wildcard).startsText = true ∧ (expr wildcard).endsText = true := by
  by_cases hne : wildcard = []
  · subst hne
    exact ⟨rfl, rfl⟩
  · rw [expr_of_ne_nil hne]
    exact ⟨rfl, rfl⟩

/-- **A wildcard stays within the limit just if its characters do**, read forward and backward. What
is added is the room of the two ends and of the states around the expression. -/
lemma fits_expr_iff :
    (expr wildcard).fits = true ↔
      room .forward wildcard + 192 ≤ Expr.sizeLimit ∧
        room .backward wildcard + 128 ≤ Expr.sizeLimit := by
  simp [Expr.fits, size_expr, Expr.frameSize, anchored_expr]

/-- A star takes the room of its dot and of the loop. -/
lemma size_itemExpr_star :
    (itemExpr '*').size reading = (Expr.chars .all).size reading + 40 := by
  rw [itemExpr_star, Expr.size_star rfl]

/-- A character takes the room of a state at least, and that of a star read backward at most. -/
lemma size_itemExpr_bounds (reading : Reading) (c : Char) :
    32 ≤ (itemExpr c).size reading ∧ (itemExpr c).size reading ≤ 1004 := by
  by_cases hstar : c = '*'
  · rw [hstar, size_itemExpr_star, Expr.size_chars_all]
    cases reading <;> simp
  by_cases hany : c = '?'
  · rw [hany, itemExpr_any, Expr.size_chars_all]
    cases reading <;> simp
  · have hbounds := charSize_bounds c
    rw [itemExpr_of_ne hstar hany, Expr.size_chars_single]
    omega

/-- The room of a wildcard grows with its length. -/
lemma room_bounds (reading : Reading) (wildcard : List Char) :
    32 * wildcard.length ≤ room reading wildcard ∧
      room reading wildcard ≤ 1004 * wildcard.length := by
  induction wildcard with
  | nil => exact ⟨Nat.le_refl 0, Nat.le_refl 0⟩
  | cons c wildcard ih =>
    have hc := size_itemExpr_bounds reading c
    simp only [room, List.map_cons, List.sum_cons, List.length_cons] at ih ⊢
    omega

end Wildcard

/-! ### Exclude patterns -/

namespace ExcludeRule

/-- **A wildcard is a valid regular expression, and an exclude pattern is refused only for its
size.** The text of every wildcard is read as the start anchor, a group in which the dot takes line
feeds too, and the end anchor. The group holds one part for each character, in their order: a
repeated dot for a star, a dot for a question mark, and the character itself otherwise. -/
theorem refused_only_for_size (source : String) :
    (∃ inner,
      Pattern.parse (Wildcard.patternText source.toList) =
        .ok (.concat
          [.anchor .startLine, .group (.plain ⟨[.dotAll], []⟩) inner, .anchor .endLine]) ∧
      inner.parts = source.toList.map Wildcard.itemPattern) ∧
    exprOf (Wildcard.patternText source.toList) = .ok (Wildcard.expr source.toList) ∧
    ∀ cause, ExcludeRule.compile source = .error cause ↔
      cause = .excludePattern source .tooLarge ∧
        (Wildcard.expr source.toList).fits = false := by
  refine ⟨⟨_, Wildcard.parse_patternText _, Wildcard.parts_ofParts_items _⟩,
    Wildcard.exprOf_patternText _, fun cause => ?_⟩
  rw [compile_eq]
  dsimp only
  cases (Wildcard.expr source.toList).fits with
  | false => simp [eq_comm]
  | true => simp

/-- **No short exclude pattern is refused.** -/
lemma exists_compile_of_length_le (source : String) (h : source.length ≤ 10000) :
    ∃ rule, ExcludeRule.compile source = .ok rule := by
  have hforward := (Wildcard.room_bounds .forward source.toList).2
  have hbackward := (Wildcard.room_bounds .backward source.toList).2
  rw [String.length_toList] at hforward hbackward
  have hlimit : Expr.sizeLimit = 10485760 := rfl
  exact exists_compile source (Wildcard.fits_expr_iff.2 ⟨by omega, by omega⟩)

/-- **Every exclude pattern from some length on is refused**, whatever its characters: each of them
takes a state of the program. -/
lemma compile_of_lt_length {source : String} (h : 327680 < source.length) :
    ExcludeRule.compile source = .error (.excludePattern source .tooLarge) := by
  have hforward := (Wildcard.room_bounds .forward source.toList).1
  rw [String.length_toList] at hforward
  have hfits : (Wildcard.expr source.toList).fits ≠ true := by
    intro hfits
    have hroom := (Wildcard.fits_expr_iff.1 hfits).1
    have hlimit : Expr.sizeLimit = 10485760 := rfl
    omega
  rw [compile_eq]
  exact if_neg hfits

end ExcludeRule

end ImportAtlas
