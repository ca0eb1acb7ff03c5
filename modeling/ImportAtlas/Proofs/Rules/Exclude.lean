import ImportAtlas.Proofs.Regex.Program
import ImportAtlas.Proofs.Rules.Validity

/-!
# What exclude patterns match

An exclude pattern is run as a regular expression, by way of a text, a pattern, an expression and a
program. What comes out is the wildcard itself, read character by character against a whole text.

## Main definitions

* `ImportAtlas.Wildcard.covers`: a wildcard covers a text.

## Main results

* `ImportAtlas.Wildcard.matchesAll_items_iff`: the parts of a wildcard match what it covers.
* `ImportAtlas.Wildcard.covers_iff_eq`: a wildcard without stars and question marks covers itself.
* `ImportAtlas.ExcludeRule.isMatch_eq_covers`: an exclude pattern matches what it covers.
-/

namespace ImportAtlas

open Regex Unicode

namespace Wildcard

/-- Whether a wildcard covers a whole text. A star covers any run of characters, so the rest of the
wildcard may cover any end of the text. A question mark covers any one character, and every other
character covers itself. -/
def covers : List Char → List Char → Bool
  | [], text => text.isEmpty
  | c :: wildcard, text =>
    if c = '*' then text.tails.any (covers wildcard)
    else
      match text with
      | [] => false
      | d :: rest => (c == '?' || c == d) && covers wildcard rest

/-! ### Parts -/

variable {text : List Char} {i j : Nat}

/-- A set of characters matches the next character. -/
lemma matches_chars_iff {set : CharSet} :
    (Expr.chars set).Matches text.toArray i j ↔
      ∃ c, (text.drop i).head? = some c ∧ set.contains c = true ∧ j = i + 1 := by
  rw [Expr.Matches, List.getElem?_toArray, List.head?_drop]

/-- Any character so many times is that many characters of the text. -/
lemma times_all_iff {n : Nat} (hi : i ≤ text.length) :
    Times ((Expr.chars .all).Matches text.toArray) n i j ↔ j = i + n ∧ j ≤ text.length := by
  induction n generalizing i with
  | zero =>
    rw [times_zero, Nat.add_zero]
    exact ⟨fun h => ⟨h, h ▸ hi⟩, fun h => h.1⟩
  | succ n ih =>
    rw [times_succ]
    constructor
    · rintro ⟨l, hl, htimes⟩
      obtain ⟨c, hc, -, rfl⟩ := matches_chars_iff.1 hl
      have hlt : i < text.length := by
        rw [List.head?_drop] at hc
        exact (List.getElem?_eq_some_iff.1 hc).1
      obtain ⟨rfl, hj⟩ := (ih hlt).1 htimes
      exact ⟨by omega, hj⟩
    · rintro ⟨rfl, hj⟩
      have hlt : i < text.length := by omega
      have hhead : (text.drop i).head? = some text[i] := by
        rw [List.head?_drop, List.getElem?_eq_getElem hlt]
      exact ⟨i + 1, matches_chars_iff.2 ⟨text[i], hhead, CharSet.contains_all _, rfl⟩,
        (ih hlt).2 ⟨by omega, hj⟩⟩

/-- What stands for a star matches any run of characters, from a position of the text on. -/
lemma matches_star_iff (hi : i ≤ text.length) :
    (itemExpr '*').Matches text.toArray i j ↔ i ≤ j ∧ j ≤ text.length := by
  rw [itemExpr_star, Expr.Matches]
  constructor
  · rintro ⟨n, -, -, hn⟩
    obtain ⟨rfl, hj⟩ := (times_all_iff hi).1 hn
    exact ⟨Nat.le_add_right i n, hj⟩
  · rintro ⟨hij, hj⟩
    obtain ⟨n, rfl⟩ := Nat.exists_eq_add_of_le hij
    exact ⟨n, Nat.zero_le n, by simp, (times_all_iff hi).2 ⟨rfl, hj⟩⟩

/-- What stands for any other character matches one character. -/
lemma matches_item_iff {c : Char} (hc : c ≠ '*') :
    (itemExpr c).Matches text.toArray i j ↔
      ∃ d, (text.drop i).head? = some d ∧ (c == '?' || c == d) = true ∧ j = i + 1 := by
  by_cases hany : c = '?'
  · rw [hany, itemExpr_any, matches_chars_iff]
    simp [CharSet.contains_all]
  · rw [itemExpr_of_ne hc hany, matches_chars_iff]
    simp [CharSet.contains_single, hany]

/-- The ends of what is left behind a position are what is left behind the later ones. -/
lemma exists_suffix_drop_iff {p : List Char → Prop} (hi : i ≤ text.length) :
    (∃ rest, rest <:+ text.drop i ∧ p rest) ↔
      ∃ j, (i ≤ j ∧ j ≤ text.length) ∧ p (text.drop j) := by
  constructor
  · rintro ⟨rest, ⟨run, hrun⟩, hrest⟩
    have hlength := congrArg List.length hrun
    rw [List.length_append, List.length_drop] at hlength
    have hdrop : text.drop (i + run.length) = rest := by
      rw [← List.drop_drop, ← hrun, List.drop_left]
    exact ⟨i + run.length, by omega, hdrop ▸ hrest⟩
  · rintro ⟨j, ⟨hij, hj⟩, hrest⟩
    refine ⟨text.drop j, ?_, hrest⟩
    rw [← Nat.add_sub_cancel' hij, ← List.drop_drop]
    exact List.drop_suffix _ _

/-- **The parts of a wildcard match what it covers**, from any position of the text to its end.

**Proof sketch.** Induction on the wildcard. A star matches up to any later position, and a suffix
of the text is what is left behind such a position. Any other sign matches the next character of the
text, or nothing. -/
lemma matchesAll_items_iff {wildcard : List Char} (hi : i ≤ text.length) :
    Expr.MatchesAll text.toArray (wildcard.map itemExpr) i text.length ↔
      covers wildcard (text.drop i) = true := by
  induction wildcard generalizing i with
  | nil =>
    rw [List.map_nil, Expr.MatchesAll, covers, List.isEmpty_iff, List.drop_eq_nil_iff]
    omega
  | cons c wildcard ih =>
    rw [List.map_cons, Expr.MatchesAll]
    by_cases hstar : c = '*'
    · subst hstar
      have hcovers : covers ('*' :: wildcard) (text.drop i) = true ↔
          ∃ rest, rest <:+ text.drop i ∧ covers wildcard rest = true := by
        simp [covers]
      rw [hcovers, exists_suffix_drop_iff hi]
      refine exists_congr fun j => ?_
      rw [matches_star_iff hi]
      exact and_congr_right fun hj => ih hj.2
    · simp only [matches_item_iff hstar]
      cases hdrop : text.drop i with
      | nil => simp [covers, hstar]
      | cons d rest =>
        have hlt : i + 1 ≤ text.length := by
          have hlength := congrArg List.length hdrop
          rw [List.length_drop, List.length_cons] at hlength
          omega
        have hrest : text.drop (i + 1) = rest := by
          rw [← List.drop_drop, hdrop]
          rfl
        have hcovers : covers (c :: wildcard) (d :: rest) = true ↔
            (c == '?' || c == d) = true ∧ covers wildcard (text.drop (i + 1)) = true := by
          simp [covers, hstar, hrest]
        rw [hcovers, ← ih hlt]
        constructor
        · rintro ⟨_, ⟨_, ⟨⟩, hd, rfl⟩, hmatches⟩
          exact ⟨hd, hmatches⟩
        · rintro ⟨hd, hmatches⟩
          exact ⟨i + 1, ⟨d, rfl, hd, rfl⟩, hmatches⟩

/-- A wildcard without stars and question marks covers just itself. -/
lemma covers_iff_eq {wildcard : List Char} (hstar : '*' ∉ wildcard) (hany : '?' ∉ wildcard) :
    covers wildcard text = true ↔ text = wildcard := by
  induction wildcard generalizing text with
  | nil => simp [covers]
  | cons c wildcard ih =>
    simp only [List.mem_cons, not_or] at hstar hany
    have hc : c ≠ '*' := Ne.symm hstar.1
    have hc' : c ≠ '?' := Ne.symm hany.1
    cases text with
    | nil => simp [covers, hc]
    | cons d rest => simp [covers, hc, hc', ih hstar.2 hany.2, @eq_comm _ c d]

/-- The expression of a wildcard matches somewhere in a text just if the wildcard covers the text:
its two ends keep it to the whole text. -/
lemma exists_matches_expr_iff {wildcard : List Char} :
    (∃ i ≤ text.length, ∃ j, (expr wildcard).Matches text.toArray i j) ↔
      covers wildcard text = true := by
  have hparts : Expr.MatchesAll text.toArray (wildcard.map itemExpr) 0 text.length ↔
      covers wildcard text = true := by
    simpa using matchesAll_items_iff (Nat.zero_le text.length)
  rw [← hparts]
  constructor
  · rintro ⟨i, -, j, h⟩
    obtain ⟨first, ⟨hstart, hfirst⟩, last, hitems, _, ⟨hend, -⟩, -⟩ := Expr.matches_sequence.1 h
    have hzero : i = 0 := by simpa [Look.holds] using hstart
    have hlast : last = text.length := by simpa [Look.holds] using hend
    rw [hfirst, hzero, hlast] at hitems
    exact Expr.matches_sequence.1 hitems
  · intro hitems
    refine ⟨0, Nat.zero_le _, text.length, Expr.matches_sequence.2 ?_⟩
    exact ⟨0, ⟨by simp [Look.holds], rfl⟩, text.length, Expr.matches_sequence.2 hitems,
      text.length, ⟨by simp [Look.holds], rfl⟩, rfl⟩

end Wildcard

/-- **An exclude pattern matches what it covers.** Every exclude pattern that is not refused matches
a text just if it covers the whole text as a wildcard. So a pattern without stars and question marks
matches itself and nothing else. -/
theorem ExcludeRule.isMatch_eq_covers (source : String) (rule : ExcludeRule)
    (h : ExcludeRule.compile source = .ok rule) (text : String) :
    rule.isMatch text = Wildcard.covers source.toList text.toList ∧
      ('*' ∉ source.toList → '?' ∉ source.toList → (rule.isMatch text = true ↔ text = source)) := by
  have hmatch : rule.isMatch text = Wildcard.covers source.toList text.toList := by
    rw [compile_eq] at h
    dsimp only at h
    split at h
    · obtain rfl := Except.ok.inj h
      rw [Bool.eq_iff_iff, ← Wildcard.exists_matches_expr_iff]
      exact isMatch_iff
    · simp at h
  refine ⟨hmatch, fun hstar hany => ?_⟩
  rw [hmatch, Wildcard.covers_iff_eq hstar hany]
  exact String.toList_inj

/-- A star over a line feed, and a dot that is only a dot. -/
theorem ExcludeRule.isMatch_eq_covers_star_dot :
    (∃ rule, ExcludeRule.compile "a/*.?" = .ok rule ∧ rule.isMatch "a/b\n/c.d" = true ∧
      rule.isMatch "a/bcd" = false) ∧
    ∃ rule, ExcludeRule.compile "a.b" = .ok rule ∧
      ∀ text, rule.isMatch text = true ↔ text = "a.b" := by
  obtain ⟨star, hstar⟩ := exists_compile_of_length_le "a/*.?" (by decide)
  obtain ⟨dot, hdot⟩ := exists_compile_of_length_le "a.b" (by decide)
  refine ⟨⟨star, hstar, ?_, ?_⟩, dot, hdot, fun text => ?_⟩
  · rw [(isMatch_eq_covers "a/*.?" star hstar "a/b\n/c.d").1]
    decide
  · rw [(isMatch_eq_covers "a/*.?" star hstar "a/bcd").1]
    decide
  · exact (isMatch_eq_covers "a.b" dot hdot text).2 (by decide) (by decide)

end ImportAtlas
