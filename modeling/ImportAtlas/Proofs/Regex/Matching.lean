import ImportAtlas.Regex.Search
import Mathlib.Tactic.Lemma

/-!
# What an expression matches

The matches of an expression, told by recursion on the expression and without a machine: which
positions of a text an expression leads to from a position.

## Main definitions

* `ImportAtlas.Regex.Times`: a relation of positions several times in a row.
* `ImportAtlas.Regex.Expr.Matches`: the matches of an expression.

## Main results

* `ImportAtlas.Regex.Expr.matches_sequence`: the parts of a sequence match one after the other.
-/

namespace ImportAtlas.Regex

variable {text : Array Char} {R : Nat → Nat → Prop}

/-! ### Repetition -/

/-- A relation of positions `n` times in a row. -/
def Times (R : Nat → Nat → Prop) : Nat → Nat → Nat → Prop
  | 0, i, j => j = i
  | n + 1, i, k => ∃ j, R i j ∧ Times R n j k

@[simp] lemma times_zero {i j : Nat} : Times R 0 i j ↔ j = i := Iff.rfl

@[simp] lemma times_succ {n i k : Nat} : Times R (n + 1) i k ↔ ∃ j, R i j ∧ Times R n j k := Iff.rfl

/-- A number of times can be split. -/
lemma times_add {m n i k : Nat} :
    Times R (m + n) i k ↔ ∃ j, Times R m i j ∧ Times R n j k := by
  induction m generalizing i with
  | zero => simp
  | succ m ih =>
    rw [Nat.add_right_comm, times_succ]
    constructor
    · rintro ⟨j, hij, hjk⟩
      obtain ⟨l, hjl, hlk⟩ := ih.1 hjk
      exact ⟨l, ⟨j, hij, hjl⟩, hlk⟩
    · rintro ⟨l, ⟨j, hij, hjl⟩, hlk⟩
      exact ⟨j, hij, ih.2 ⟨l, hjl, hlk⟩⟩

/-! ### Expressions -/

namespace Expr

/-- An expression matches the text between two positions. A repetition whose upper bound is below
the lower one matches as often as the lower one says. -/
def Matches (text : Array Char) : Expr → Nat → Nat → Prop
  | .empty, i, j => j = i
  | .chars set, i, j => ∃ c, text[i]? = some c ∧ set.contains c = true ∧ j = i + 1
  | .look kind, i, j => kind.holds text i = true ∧ j = i
  | .seq a b, i, k => ∃ j, a.Matches text i j ∧ b.Matches text j k
  | .alt a b, i, j => a.Matches text i j ∨ b.Matches text i j
  | .repetition least most _ body, i, j =>
    ∃ n, least ≤ n ∧ (∀ m ∈ most, n ≤ max least m) ∧ Times (body.Matches text) n i j
  | .capture _ body, i, j => body.Matches text i j

/-- Some expressions match one after the other. -/
def MatchesAll (text : Array Char) : List Expr → Nat → Nat → Prop
  | [], i, j => j = i
  | e :: rest, i, k => ∃ j, e.Matches text i j ∧ MatchesAll text rest j k

/-- What matches one after the other can be split. -/
lemma matchesAll_append {es fs : List Expr} {i k : Nat} :
    MatchesAll text (es ++ fs) i k ↔ ∃ j, MatchesAll text es i j ∧ MatchesAll text fs j k := by
  induction es generalizing i with
  | nil => simp [MatchesAll]
  | cons e es ih =>
    rw [List.cons_append, MatchesAll]
    constructor
    · rintro ⟨j, hij, hjk⟩
      obtain ⟨l, hjl, hlk⟩ := ih.1 hjk
      exact ⟨l, ⟨j, hij, hjl⟩, hlk⟩
    · rintro ⟨l, ⟨j, hij, hjl⟩, hlk⟩
      exact ⟨j, hij, ih.2 ⟨l, hjl, hlk⟩⟩

/-- An expression that is the empty text. -/
lemma eq_empty_of_isEmpty {e : Expr} (h : e.isEmpty = true) : e = .empty := by
  cases e <;> simp [isEmpty] at h ⊢

/-- Empty parts do not matter to what matches one after the other. -/
lemma matchesAll_filter {es : List Expr} {i j : Nat} :
    MatchesAll text (es.filter fun e => !e.isEmpty) i j ↔ MatchesAll text es i j := by
  induction es generalizing i with
  | nil => rfl
  | cons e es ih =>
    cases he : e.isEmpty with
    | false => simp [he, MatchesAll, ih]
    | true =>
      simp [eq_empty_of_isEmpty he, isEmpty, MatchesAll, Matches, ← ih]

/-- A sequence that is put together from its last part matches its parts one after the other. -/
lemma matches_foldl_seq {before : List Expr} {last : Expr} {i k : Nat} :
    (before.foldl (fun e p => .seq p e) last).Matches text i k ↔
      MatchesAll text (before.reverse ++ [last]) i k := by
  induction before generalizing last with
  | nil => simp [MatchesAll]
  | cons p before ih =>
    rw [List.foldl_cons, ih, List.reverse_cons, List.append_assoc, matchesAll_append,
      matchesAll_append]
    simp [MatchesAll, Matches]

/-- **The parts of a sequence match one after the other.** -/
lemma matches_sequence {parts : List Expr} {i j : Nat} :
    (sequence parts).Matches text i j ↔ MatchesAll text parts i j := by
  rw [sequence, ← matchesAll_filter]
  split
  · rename_i hnil
    rw [List.reverse_eq_nil_iff.1 hnil]
    rfl
  · rename_i last before hparts
    rw [matches_foldl_seq, ← List.reverse_cons, ← hparts, List.reverse_reverse]

/-- A sequence of one part is the part. -/
lemma sequence_singleton (e : Expr) : sequence [e] = e := by
  cases he : e.isEmpty with
  | false => simp [sequence, he]
  | true =>
    rw [eq_empty_of_isEmpty he]
    rfl

end Expr

end ImportAtlas.Regex
