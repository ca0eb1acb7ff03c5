import ImportAtlas.Text.Numeral
import Mathlib.Data.List.TakeDrop
import Mathlib.Tactic.Lemma

/-!
# Writing and reading numbers

The decimal digits of a number spell the number, and a reader that takes digits as long as there are
any takes just them.

## Main definitions

* `ImportAtlas.Numeral.IsUnsigned`: how an unsigned integer of 64 bits may be written.

## Main results

* `ImportAtlas.Numeral.ofDigits_toDigits`: the digits of a number have its value.
* `ImportAtlas.Numeral.span_toDigits_append`: where the digits of a number end.
* `ImportAtlas.Numeral.unsigned?_isSome_iff`: what is read as an unsigned integer.
-/

namespace ImportAtlas.Numeral

/-- The ten digits of core are the decimal digits. -/
lemma isDecimal_iff_isDigit {c : Char} : isDecimal c = true ↔ c.isDigit = true := by
  simp only [isDecimal, Char.isDigit, Bool.and_eq_true, decide_eq_true_eq]
  rfl

/-- The value of a decimal digit is its distance from zero. -/
lemma digit?_of_isDecimal {c : Char} (h : isDecimal c = true) : digit? c = some (c.toNat - 48) := by
  simp only [isDecimal, Bool.and_eq_true, decide_eq_true_eq] at h
  rw [digit?, if_pos h]

/-- Every digit of a number is a decimal digit. -/
lemma isDecimal_of_mem_toDigits {n : Nat} {c : Char} (h : c ∈ Nat.toDigits 10 n) :
    isDecimal c = true :=
  isDecimal_iff_isDigit.2 (Nat.isDigit_of_mem_toDigits (by decide) (by decide) h)

/-- The digits of a number have its value. -/
lemma ofDigits_toDigits (n : Nat) : ofDigits 10 (Nat.toDigits 10 n) = n := by
  have hfold : ∀ (digits : List Char) (m : Nat), (∀ c ∈ digits, isDecimal c = true) →
      digits.foldl (fun n c => n * 10 + (digit? c).getD 0) m = Nat.ofDigitChars 10 digits m := by
    intro digits
    induction digits with
    | nil => exact fun _ _ => rfl
    | cons c rest ih =>
      intro m h
      rw [List.foldl_cons, Nat.ofDigitChars_cons, digit?_of_isDecimal (h c List.mem_cons_self),
        ih _ fun d hd => h d (List.mem_cons_of_mem _ hd), Nat.mul_comm]
      rfl
  rw [ofDigits, hfold _ _ fun c => isDecimal_of_mem_toDigits, Nat.ofDigitChars_ten_toDigits]

/-- The digits of a number are a numeral of it. -/
lemma decimal?_toDigits (n : Nat) : decimal? (Nat.toDigits 10 n) = some n := by
  have hdigits : (Nat.toDigits 10 n).all isDecimal = true :=
    List.all_eq_true.2 fun _ => isDecimal_of_mem_toDigits
  rw [decimal?, if_pos ⟨Nat.toDigits_ne_nil, hdigits⟩, ofDigits_toDigits]

/-- A run is cut off as a whole if nothing that belongs to it comes next. -/
lemma span_append {p : Char → Bool} {run rest : List Char} (hrun : ∀ c ∈ run, p c = true)
    (hrest : ∀ c ∈ rest.head?, p c = false) : (run ++ rest).span p = (run, rest) := by
  rw [List.span_eq_takeWhile_dropWhile, List.takeWhile_append_of_pos hrun,
    List.dropWhile_append_of_pos hrun]
  cases rest with
  | nil => simp
  | cons c rest => simp [hrest c rfl]

/-- The digits of a number end where no digit comes next. -/
lemma span_toDigits_append {n : Nat} {rest : List Char}
    (h : ∀ c ∈ rest.head?, isDecimal c = false) :
    (Nat.toDigits 10 n ++ rest).span isDecimal = (Nat.toDigits 10 n, rest) :=
  span_append (fun _ => isDecimal_of_mem_toDigits) h

/-- A text is an unsigned integer of 64 bits: decimal digits, with at most one plus sign in front,
whose value fits. -/
def IsUnsigned (text : List Char) : Prop :=
  ∃ digits, (text = digits ∨ text = '+' :: digits) ∧ digits ≠ [] ∧
    (∀ c ∈ digits, isDecimal c = true) ∧ ofDigits 10 digits ≤ maxWord

/-- Decimal digits whose value fits are read, and nothing else is. -/
lemma filter_decimal?_isSome_iff (digits : List Char) :
    ((decimal? digits).filter (· ≤ maxWord)).isSome = true ↔
      digits ≠ [] ∧ (∀ c ∈ digits, isDecimal c = true) ∧ ofDigits 10 digits ≤ maxWord := by
  rw [decimal?]
  split
  · rename_i h
    rw [List.all_eq_true] at h
    simp only [Option.isSome_filter, Option.any_some, decide_eq_true_eq]
    exact ⟨fun hfits => ⟨h.1, h.2, hfits⟩, fun hdigits => hdigits.2.2⟩
  · rename_i h
    rw [List.all_eq_true] at h
    simp only [Option.filter_none, Option.isSome_none, Bool.false_eq_true, false_iff]
    exact fun hdigits => h ⟨hdigits.1, hdigits.2.1⟩

/-- **What is read as an unsigned integer** is an unsigned integer of 64 bits. -/
lemma unsigned?_isSome_iff (text : List Char) :
    (unsigned? text).isSome = true ↔ IsUnsigned text := by
  unfold unsigned? IsUnsigned
  split
  · rename_i rest
    rw [filter_decimal?_isSome_iff]
    refine ⟨fun h => ⟨rest, .inr rfl, h⟩, ?_⟩
    rintro ⟨digits, rfl | heq, hdigits⟩
    · exact absurd (hdigits.2.1 '+' List.mem_cons_self) (by decide)
    · obtain rfl := List.tail_eq_of_cons_eq heq
      exact hdigits
  · rename_i hplus
    rw [filter_decimal?_isSome_iff]
    refine ⟨fun h => ⟨text, .inl rfl, h⟩, ?_⟩
    rintro ⟨digits, rfl | heq, hdigits⟩
    · exact hdigits
    · exact absurd heq (hplus digits)

end ImportAtlas.Numeral
