import ImportAtlas.Text.Utf8
import Mathlib.Tactic.IntervalCases
import Mathlib.Tactic.Lemma

/-!
# Reading UTF-8 back

The bytes of a text are well-formed, and they are read as the text.

## Main results

* `ImportAtlas.Utf8.scanFrom_utf8EncodeChar`: a character is read back from its bytes, whatever
  bytes follow.
* `ImportAtlas.Utf8.decode?_encode`: a text is read back from its bytes.
-/

namespace ImportAtlas.Utf8

/-! ### First bytes -/

/-- The first byte of a character of two bytes. -/
lemma lead_two {h : Nat} (hlow : 2 ≤ h) (hhigh : h < 32) :
    lead (UInt8.ofNat (h + 192)) = .opens ⟨h, 0x80, 0xBF, 0⟩ := by
  interval_cases h <;> rfl

/-- The first byte of a character of three bytes. The next byte shows that fewer would not do, and
that the character is no surrogate. -/
lemma lead_three {h : Nat} (hhigh : h < 16) :
    lead (UInt8.ofNat (h + 224)) =
      .opens ⟨h, if h = 0 then 0xA0 else 0x80, if h = 13 then 0x9F else 0xBF, 1⟩ := by
  interval_cases h <;> rfl

/-- The first byte of a character of four bytes. The next byte shows that fewer would not do, and
that the character is a code point. -/
lemma lead_four {h : Nat} (hhigh : h < 5) :
    lead (UInt8.ofNat (h + 240)) =
      .opens ⟨h, if h = 0 then 0x90 else 0x80, if h = 4 then 0x8F else 0xBF, 2⟩ := by
  interval_cases h <;> rfl

/-! ### Further bytes -/

section Pending

variable {bits x n : Nat} {low high : UInt8}

/-- A further byte as a number. -/
lemma toNat_ofNat_tail (hx : x < 64) : (UInt8.ofNat (x + 128)).toNat = x + 128 := by
  rw [UInt8.toNat_ofNat', Nat.mod_eq_of_lt (by omega)]

/-- A further byte lies between two others. -/
lemma between_ofNat_tail (hx : x < 64) (hlow : low.toNat ≤ x + 128) (hhigh : x + 128 ≤ high.toNat) :
    low ≤ UInt8.ofNat (x + 128) ∧ UInt8.ofNat (x + 128) ≤ high := by
  rw [UInt8.le_iff_toNat_le, UInt8.le_iff_toNat_le, toNat_ofNat_tail hx]
  exact ⟨hlow, hhigh⟩

/-- The last byte of a character completes it. -/
lemma scanFrom_last (hx : x < 64) (hlow : low.toNat ≤ x + 128) (hhigh : x + 128 ≤ high.toNat)
    (rest : List UInt8) :
    scanFrom (some ⟨bits, low, high, 0⟩) (UInt8.ofNat (x + 128) :: rest) =
      some (Char.ofNat (bits * 64 + x)) :: scanFrom none rest := by
  rw [scanFrom, if_pos (between_ofNat_tail hx hlow hhigh), toNat_ofNat_tail hx]
  simp

/-- A byte before the last adds its six bits. -/
lemma scanFrom_next (hx : x < 64) (hlow : low.toNat ≤ x + 128) (hhigh : x + 128 ≤ high.toNat)
    (rest : List UInt8) :
    scanFrom (some ⟨bits, low, high, n + 1⟩) (UInt8.ofNat (x + 128) :: rest) =
      scanFrom (some ⟨bits * 64 + x, 0x80, 0xBF, n⟩) rest := by
  rw [scanFrom, if_pos (between_ofNat_tail hx hlow hhigh), toNat_ofNat_tail hx]
  simp

end Pending

/-! ### Texts -/

/-- A byte that opens a character. -/
lemma scanFrom_opens {b : UInt8} {p : Pending} (h : lead b = .opens p) (rest : List UInt8) :
    scanFrom none (b :: rest) = scanFrom (some p) rest := by
  rw [scanFrom, h]

/-- **A character is read back from its bytes**, whatever bytes follow.

**Proof sketch.** By the number of bytes. The bounds of the second byte hold because the character
needs that many bytes, is no surrogate and is a code point. -/
lemma scanFrom_utf8EncodeChar (c : Char) (rest : List UInt8) :
    scanFrom none (String.utf8EncodeChar c ++ rest) = some c :: scanFrom none rest := by
  have hc : Char.ofNat c.val.toNat = c := Char.ofNat_toNat c
  have hvalid : c.val.toNat < 0xD800 ∨ 0xDFFF < c.val.toNat ∧ c.val.toNat < 0x110000 := c.valid
  unfold String.utf8EncodeChar
  generalize c.val.toNat = v at hc hvalid ⊢
  subst hc
  dsimp only
  split_ifs with h1 h2 h3
  · have hlt : UInt8.ofNat v < 0x80 := by
      rw [UInt8.lt_iff_toNat_lt, UInt8.toNat_ofNat', Nat.mod_eq_of_lt (by omega)]
      exact Nat.lt_succ_of_le h1
    simp only [List.cons_append, List.nil_append]
    rw [scanFrom, lead, if_pos hlt, UInt8.toNat_ofNat', Nat.mod_eq_of_lt (by omega)]
  · simp only [List.cons_append, List.nil_append]
    rw [scanFrom_opens (lead_two (by omega) (by omega)),
      scanFrom_last (by omega) (by simp) (by simp; omega)]
    congr 3
    omega
  · simp only [List.cons_append, List.nil_append]
    rw [scanFrom_opens (lead_three (by omega)),
      scanFrom_next (by omega) (by split <;> simp; omega) (by split <;> (simp; omega)),
      scanFrom_last (by omega) (by simp) (by simp; omega)]
    congr 3
    omega
  · simp only [List.cons_append, List.nil_append]
    rw [scanFrom_opens (lead_four (by omega)),
      scanFrom_next (by omega) (by split <;> simp; omega) (by split <;> (simp; omega)),
      scanFrom_next (by omega) (by simp) (by simp; omega),
      scanFrom_last (by omega) (by simp) (by simp; omega)]
    congr 3
    omega

/-- The bytes of a text are read as its characters, without a gap. -/
lemma scan_encode (text : List Char) : scan (encode text) = text.map some := by
  rw [scan]
  induction text with
  | nil => rfl
  | cons c rest ih =>
    rw [encode, List.flatMap_cons, scanFrom_utf8EncodeChar]
    exact congrArg (some c :: ·) ih

/-- **A text is read back from its bytes.** -/
lemma decode?_encode (text : List Char) : decode? (encode text) = some text := by
  rw [decode?, scan_encode]
  induction text with
  | nil => rfl
  | cons c rest ih => simp [ih]

end ImportAtlas.Utf8
