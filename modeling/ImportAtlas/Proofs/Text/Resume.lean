import ImportAtlas.Proofs.Text.Utf8

/-!
# Where the reading of bytes starts afresh

A byte below `0x80` is a character by itself wherever it stands: it ends the malformed stretch that
it breaks, and nothing in front of it has an effect on what follows. So bytes are read line by line,
however malformed they are.

## Main definitions

* `ImportAtlas.Utf8.step`: what one byte adds to the characters, and the state behind it.
* `ImportAtlas.Utf8.Pending.Proper`: a character that has begun will not be one of a single byte.

## Main results

* `ImportAtlas.Utf8.scanFrom_append_ascii`: reading splits at a byte below `0x80`.
* `ImportAtlas.Utf8.decodeLossy_append_newline`: a text in bytes splits at a line feed.
* `ImportAtlas.Utf8.newline_not_mem_decodeLossy`: bytes without a line feed are read without one.
* `ImportAtlas.Utf8.decodeLossy_encode`: a text is read back from its bytes.
-/

namespace ImportAtlas.Utf8

/-! ### One byte -/

/-- What the end of the bytes adds: a gap, if it cuts a character off. -/
def gap : Option Pending → List (Option Char)
  | none => []
  | some _ => [none]

/-- What a byte adds where a character may begin, and the state behind it. -/
def firstStep (b : UInt8) : List (Option Char) × Option Pending :=
  match lead b with
  | .whole c => ([some c], none)
  | .opens p => ([], some p)
  | .stray => ([none], none)

/-- What a byte adds, and the state behind it. -/
def step : Option Pending → UInt8 → List (Option Char) × Option Pending
  | none, b => firstStep b
  | some p, b =>
    if p.low ≤ b ∧ b ≤ p.high then
      let bits := p.bits * 64 + (b.toNat - 0x80)
      match p.after with
      | 0 => ([some (Char.ofNat bits)], none)
      | n + 1 => ([], some ⟨bits, 0x80, 0xBF, n⟩)
    else (none :: (firstStep b).1, (firstStep b).2)

variable {s : Option Pending} {p : Pending} {b : UInt8}

/-- The end of the bytes. -/
lemma scanFrom_nil (s : Option Pending) : scanFrom s [] = gap s := by
  cases s <;> rfl

/-- One byte, and the bytes behind it. -/
lemma scanFrom_cons (s : Option Pending) (b : UInt8) (rest : List UInt8) :
    scanFrom s (b :: rest) = (step s b).1 ++ scanFrom (step s b).2 rest := by
  cases s with
  | none =>
    rw [scanFrom, step, firstStep]
    cases lead b <;> rfl
  | some p =>
    rw [scanFrom, step]
    by_cases hb : p.low ≤ b ∧ b ≤ p.high
    · rw [if_pos hb, if_pos hb]
      cases p.after <;> rfl
    · rw [if_neg hb, if_neg hb, firstStep]
      cases lead b <;> rfl

/-! ### Characters that have begun -/

/-- The least code point that a character that has begun can still become. -/
def Pending.least (p : Pending) : Nat := (p.bits * 64 + (p.low.toNat - 0x80)) * 64 ^ p.after

/-- A character that has begun goes on with bytes from `0x80` only, and becomes a code point from
`0x80`. -/
structure Pending.Proper (p : Pending) : Prop where
  /-- No byte below `0x80` continues it. -/
  low : 0x80 ≤ p.low.toNat
  /-- It needs more than one byte. -/
  least : 0x80 ≤ p.least

/-- What a byte begins is proper. -/
lemma Pending.Proper.of_lead (h : lead b = .opens p) : p.Proper := by
  unfold lead at h
  simp only [UInt8.lt_iff_toNat_lt, ← UInt8.toNat_inj, UInt8.reduceToNat] at h
  split_ifs at h
  all_goals
    obtain rfl := Lead.opens.inj h
    refine ⟨by simp, ?_⟩
    simp only [Pending.least, UInt8.reduceToNat, Nat.reducePow]
    omega

/-- A further byte leaves at least the least code point. -/
lemma Pending.least_le (p : Pending) (hb : p.low ≤ b) :
    p.least ≤ (p.bits * 64 + (b.toNat - 0x80)) * 64 ^ p.after := by
  rw [UInt8.le_iff_toNat_le] at hb
  exact Nat.mul_le_mul_right _ (by omega)

/-- With one more byte, a character that has begun stays proper. -/
lemma Pending.Proper.next {n : Nat} (h : p.Proper) (hb : p.low ≤ b) (hafter : p.after = n + 1) :
    (Pending.mk (p.bits * 64 + (b.toNat - 0x80)) 0x80 0xBF n).Proper := by
  refine ⟨le_rfl, h.least.trans ((p.least_le hb).trans_eq ?_)⟩
  simp only [Pending.least, hafter, pow_succ']
  simp [Nat.mul_assoc]

/-- With its last byte, a character that has begun becomes a code point from `0x80`. -/
lemma Pending.Proper.last (h : p.Proper) (hb : p.low ≤ b) (hafter : p.after = 0) :
    0x80 ≤ p.bits * 64 + (b.toNat - 0x80) := by
  have hleast := h.least.trans (p.least_le hb)
  rwa [hafter, pow_zero, Nat.mul_one] at hleast

/-! ### What a byte does -/

/-- A byte below `0x80` is a character by itself. -/
lemma lead_ascii (hb : b < 0x80) : lead b = .whole (Char.ofNat b.toNat) := if_pos hb

/-- Only a byte below `0x80` is a character by itself. -/
lemma eq_of_lead_whole {c : Char} (h : lead b = .whole c) : c = Char.ofNat b.toNat := by
  revert h
  fun_cases lead b
  case case1 =>
    intro h
    exact (Lead.whole.inj h).symm
  all_goals simp

/-- The state behind a byte where a character may begin is proper. -/
lemma firstStep_proper (b : UInt8) : ∀ p ∈ (firstStep b).2, p.Proper := by
  intro p hp
  unfold firstStep at hp
  cases hlead : lead b with
  | whole c => simp [hlead] at hp
  | opens q =>
    obtain rfl : q = p := by simpa [hlead] using hp
    exact .of_lead hlead
  | stray => simp [hlead] at hp

/-- The state behind a byte is proper. -/
lemma step_proper (hs : ∀ p ∈ s, p.Proper) : ∀ p ∈ (step s b).2, p.Proper := by
  cases s with
  | none => exact firstStep_proper b
  | some p =>
    unfold step
    dsimp only
    by_cases hb : p.low ≤ b ∧ b ≤ p.high
    · rw [if_pos hb]
      cases hafter : p.after with
      | zero => simp
      | succ n =>
        intro q hq
        obtain rfl := Option.some.inj hq
        exact (hs p rfl).next hb.1 hafter
    · rw [if_neg hb]
      exact firstStep_proper b

/-- **A byte below `0x80` is read for itself**, in whichever state it is met. -/
lemma step_ascii (hs : ∀ p ∈ s, p.Proper) (hb : b < 0x80) :
    step s b = (gap s ++ [some (Char.ofNat b.toNat)], none) := by
  have hfirst : firstStep b = ([some (Char.ofNat b.toNat)], none) := by
    rw [firstStep, lead_ascii hb]
  cases s with
  | none => exact hfirst
  | some p =>
    have hbreak : ¬(p.low ≤ b ∧ b ≤ p.high) := by
      rintro ⟨hlow, -⟩
      have hproper := (hs p rfl).low
      rw [UInt8.le_iff_toNat_le] at hlow
      rw [UInt8.lt_iff_toNat_lt] at hb
      exact absurd (hproper.trans hlow) (Nat.not_le.2 hb)
    rw [step, if_neg hbreak, hfirst]
    rfl

/-- A code point that is read as the line feed is its own. -/
lemma eq_ten_of_ofNat {n : Nat} (h : Char.ofNat n = '\n') : n = 10 := by
  have hn : (Char.ofNat n).toNat = 10 := by
    rw [h]
    rfl
  by_cases hvalid : n.isValidChar
  · rwa [Char.ofNat, dif_pos hvalid] at hn
  · -- what is no code point is read as another character
    rw [Char.ofNat, dif_neg hvalid] at hn
    cases hn

/-- Where a character may begin, only the byte of a line feed is read as one. -/
lemma eq_newline_of_mem_firstStep (h : some '\n' ∈ (firstStep b).1) : b = 0x0A := by
  unfold firstStep at h
  cases hlead : lead b with
  | whole c =>
    obtain rfl : '\n' = c := by simpa [hlead] using h
    exact UInt8.toNat_inj.1 (eq_ten_of_ofNat (eq_of_lead_whole hlead).symm)
  | opens q => simp [hlead] at h
  | stray => simp [hlead] at h

/-- **Only the byte of a line feed is read as one.** -/
lemma eq_newline_of_mem_step (hs : ∀ p ∈ s, p.Proper) (h : some '\n' ∈ (step s b).1) :
    b = 0x0A := by
  cases s with
  | none => exact eq_newline_of_mem_firstStep h
  | some p =>
    unfold step at h
    dsimp only at h
    by_cases hb : p.low ≤ b ∧ b ≤ p.high
    · rw [if_pos hb] at h
      cases hafter : p.after with
      | zero =>
        -- the completed character has a code point from `0x80`, so it is no line feed
        have hlast := (hs p rfl).last hb.1 hafter
        have hchar : Char.ofNat (p.bits * 64 + (b.toNat - 0x80)) = '\n' := by
          simpa [hafter, eq_comm] using h
        rw [eq_ten_of_ofNat hchar] at hlast
        exact absurd hlast (by decide)
      | succ n => simp [hafter] at h
    · rw [if_neg hb] at h
      exact eq_newline_of_mem_firstStep (by simpa using h)

/-! ### All bytes -/

/-- **Reading splits at a byte below `0x80`.** What stands in front of it, perhaps the beginning of
a character that it cuts off, is read as if it were all.

**Proof sketch.** Induction on the bytes in front. The byte itself ends a pending character with the
gap that the end of the bytes would leave. -/
lemma scanFrom_append_ascii (hs : ∀ p ∈ s, p.Proper) (hb : b < 0x80) (front rest : List UInt8) :
    scanFrom s (front ++ b :: rest) =
      scanFrom s front ++ some (Char.ofNat b.toNat) :: scanFrom none rest := by
  induction front generalizing s with
  | nil =>
    rw [List.nil_append, scanFrom_cons, step_ascii hs hb, scanFrom_nil, List.append_assoc]
    rfl
  | cons c front ih =>
    rw [List.cons_append, scanFrom_cons, ih (step_proper hs), scanFrom_cons s c front,
      List.append_assoc]

/-- Bytes without a line feed are read without one, in whichever state they are met. -/
lemma newline_mem_of_mem_scanFrom (hs : ∀ p ∈ s, p.Proper) {bytes : List UInt8}
    (h : some '\n' ∈ scanFrom s bytes) : 0x0A ∈ bytes := by
  induction bytes generalizing s with
  | nil =>
    rw [scanFrom_nil] at h
    cases s <;> simp [gap] at h
  | cons b rest ih =>
    rw [scanFrom_cons, List.mem_append] at h
    rcases h with h | h
    · obtain rfl := eq_newline_of_mem_step hs h
      exact List.mem_cons_self
    · exact List.mem_cons_of_mem _ (ih (step_proper hs) h)

/-! ### Texts -/

@[simp] lemma decodeLossy_nil : decodeLossy [] = [] := rfl

/-- A text in bytes splits at a byte below `0x80`. -/
lemma decodeLossy_append_ascii (hb : b < 0x80) (front rest : List UInt8) :
    decodeLossy (front ++ b :: rest) =
      decodeLossy front ++ Char.ofNat b.toNat :: decodeLossy rest := by
  unfold decodeLossy scan
  rw [scanFrom_append_ascii (by simp) hb, List.map_append]
  rfl

/-- A byte below `0x80` is a character by itself in front of any text. -/
lemma decodeLossy_cons_ascii (hb : b < 0x80) (rest : List UInt8) :
    decodeLossy (b :: rest) = Char.ofNat b.toNat :: decodeLossy rest :=
  decodeLossy_append_ascii hb [] rest

/-- **A text in bytes splits at a line feed**, whatever the bytes on its two sides are. -/
lemma decodeLossy_append_newline (front rest : List UInt8) :
    decodeLossy (front ++ 0x0A :: rest) = decodeLossy front ++ '\n' :: decodeLossy rest :=
  decodeLossy_append_ascii (by decide) front rest

/-- Bytes that are none or end with a line feed are read as if they were all. -/
lemma decodeLossy_append_of_getLast? {front : List UInt8} (h : ∀ b ∈ front.getLast?, b = 0x0A)
    (rest : List UInt8) : decodeLossy (front ++ rest) = decodeLossy front ++ decodeLossy rest := by
  rcases front.eq_nil_or_concat with rfl | ⟨front, b, rfl⟩
  · rfl
  · obtain rfl : b = 0x0A := h b (by simp)
    rw [List.concat_eq_append, List.append_assoc, List.singleton_append, decodeLossy_append_newline,
      decodeLossy_append_newline, List.append_assoc]
    rfl

/-- Bytes are read as if they were all, if what follows is nothing or begins with a line feed. -/
lemma decodeLossy_append_of_head? (front : List UInt8) {rest : List UInt8}
    (h : ∀ b ∈ rest.head?, b = 0x0A) :
    decodeLossy (front ++ rest) = decodeLossy front ++ decodeLossy rest := by
  cases rest with
  | nil => simp
  | cons b rest =>
    obtain rfl : b = 0x0A := h b rfl
    rw [decodeLossy_append_newline, decodeLossy_cons_ascii (by decide)]
    rfl

/-- Bytes that are none or end with a line feed are read as a text of that kind. -/
lemma getLast?_decodeLossy {front : List UInt8} (h : ∀ b ∈ front.getLast?, b = 0x0A) :
    ∀ c ∈ (decodeLossy front).getLast?, c = '\n' := by
  rcases front.eq_nil_or_concat with rfl | ⟨front, b, rfl⟩
  · simp
  · obtain rfl : b = 0x0A := h b (by simp)
    rw [List.concat_eq_append, decodeLossy_append_newline]
    simp

/-- Bytes that are none or begin with a line feed are read as a text of that kind. -/
lemma head?_decodeLossy {rest : List UInt8} (h : ∀ b ∈ rest.head?, b = 0x0A) :
    ∀ c ∈ (decodeLossy rest).head?, c = '\n' := by
  cases rest with
  | nil => simp
  | cons b rest =>
    obtain rfl : b = 0x0A := h b rfl
    rw [decodeLossy_cons_ascii (by decide)]
    simp

/-- Bytes below `0x80` in front of others are characters by themselves. -/
lemma decodeLossy_append_all_ascii {front : List UInt8} (h : ∀ b ∈ front, b < 0x80)
    (rest : List UInt8) :
    decodeLossy (front ++ rest) =
      front.map (fun b => Char.ofNat b.toNat) ++ decodeLossy rest := by
  induction front with
  | nil => rfl
  | cons b front ih =>
    rw [List.forall_mem_cons] at h
    rw [List.cons_append, decodeLossy_cons_ascii h.1, ih h.2]
    rfl

/-- **Bytes without a line feed are read without one.** -/
lemma newline_not_mem_decodeLossy {bytes : List UInt8} (h : 0x0A ∉ bytes) :
    '\n' ∉ decodeLossy bytes := by
  intro hmem
  obtain ⟨read, hread, hchar⟩ := List.mem_map.1 hmem
  cases read with
  | none => exact absurd hchar (by decide)
  | some c =>
    obtain rfl : c = '\n' := hchar
    exact h (newline_mem_of_mem_scanFrom (by simp) hread)

/-- **A text is read back from its bytes**, also where malformed bytes would be replaced. -/
lemma decodeLossy_encode (text : List Char) : decodeLossy (encode text) = text := by
  rw [decodeLossy, scan_encode, List.map_map]
  exact List.map_id text

end ImportAtlas.Utf8
