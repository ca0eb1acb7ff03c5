import ImportAtlas.Proofs.Regex.Matching
import ImportAtlas.Proofs.Regex.Search
import ImportAtlas.Regex.Basic

/-!
# What a program matches

The program of an expression matches what the expression matches. A part of a program is described
by the positions that it relates: a way through the part enters at its first address and, if it
accepts in the end, leaves at the address behind the part. Such parts are put together as their code
is.

## Main definitions

* `ImportAtlas.Regex.Placed`: instructions stand in a program from an address on.
* `ImportAtlas.Regex.Block`: a part of a program matches just what a relation of positions relates.

## Main results

* `ImportAtlas.Regex.Block.loop`, `ImportAtlas.Regex.Block.options`: the two kinds of repetition.
* `ImportAtlas.Regex.Block.code`: the code of an expression matches what the expression matches.
* `ImportAtlas.Regex.isMatch_iff`: a regular expression matches a text just if its expression
  matches some part of the text.
-/

namespace ImportAtlas.Regex

variable {program : Array Instr} {text : Array Char} {R S : Nat → Nat → Prop} {a b c : Nat}

/-! ### Code in a program -/

/-- The instructions stand in the program from an address on. -/
def Placed (program : Array Instr) (start : Nat) (code : List Instr) : Prop :=
  ∀ k instr, code[k]? = some instr → program[start + k]? = some instr

/-- An instruction stands in the program, and the others stand behind it. -/
lemma placed_cons {start : Nat} {instr : Instr} {code : List Instr} :
    Placed program start (instr :: code) ↔
      program[start]? = some instr ∧ Placed program (start + 1) code := by
  constructor
  · intro h
    refine ⟨h 0 instr rfl, fun k other hk => ?_⟩
    rw [Nat.add_assoc, Nat.add_comm 1 k]
    exact h (k + 1) other hk
  · rintro ⟨hfirst, hrest⟩ k other hk
    cases k with
    | zero => exact hfirst.trans hk
    | succ k =>
      rw [Nat.add_comm k 1, ← Nat.add_assoc]
      exact hrest k other hk

/-- One part of the code stands in the program, and the other stands behind it. -/
lemma placed_append {start : Nat} {first second : List Instr} :
    Placed program start (first ++ second) ↔
      Placed program start first ∧ Placed program (start + first.length) second := by
  induction first generalizing start with
  | nil => simp [Placed]
  | cons instr first ih =>
    rw [List.cons_append, placed_cons, ih, placed_cons, List.length_cons, and_assoc,
      Nat.add_assoc start 1, Nat.add_comm 1]

/-! ### Parts of a program -/

/-- The part of the program from an address up to another one matches just what the relation
relates. -/
structure Block (program : Array Instr) (text : Array Char) (R : Nat → Nat → Prop)
    (start stop : Nat) : Prop where
  /-- A way that accepts leaves the part at a position that the relation gives. -/
  sound : ∀ n i, Accepts program text n start i →
    ∃ j, R i j ∧ ∃ m ≤ n, Accepts program text m stop j
  /-- Whatever position the relation gives, the part can be left there. -/
  complete : ∀ i j n, R i j → Accepts program text n stop j → ∃ m, Accepts program text m start i

namespace Block

/-- A part matches what any relation with the same pairs relates. -/
lemma of_iff (h : Block program text R a b) (hiff : ∀ i j, S i j ↔ R i j) :
    Block program text S a b where
  sound n i haccepts := by
    obtain ⟨j, hR, hrest⟩ := h.sound n i haccepts
    exact ⟨j, (hiff i j).2 hR, hrest⟩
  complete i j n hS haccepts := h.complete i j n ((hiff i j).1 hS) haccepts

/-- The part without instructions. -/
lemma nothing : Block program text (fun i j => j = i) a a where
  sound n i h := ⟨i, rfl, n, Nat.le_refl n, h⟩
  complete _ _ n hij h := ⟨n, hij ▸ h⟩

/-- A part of one instruction, which leads to one address. -/
lemma one {instr : Instr} (hinstr : program[a]? = some instr) (hne : instr ≠ .accept)
    (hleads : ∀ i a' j, instr.Leads text a i a' j ↔ a' = b ∧ R i j) :
    Block program text R a b where
  sound n i h := by
    obtain ⟨m, a', j, rfl, hstep, hm⟩ := h.next hinstr hne
    obtain ⟨rfl, hR⟩ := (hleads i a' j).1 hstep
    exact ⟨j, hR, m, Nat.le_succ m, hm⟩
  complete i j n hR h := ⟨n + 1, .step hinstr ((hleads i b j).2 ⟨rfl, hR⟩) h⟩

/-- A jump goes on elsewhere at the same position. -/
lemma jump (hinstr : program[a]? = some (.jump b)) : Block program text (fun i j => j = i) a b :=
  one hinstr (by simp) (by simp [Instr.Leads])

/-- One part and then another. -/
lemma seq (h : Block program text R a b) (h' : Block program text S b c) :
    Block program text (fun i k => ∃ j, R i j ∧ S j k) a c where
  sound n i haccepts := by
    obtain ⟨j, hR, m, hm, hrest⟩ := h.sound n i haccepts
    obtain ⟨k, hS, l, hl, hrest'⟩ := h'.sound m j hrest
    exact ⟨k, ⟨j, hR, hS⟩, l, hl.trans hm, hrest'⟩
  complete i k n := by
    rintro ⟨j, hR, hS⟩ haccepts
    obtain ⟨m, hm⟩ := h'.complete j k n hS haccepts
    exact h.complete i j m hR hm

/-- At a fork between a body and an exit either may be taken, whichever the repetition prefers. -/
lemma accepts_forkTo {greedy : Bool} {n i : Nat}
    (hinstr : program[a]? = some (Expr.forkTo greedy b c)) :
    Accepts program text n a i ↔
      ∃ m, n = m + 1 ∧ (Accepts program text m b i ∨ Accepts program text m c i) := by
  have hfork : ∃ first second, Expr.forkTo greedy b c = .fork first second ∧
      ((first = b ∧ second = c) ∨ (first = c ∧ second = b)) := by
    cases greedy
    · exact ⟨c, b, rfl, .inr ⟨rfl, rfl⟩⟩
    · exact ⟨b, c, rfl, .inl ⟨rfl, rfl⟩⟩
  obtain ⟨first, second, hfork, hways⟩ := hfork
  rw [hfork] at hinstr
  have hlead : ∀ a', (a' = first ∨ a' = second) ↔ (a' = b ∨ a' = c) := by
    rcases hways with ⟨rfl, rfl⟩ | ⟨rfl, rfl⟩ <;> simp [or_comm]
  constructor
  · intro h
    obtain ⟨m, a', i', rfl, ⟨ha', rfl⟩, hm⟩ := h.next hinstr (by simp)
    refine ⟨m, rfl, ?_⟩
    rcases (hlead a').1 ha' with rfl | rfl
    · exact .inl hm
    · exact .inr hm
  · rintro ⟨m, rfl, hm | hm⟩
    · exact .step hinstr ⟨(hlead b).2 (.inl rfl), rfl⟩ hm
    · exact .step hinstr ⟨(hlead c).2 (.inr rfl), rfl⟩ hm

/-- A fork to two parts that end at the same address. -/
lemma choice {greedy : Bool} {first second : Nat}
    (hinstr : program[a]? = some (Expr.forkTo greedy first second))
    (h : Block program text R first b) (h' : Block program text S second b) :
    Block program text (fun i j => R i j ∨ S i j) a b where
  sound n i haccepts := by
    obtain ⟨m, rfl, hm | hm⟩ := (accepts_forkTo hinstr).1 haccepts
    · obtain ⟨j, hR, l, hl, hrest⟩ := h.sound m i hm
      exact ⟨j, .inl hR, l, Nat.le_succ_of_le hl, hrest⟩
    · obtain ⟨j, hS, l, hl, hrest⟩ := h'.sound m i hm
      exact ⟨j, .inr hS, l, Nat.le_succ_of_le hl, hrest⟩
  complete i j n := by
    rintro (hR | hS) haccepts
    · obtain ⟨m, hm⟩ := h.complete i j n hR haccepts
      exact ⟨m + 1, (accepts_forkTo hinstr).2 ⟨m, rfl, .inl hm⟩⟩
    · obtain ⟨m, hm⟩ := h'.complete i j n hS haccepts
      exact ⟨m + 1, (accepts_forkTo hinstr).2 ⟨m, rfl, .inr hm⟩⟩

/-- **A part with a fork back to its start behind it** matches one or more times in a row.

**Proof sketch.** A way that accepts is cut at the fork. It got shorter there, so what is left of it
after the fork back is a shorter way of the same kind. -/
lemma loop {greedy : Bool} (hinstr : program[b]? = some (Expr.forkTo greedy a (b + 1)))
    (h : Block program text R a b) :
    Block program text (fun i j => ∃ n, Times R (n + 1) i j) a (b + 1) where
  sound n := by
    induction n using Nat.strong_induction_on with
    | _ n ih =>
      intro i haccepts
      obtain ⟨j, hR, m, hm, hback⟩ := h.sound n i haccepts
      obtain ⟨l, rfl, hagain | hleave⟩ := (accepts_forkTo hinstr).1 hback
      · obtain ⟨k, ⟨count, htimes⟩, l', hl', hrest⟩ := ih l (by omega) j hagain
        exact ⟨k, ⟨count + 1, j, hR, htimes⟩, l', by omega, hrest⟩
      · exact ⟨j, ⟨0, j, hR, rfl⟩, l, by omega, hleave⟩
  complete i k n := by
    rintro ⟨count, htimes⟩ haccepts
    induction count generalizing i with
    | zero =>
      obtain ⟨j, hR, rfl⟩ := htimes
      exact h.complete i k (n + 1) hR ((accepts_forkTo hinstr).2 ⟨n, rfl, .inr haccepts⟩)
    | succ count ih =>
      obtain ⟨j, hR, htimes⟩ := htimes
      obtain ⟨m, hm⟩ := ih j htimes
      exact h.complete i j (m + 1) hR ((accepts_forkTo hinstr).2 ⟨m, rfl, .inl hm⟩)

end Block

/-! ### Repetitions -/

section Repetition

variable {body : Nat → List Instr} {length : Nat}

/-- The copies of a body take its length each. -/
lemma length_copies (hlength : ∀ s, (body s).length = length) (n start : Nat) :
    (Expr.copies body n start).length = n * length := by
  induction n generalizing start with
  | zero => simp [Expr.copies]
  | succ n ih =>
    rw [Expr.copies, List.length_append, ih, hlength, Nat.succ_mul, Nat.add_comm]

/-- The options of a body take its length and a fork each. -/
lemma length_options (hlength : ∀ s, (body s).length = length) (greedy : Bool)
    (exit n start : Nat) :
    (Expr.options body greedy exit n start).length = n * (length + 1) := by
  induction n generalizing start with
  | zero => simp [Expr.options]
  | succ n ih =>
    rw [Expr.options, List.length_append, List.length_cons, ih, hlength, Nat.succ_mul,
      Nat.add_comm]

/-- A loop takes the length of its body and a fork. -/
lemma length_loop (hlength : ∀ s, (body s).length = length) (greedy : Bool) (start : Nat) :
    (Expr.loop body greedy start).length = length + 1 := by
  rw [Expr.loop, List.length_append, hlength, List.length_singleton]

/-- The code of a repetition takes the room that `Expr.codeLength` says. -/
lemma length_repeated (hlength : ∀ s, (body s).length = length) (least : Nat) (most : Option Nat)
    (greedy : Bool) (start : Nat) :
    (Expr.repeated body length least most greedy start).length =
      match most with
      | none => if least = 0 then length + 2 else least * length + 1
      | some most => least * length + (most - least) * (length + 1) := by
  fun_cases Expr.repeated body length least most greedy start with
  | case1 =>
    rw [List.length_cons, length_loop hlength]
    rfl
  | case2 n =>
    rw [List.length_append, length_loop hlength, length_copies hlength, if_neg n.succ_ne_zero,
      Nat.succ_mul, Nat.add_assoc]
  | case3 most => rw [List.length_append, length_copies hlength, length_options hlength]

variable (hlength : ∀ s, (body s).length = length)
  (hbody : ∀ s, Placed program s (body s) → Block program text R s (s + length))

include hlength hbody

/-- Copies of a body match as often as there are copies. -/
lemma Block.copies {n start : Nat} (h : Placed program start (Expr.copies body n start)) :
    Block program text (Times R n) start (start + n * length) := by
  induction n generalizing start with
  | zero =>
    rw [Nat.zero_mul]
    exact Block.nothing.of_iff fun _ _ => Iff.rfl
  | succ n ih =>
    obtain ⟨hfirst, hrest⟩ := placed_append.1 h
    rw [hlength] at hrest
    have hstop : start + length + n * length = start + (n + 1) * length := by
      rw [Nat.succ_mul, Nat.add_assoc, Nat.add_comm length]
    rw [← hstop]
    exact (hbody start hfirst).seq (ih hrest)

/-- **Options of a body** match as often as there are options, or less often. -/
lemma Block.options {greedy : Bool} {n start exit : Nat}
    (h : Placed program start (Expr.options body greedy exit n start))
    (hexit : exit = start + n * (length + 1)) :
    Block program text (fun i j => ∃ k ≤ n, Times R k i j) start exit := by
  induction n generalizing start with
  | zero =>
    obtain rfl : exit = start := by simpa using hexit
    exact Block.nothing.of_iff (by simp)
  | succ n ih =>
    obtain ⟨hfork, hrest⟩ := placed_append.1 h
    obtain ⟨hfork, hfirst⟩ := placed_cons.1 hfork
    rw [List.length_cons, hlength, Nat.add_comm length 1, ← Nat.add_assoc] at hrest
    have hmore := ih hrest (by rw [hexit, Nat.succ_mul]; omega)
    refine (Block.choice hfork ((hbody _ hfirst).seq hmore) Block.nothing).of_iff fun i j => ?_
    constructor
    · rintro ⟨k, hk, htimes⟩
      cases k with
      | zero => exact .inr htimes
      | succ k =>
        obtain ⟨l, hR, htimes⟩ := htimes
        exact .inl ⟨l, hR, k, Nat.le_of_succ_le_succ hk, htimes⟩
    · rintro (⟨l, hR, k, hk, htimes⟩ | rfl)
      · exact ⟨k + 1, Nat.succ_le_succ hk, l, hR, htimes⟩
      · exact ⟨0, Nat.zero_le _, rfl⟩

/-- A loop matches its body once or more often. -/
lemma Block.placedLoop {greedy : Bool} {start : Nat}
    (h : Placed program start (Expr.loop body greedy start)) :
    Block program text (fun i j => ∃ n, Times R (n + 1) i j) start (start + length + 1) := by
  obtain ⟨honce, hfork⟩ := placed_append.1 h
  obtain ⟨hfork, -⟩ := placed_cons.1 hfork
  rw [hlength] at hfork
  exact Block.loop hfork (hbody start honce)

/-- **The code of a repetition** matches its body as often as the bounds allow.

**Proof sketch.** Without an upper bound, the copies of the body are followed by a loop, or there is
only a loop behind a fork. With an upper bound they are followed by the copies that may be left out.
In each case the number of repetitions is cut at the lower bound. -/
lemma Block.repeated {least : Nat} {most : Option Nat} {greedy : Bool} {start : Nat}
    (h : Placed program start (Expr.repeated body length least most greedy start)) :
    Block program text (fun i j => ∃ n, least ≤ n ∧ (∀ m ∈ most, n ≤ max least m) ∧ Times R n i j)
      start (start + (Expr.repeated body length least most greedy start).length) := by
  rw [length_repeated hlength]
  cases most with
  | none =>
    cases least with
    | zero =>
      obtain ⟨hfork, hloop⟩ := placed_cons.1 h
      rw [length_loop hlength, ← Nat.add_assoc] at hfork
      have hbetween := Block.choice hfork (Block.placedLoop hlength hbody hloop) Block.nothing
      rw [if_pos rfl, show start + (length + 2) = start + 1 + length + 1 by omega]
      refine hbetween.of_iff fun i j => ?_
      constructor
      · rintro ⟨n, -, -, htimes⟩
        cases n with
        | zero => exact .inr htimes
        | succ n => exact .inl ⟨n, htimes⟩
      · rintro (⟨n, htimes⟩ | rfl)
        · exact ⟨n + 1, by simp, by simp, htimes⟩
        · exact ⟨0, by simp, by simp, rfl⟩
    | succ least =>
      obtain ⟨hcopies, hloop⟩ := placed_append.1 h
      rw [length_copies hlength] at hloop
      have hboth := (Block.copies hlength hbody hcopies).seq
        (Block.placedLoop hlength hbody hloop)
      rw [if_neg least.succ_ne_zero, Nat.succ_mul, ← Nat.add_assoc, ← Nat.add_assoc]
      refine hboth.of_iff fun i k => ?_
      constructor
      · rintro ⟨n, hn, -, htimes⟩
        obtain ⟨m, rfl⟩ := Nat.exists_eq_add_of_le hn
        rw [Nat.add_assoc, Nat.add_comm 1] at htimes
        obtain ⟨j, hij, hjk⟩ := times_add.1 htimes
        exact ⟨j, hij, m, hjk⟩
      · rintro ⟨j, hij, m, hjk⟩
        exact ⟨least + (m + 1), by omega, by simp, times_add.2 ⟨j, hij, hjk⟩⟩
  | some most =>
    obtain ⟨hcopies, hoptions⟩ := placed_append.1 h
    rw [length_copies hlength] at hoptions
    have hboth := (Block.copies hlength hbody hcopies).seq
      (Block.options hlength hbody hoptions rfl)
    rw [← Nat.add_assoc]
    refine hboth.of_iff fun i k => ?_
    constructor
    · rintro ⟨n, hn, hmost, htimes⟩
      have hle := hmost most rfl
      obtain ⟨m, rfl⟩ := Nat.exists_eq_add_of_le hn
      obtain ⟨j, hij, hjk⟩ := times_add.1 htimes
      exact ⟨j, hij, m, by omega, hjk⟩
    · rintro ⟨j, hij, m, hm, hjk⟩
      refine ⟨least + m, by omega, ?_, times_add.2 ⟨j, hij, hjk⟩⟩
      rintro _ ⟨⟩
      omega

end Repetition

/-! ### Expressions -/

/-- The code of an expression takes the room that `Expr.codeLength` says. -/
lemma length_code (e : Expr) (start : Nat) : (e.code start).length = e.codeLength := by
  induction e generalizing start with
  | empty => rfl
  | chars set => rfl
  | look kind => rfl
  | seq e f he hf => rw [Expr.code, List.length_append, he, hf, Expr.codeLength]
  | alt e f he hf =>
    simp only [Expr.code, List.length_append, List.length_cons, he, hf, Expr.codeLength]
    omega
  | repetition least most greedy body ih =>
    cases most <;> rw [Expr.code, length_repeated ih, Expr.codeLength]
  | capture index body ih =>
    simp only [Expr.code, List.length_append, List.length_cons, ih, Expr.codeLength]
    rfl

section Layout

variable {e f : Expr} {start index : Nat}

/-- Where the code of a choice ends. -/
lemma add_codeLength_alt :
    start + (Expr.alt e f).codeLength = start + 2 + e.codeLength + f.codeLength := by
  rw [Expr.codeLength]
  omega

/-- Where the code of a group ends. -/
lemma add_codeLength_capture :
    start + (Expr.capture index e).codeLength = start + 1 + e.codeLength + 1 := by
  rw [Expr.codeLength]
  omega

/-- The code of a sequence is that of its first part and then that of its second. -/
lemma placed_seq (h : Placed program start ((Expr.seq e f).code start)) :
    Placed program start (e.code start) ∧
      Placed program (start + e.codeLength) (f.code (start + e.codeLength)) := by
  obtain ⟨hfirst, hsecond⟩ := placed_append.1 h
  rw [length_code] at hsecond
  exact ⟨hfirst, hsecond⟩

/-- The code of a choice is a fork, its first option, a jump to the end and its second option. -/
lemma placed_alt (h : Placed program start ((Expr.alt e f).code start)) :
    program[start]? = some (Expr.forkTo true (start + 1) (start + 2 + e.codeLength)) ∧
      Placed program (start + 1) (e.code (start + 1)) ∧
      program[start + 1 + e.codeLength]? =
        some (.jump (start + 2 + e.codeLength + f.codeLength)) ∧
      Placed program (start + 2 + e.codeLength) (f.code (start + 2 + e.codeLength)) := by
  obtain ⟨hfork, hjump⟩ := placed_append.1 h
  obtain ⟨hfork, hfirst⟩ := placed_cons.1 hfork
  obtain ⟨hjump, hsecond⟩ := placed_cons.1 hjump
  simp only [List.length_cons, length_code] at hfork hjump hsecond
  have hmiddle : start + (e.codeLength + 1) = start + 1 + e.codeLength := by omega
  have hother : start + 1 + e.codeLength + 1 = start + 2 + e.codeLength := by omega
  rw [hmiddle] at hjump
  rw [hmiddle, hother] at hsecond
  exact ⟨hfork, hfirst, hjump, hsecond⟩

/-- The code of a group is a note, its body and another note. -/
lemma placed_capture (h : Placed program start ((Expr.capture index e).code start)) :
    program[start]? = some (.note (2 * index)) ∧ Placed program (start + 1) (e.code (start + 1)) ∧
      program[start + 1 + e.codeLength]? = some (.note (2 * index + 1)) := by
  obtain ⟨hopen, hclose⟩ := placed_append.1 h
  obtain ⟨hopen, hbody⟩ := placed_cons.1 hopen
  obtain ⟨hclose, -⟩ := placed_cons.1 hclose
  simp only [List.length_cons, length_code] at hclose
  rw [show start + (e.codeLength + 1) = start + 1 + e.codeLength by omega] at hclose
  exact ⟨hopen, hbody, hclose⟩

end Layout

/-- **The code of an expression matches what the expression matches.**

**Proof sketch.** Induction on the expression. Each kind of expression is put together from the code
of its parts, with forks, jumps and notes between them. -/
lemma Block.code {e : Expr} {start : Nat} (h : Placed program start (e.code start)) :
    Block program text (e.Matches text) start (start + e.codeLength) := by
  induction e generalizing start with
  | empty => exact Block.nothing
  | chars set =>
    refine Block.one (placed_cons.1 h).1 (by simp) fun i a' j => ?_
    simp only [Instr.Leads, Expr.Matches]
    constructor
    · rintro ⟨c, hc, hset, ha, hj⟩
      exact ⟨ha, c, hc, hset, hj⟩
    · rintro ⟨ha, c, hc, hset, hj⟩
      exact ⟨c, hc, hset, ha, hj⟩
  | look kind =>
    exact Block.one (placed_cons.1 h).1 (by simp) fun i a' j => and_left_comm
  | seq e f he hf =>
    obtain ⟨hfirst, hsecond⟩ := placed_seq h
    rw [Expr.codeLength, ← Nat.add_assoc]
    exact (he hfirst).seq (hf hsecond)
  | alt e f he hf =>
    obtain ⟨hfork, hfirst, hjump, hsecond⟩ := placed_alt h
    have hleft := (he hfirst).seq (Block.jump hjump)
    rw [add_codeLength_alt]
    exact (Block.choice hfork hleft (hf hsecond)).of_iff (by simp [Expr.Matches])
  | repetition least most greedy body ih =>
    rw [← length_code _ start]
    exact Block.repeated (length_code body) (fun _ => ih) h
  | capture index body ih =>
    obtain ⟨hopen, hbody, hclose⟩ := placed_capture h
    have hnote : ∀ {a slot}, program[a]? = some (.note slot) →
        Block program text (fun i j => j = i) a (a + 1) := fun hinstr =>
      Block.one hinstr (by simp) (by simp [Instr.Leads])
    rw [add_codeLength_capture]
    exact (((hnote hopen).seq (ih hbody)).seq (hnote hclose)).of_iff (by simp [Expr.Matches])

/-! ### Regular expressions -/

/-- The program of an expression is the code of its group zero and an instruction that accepts. -/
lemma placed_program (e : Expr) :
    Placed e.program.toArray 0 ((Expr.capture 0 e).code 0) ∧
      e.program.toArray[0 + (Expr.capture 0 e).codeLength]? = some .accept := by
  have hplaced : Placed e.program.toArray 0 ((Expr.capture 0 e).code 0 ++ [.accept]) := by
    intro k instr hk
    rw [Nat.zero_add, List.getElem?_toArray]
    exact hk
  obtain ⟨hcode, haccept⟩ := placed_append.1 hplaced
  obtain ⟨haccept, -⟩ := placed_cons.1 haccept
  rw [length_code] at haccept
  exact ⟨hcode, haccept⟩

/-- The program of an expression accepts from a position just if the expression matches from it. -/
lemma accepts_program_iff {e : Expr} {i : Nat} :
    (∃ n, Accepts e.program.toArray text n 0 i) ↔ ∃ j, e.Matches text i j := by
  obtain ⟨hcode, haccept⟩ := placed_program e
  have hblock : Block e.program.toArray text _ 0 _ := Block.code hcode
  constructor
  · rintro ⟨n, hn⟩
    obtain ⟨j, hmatches, -⟩ := hblock.sound n i hn
    exact ⟨j, hmatches⟩
  · rintro ⟨j, hmatches⟩
    exact hblock.complete i j 0 hmatches (.done haccept)

/-- **What a regular expression matches.** The program of an expression is found in a text just if
the expression matches some part of the text. -/
lemma isMatch_iff {e : Expr} {text : List Char} :
    Regex.isMatch ⟨e, e.program.toArray⟩ text = true ↔
      ∃ i ≤ text.length, ∃ j, e.Matches text.toArray i j := by
  rw [Regex.isMatch, search_isSome_iff, List.size_toArray]
  simp only [accepts_program_iff]

end ImportAtlas.Regex
