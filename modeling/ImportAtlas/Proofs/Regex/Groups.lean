import ImportAtlas.Proofs.Regex.Program

/-!
# Groups lie in the text

The text of a group is cut out between two positions that the search noted, and these are two places
of the text in the right order. That the start of a group is not noted behind its end rests on how a
program is laid out: the code of a group stands between its two notes, and no way leads out of that
code but through the second one. So a thread that noted the start of a group again, and not its end
since, is still in the code of that group, and there it cannot accept.

## Main definitions

* `ImportAtlas.Regex.span?`: the two positions of a group.
* `ImportAtlas.Regex.Instr.Within`: an instruction leads to a range of addresses.
* `ImportAtlas.Regex.Closed`: a part of a program is left only at its end.
* `ImportAtlas.Regex.Orderly`: in a part of a program, the start of a group is followed by its code.
* `ImportAtlas.Regex.Thread.Settled`: the invariant of a search.

## Main results

* `ImportAtlas.Regex.Orderly.code`: the code of an expression is orderly.
* `ImportAtlas.Regex.Thread.Settled.step`: an instruction keeps the invariant.
* `ImportAtlas.Regex.span?_le`: the two positions of a group lie in the text, one not behind the
  other.
-/

namespace ImportAtlas.Regex

variable {program : Array Instr} {text : Array Char} {lo hi a b c : Nat}

/-- The two positions of a group in the match that counts, if the group took part in it. -/
def span? (r : Regex) (index : Nat) (text : List Char) : Option (Nat × Nat) := do
  let notes ← search r.program text.toArray
  return (← notes.lookup (2 * index), ← notes.lookup (2 * index + 1))

/-- The text of a group is what stands between its two positions. -/
lemma group?_eq (r : Regex) (index : Nat) (text : List Char) :
    r.group? index text = (r.span? index text).map fun p => slice text p.1 p.2 := by
  simp [group?, span?, Option.map_bind]

/-! ### Parts of a program -/

/-- Two instructions that differ stand at different addresses. -/
lemma lt_of_instr_ne {instr other : Instr} (hle : a ≤ b) (ha : program[a]? = some instr)
    (hb : program[b]? = some other) (hne : instr ≠ other) : a < b := by
  refine lt_of_le_of_ne hle ?_
  rintro rfl
  exact hne (Option.some.inj (ha.symm.trans hb))

/-- An instruction names no address out of a range, and does not accept. -/
def Instr.Within (lo hi : Nat) : Instr → Prop
  | .fork first second => (lo ≤ first ∧ first ≤ hi) ∧ lo ≤ second ∧ second ≤ hi
  | .jump target => lo ≤ target ∧ target ≤ hi
  | .accept => False
  | _ => True

/-- A wider range serves as well. -/
lemma Instr.Within.mono {instr : Instr} {lo' hi' : Nat} (h : instr.Within lo hi) (hlo : lo' ≤ lo)
    (hhi : hi ≤ hi') : instr.Within lo' hi' := by
  cases instr <;> simp only [Within] at h ⊢ <;> omega

/-- The part of a program from one address up to another one is left only at its end. -/
def Closed (program : Array Instr) (lo hi : Nat) : Prop :=
  ∀ k, lo ≤ k → k < hi → ∃ instr, program[k]? = some instr ∧ instr.Within lo hi

/-- No way leads out of a closed part but to its end. -/
lemma Closed.leads {instr : Instr} {a' i i' : Nat} (h : Closed program lo hi) (hlo : lo ≤ a)
    (hhi : a < hi) (hinstr : program[a]? = some instr) (hleads : instr.Leads text a i a' i') :
    lo ≤ a' ∧ a' ≤ hi := by
  obtain ⟨other, hother, hwithin⟩ := h a hlo hhi
  obtain rfl := Option.some.inj (hinstr.symm.trans hother)
  cases instr <;> simp only [Instr.Leads, Instr.Within] at hleads hwithin <;> omega

/-- The instructions from one address up to another one lead to a range of addresses, and behind a
note of the start of a group stands its code, closed, and then the note of its end. -/
def Orderly (program : Array Instr) (lo hi a b : Nat) : Prop :=
  ∀ k, a ≤ k → k < b → ∃ instr, program[k]? = some instr ∧ instr.Within lo hi ∧
    ∀ index, instr = .note (2 * index) →
      ∃ last > k, Closed program (k + 1) last ∧ program[last]? = some (.note (2 * index + 1))

namespace Orderly

/-- An orderly part that leads to itself is closed. -/
lemma closed (h : Orderly program lo hi lo hi) : Closed program lo hi := by
  intro k hlo hhi
  obtain ⟨instr, hinstr, hwithin, -⟩ := h k hlo hhi
  exact ⟨instr, hinstr, hwithin⟩

/-- A wider range serves as well. -/
lemma mono {lo' hi' : Nat} (h : Orderly program lo hi a b) (hlo : lo' ≤ lo) (hhi : hi ≤ hi') :
    Orderly program lo' hi' a b := by
  intro k ha hb
  obtain ⟨instr, hinstr, hwithin, hgroup⟩ := h k ha hb
  exact ⟨instr, hinstr, hwithin.mono hlo hhi, hgroup⟩

/-- The part without instructions. -/
lemma nothing : Orderly program lo hi a a := fun _ ha hb => absurd (ha.trans_lt hb) (lt_irrefl a)

/-- A part of one instruction that does not note the start of a group. -/
lemma one {instr : Instr} (hinstr : program[a]? = some instr) (hwithin : instr.Within lo hi)
    (hnote : ∀ index, instr ≠ .note (2 * index)) : Orderly program lo hi a (a + 1) := by
  intro k ha hb
  obtain rfl : k = a := by omega
  exact ⟨instr, hinstr, hwithin, fun index hindex => absurd hindex (hnote index)⟩

/-- One part and then another. -/
lemma append (h : Orderly program lo hi a b) (h' : Orderly program lo hi b c) :
    Orderly program lo hi a c := by
  intro k ha hc
  rcases Nat.lt_or_ge k b with hb | hb
  · exact h k ha hb
  · exact h' k hb hc

/-- Two parts one behind the other, each of which leads to itself. -/
lemma seq (h : Orderly program a b a b) (h' : Orderly program b c b c) (hab : a ≤ b)
    (hbc : b ≤ c) : Orderly program a c a c :=
  (h.mono le_rfl hbc).append (h'.mono hab le_rfl)

/-- A fork of a repetition. -/
lemma forkTo {greedy : Bool} {body exit : Nat}
    (hinstr : program[a]? = some (Expr.forkTo greedy body exit)) (hbody : lo ≤ body ∧ body ≤ hi)
    (hexit : lo ≤ exit ∧ exit ≤ hi) : Orderly program lo hi a (a + 1) := by
  refine one hinstr ?_ fun index => ?_
  · cases greedy
    · exact ⟨hexit, hbody⟩
    · exact ⟨hbody, hexit⟩
  · cases greedy <;> simp [Expr.forkTo]

end Orderly

/-! ### Repetitions -/

section Repetition

variable {body : Nat → List Instr} {length : Nat} (hlength : ∀ s, (body s).length = length)
  (hbody : ∀ s, Placed program s (body s) → Orderly program s (s + length) s (s + length))

include hlength hbody

/-- Copies of an orderly body are orderly. -/
lemma Orderly.copies {n start : Nat} (h : Placed program start (Expr.copies body n start)) :
    Orderly program start (start + n * length) start (start + n * length) := by
  induction n generalizing start with
  | zero =>
    rw [Nat.zero_mul]
    exact nothing
  | succ n ih =>
    obtain ⟨hfirst, hrest⟩ := placed_append.1 h
    rw [hlength] at hrest
    have hstop : start + (n + 1) * length = start + length + n * length := by
      rw [Nat.succ_mul]
      omega
    rw [hstop]
    exact (hbody start hfirst).seq (ih hrest) (by omega) (by omega)

/-- Options of an orderly body are orderly. -/
lemma Orderly.options {greedy : Bool} {n start exit : Nat}
    (h : Placed program start (Expr.options body greedy exit n start))
    (hexit : exit = start + n * (length + 1)) : Orderly program start exit start exit := by
  induction n generalizing start with
  | zero =>
    obtain rfl : exit = start := by simpa using hexit
    exact nothing
  | succ n ih =>
    obtain ⟨hfork, hrest⟩ := placed_append.1 h
    obtain ⟨hfork, hfirst⟩ := placed_cons.1 hfork
    rw [List.length_cons, hlength, Nat.add_comm length 1, ← Nat.add_assoc] at hrest
    rw [Nat.succ_mul] at hexit
    have hmore := ih hrest (by omega)
    have hboth := (hbody _ hfirst).seq hmore (by omega) (by omega)
    exact (Orderly.forkTo hfork ⟨by omega, by omega⟩ ⟨by omega, le_rfl⟩).append
      (hboth.mono (by omega) le_rfl)

/-- A loop over an orderly body is orderly. -/
lemma Orderly.loop {greedy : Bool} {start : Nat}
    (h : Placed program start (Expr.loop body greedy start)) :
    Orderly program start (start + length + 1) start (start + length + 1) := by
  obtain ⟨honce, hfork⟩ := placed_append.1 h
  obtain ⟨hfork, -⟩ := placed_cons.1 hfork
  rw [hlength] at hfork
  exact ((hbody start honce).mono le_rfl (by omega)).append
    (Orderly.forkTo hfork ⟨le_rfl, by omega⟩ ⟨by omega, le_rfl⟩)

/-- **The code of a repetition** of an orderly body is orderly.

**Proof sketch.** Without an upper bound, the copies of the body are followed by a loop, or there is
only a loop behind a fork. With an upper bound they are followed by the copies that may be left out.
-/
lemma Orderly.repeated {least : Nat} {most : Option Nat} {greedy : Bool} {start : Nat}
    (h : Placed program start (Expr.repeated body length least most greedy start)) :
    Orderly program start (start + (Expr.repeated body length least most greedy start).length)
      start (start + (Expr.repeated body length least most greedy start).length) := by
  rw [length_repeated hlength]
  cases most with
  | none =>
    cases least with
    | zero =>
      obtain ⟨hfork, hloop⟩ := placed_cons.1 h
      rw [length_loop hlength, ← Nat.add_assoc] at hfork
      have hrest := Orderly.loop hlength hbody hloop
      rw [if_pos rfl, show start + (length + 2) = start + 1 + length + 1 by omega]
      exact (Orderly.forkTo hfork ⟨by omega, by omega⟩ ⟨by omega, le_rfl⟩).append
        (hrest.mono (by omega) le_rfl)
    | succ least =>
      obtain ⟨hcopies, hloop⟩ := placed_append.1 h
      rw [length_copies hlength] at hloop
      have hboth := (Orderly.copies hlength hbody hcopies).seq (Orderly.loop hlength hbody hloop)
        (by omega) (by omega)
      rw [if_neg least.succ_ne_zero, Nat.succ_mul, ← Nat.add_assoc, ← Nat.add_assoc]
      exact hboth
  | some most =>
    obtain ⟨hcopies, hoptions⟩ := placed_append.1 h
    rw [length_copies hlength] at hoptions
    have hboth := (Orderly.copies hlength hbody hcopies).seq
      (Orderly.options hlength hbody hoptions rfl) (by omega) (by omega)
    rw [← Nat.add_assoc]
    exact hboth

end Repetition

/-! ### Expressions -/

/-- **The code of an expression is orderly.**

**Proof sketch.** Induction on the expression. The jumps of a choice stay in its code. A group has
the start in front of its body and the end behind it, and the body is closed, so that a note of the
start is followed by a note of the end. -/
lemma Orderly.code {e : Expr} {start : Nat} (h : Placed program start (e.code start)) :
    Orderly program start (start + e.codeLength) start (start + e.codeLength) := by
  induction e generalizing start with
  | empty => exact nothing
  | chars set => exact one (placed_cons.1 h).1 trivial (by simp)
  | look kind => exact one (placed_cons.1 h).1 trivial (by simp)
  | seq e f he hf =>
    obtain ⟨hfirst, hsecond⟩ := placed_seq h
    rw [Expr.codeLength, ← Nat.add_assoc]
    exact (he hfirst).seq (hf hsecond) (by omega) (by omega)
  | alt e f he hf =>
    obtain ⟨hfork, hfirst, hjump, hsecond⟩ := placed_alt h
    rw [add_codeLength_alt]
    have hbegin : Orderly program start (start + 2 + e.codeLength + f.codeLength) start
        (start + 1) := forkTo hfork ⟨by omega, by omega⟩ ⟨by omega, by omega⟩
    have hleft := (he hfirst).mono (Nat.le_succ start)
      (show _ ≤ start + 2 + e.codeLength + f.codeLength by omega)
    have hover : Orderly program start (start + 2 + e.codeLength + f.codeLength)
        (start + 1 + e.codeLength) (start + 1 + e.codeLength + 1) :=
      one hjump ⟨by omega, le_rfl⟩ (by simp)
    rw [show start + 1 + e.codeLength + 1 = start + 2 + e.codeLength by omega] at hover
    have hright := (hf hsecond).mono (show start ≤ _ by omega) le_rfl
    exact ((hbegin.append hleft).append hover).append hright
  | repetition least most greedy body ih =>
    rw [← length_code _ start]
    exact Orderly.repeated (length_code body) (fun _ => ih) h
  | capture index body ih =>
    -- Only here does the start of a group stand in the code, with the body and its end behind it.
    obtain ⟨hopen, hbody, hclose⟩ := placed_capture h
    rw [add_codeLength_capture]
    have hinner := ih hbody
    have hbegin : Orderly program start (start + 1 + body.codeLength + 1) start (start + 1) := by
      intro k ha hb
      obtain rfl : k = start := by omega
      refine ⟨_, hopen, trivial, fun other hother => ?_⟩
      obtain rfl : index = other := Nat.eq_of_mul_eq_mul_left Nat.two_pos (Instr.note.inj hother)
      exact ⟨_, by omega, hinner.closed, hclose⟩
    have hend : Orderly program start (start + 1 + body.codeLength + 1)
        (start + 1 + body.codeLength) (start + 1 + body.codeLength + 1) :=
      one hclose trivial fun other hother => by
        have hslot := Instr.note.inj hother
        omega
    exact (hbegin.append (hinner.mono (by omega) (by omega))).append hend

/-- Behind a note of the start of a group, wherever it is in the program of an expression, stands
the code of the group. -/
lemma exists_end_of_start {e : Expr} {index : Nat}
    (h : e.program.toArray[a]? = some (.note (2 * index))) :
    ∃ last > a, Closed e.program.toArray (a + 1) last ∧
      e.program.toArray[last]? = some (.note (2 * index + 1)) := by
  obtain ⟨hcode, haccept⟩ := placed_program e
  have hle : a ≤ 0 + (Expr.capture 0 e).codeLength := by
    obtain ⟨hlt, -⟩ := Array.getElem?_eq_some_iff.1 h
    rw [List.size_toArray, Expr.program, List.length_append, length_code] at hlt
    simpa using Nat.le_of_lt_succ hlt
  have hlt := lt_of_instr_ne hle h haccept (by simp)
  obtain ⟨instr, hinstr, -, hgroup⟩ := Orderly.code hcode a (Nat.zero_le a) hlt
  exact hgroup index (Option.some.inj (hinstr.symm.trans h))

/-! ### Threads -/

/-- What a thread noted is no position behind its own. And of each group the start is noted at no
position behind the end, unless the thread is in the code of the group. -/
structure Thread.Settled (program : Array Instr) (text : Array Char) (t : Thread) : Prop where
  /-- The thread is in the text. -/
  pos_le : t.pos ≤ text.size
  /-- It has not gone back. -/
  notes_le : ∀ slot pos, t.notes.lookup slot = some pos → pos ≤ t.pos
  /-- The start and the end of a group. -/
  groups : ∀ index first last, t.notes.lookup (2 * index) = some first →
    t.notes.lookup (2 * index + 1) = some last → first ≤ last ∨
      ∃ lo hi, (lo ≤ t.address ∧ t.address ≤ hi) ∧ Closed program lo hi ∧
        program[hi]? = some (.note (2 * index + 1))

variable {t t' : Thread} {instr : Instr}

/-- An instruction that makes no note keeps the notes, and none goes back in the text. -/
lemma Thread.notes_eq_of_mem_step (hnote : ∀ slot, instr ≠ .note slot)
    (hmem : t' ∈ t.step text instr) : t'.notes = t.notes ∧ t.pos ≤ t'.pos := by
  cases instr with
  | note slot => exact absurd rfl (hnote slot)
  | fork first second => rcases List.mem_pair.1 hmem with rfl | rfl <;> exact ⟨rfl, le_rfl⟩
  | take set => grind [step]
  | ask kind => grind [step]
  | jump target => grind [step]
  | accept => cases hmem

namespace Thread.Settled

/-- A thread that goes on without a note stays settled. -/
lemma step_of_ne_note (h : t.Settled program text) (hinstr : program[t.address]? = some instr)
    (hnote : ∀ slot, instr ≠ .note slot) (hmem : t' ∈ t.step text instr) :
    t'.Settled program text := by
  obtain ⟨hnotes, hpos⟩ := Thread.notes_eq_of_mem_step hnote hmem
  refine ⟨t.pos_le_of_mem_step h.pos_le hmem, fun slot pos hslot => ?_,
    fun index first last hfirst hlast => ?_⟩
  · exact (h.notes_le slot pos (hnotes ▸ hslot)).trans hpos
  · rw [hnotes] at hfirst hlast
    refine (h.groups index first last hfirst hlast).imp id ?_
    rintro ⟨lo, hi, ⟨hlo, hhi⟩, hclosed, hend⟩
    -- The thread is not at the end of the group yet, where a note stands.
    have hlt := lt_of_instr_ne hhi hinstr hend (hnote _)
    have hleads := Thread.exists_mem_step_iff.1 ⟨t', hmem, rfl, rfl⟩
    exact ⟨lo, hi, hclosed.leads hlo hlt hinstr hleads, hclosed, hend⟩

/-- A thread that makes a note stays settled. The note of a start leads into the code of its group;
a note of an end is not behind any other note.

**Proof sketch.** The note of a start leads into the body of its group. The note of an end is at the
latest position so far, so the start noted before is not behind it. Any other note leaves the group
as it was, and does not lead out of its body, which only the end of the group does. -/
lemma note {slot : Nat} (h : t.Settled program text)
    (hinstr : program[t.address]? = some (.note slot))
    (hstart : ∀ index, slot = 2 * index → ∃ last > t.address,
      Closed program (t.address + 1) last ∧ program[last]? = some (.note (2 * index + 1))) :
    Thread.Settled program text ⟨t.address + 1, t.pos, (slot, t.pos) :: t.notes⟩ where
  pos_le := h.pos_le
  notes_le other pos hpos := by
    rw [List.lookup_cons] at hpos
    split at hpos
    · exact (Option.some.inj hpos).ge
    · exact h.notes_le other pos hpos
  groups index first last hfirst hlast := by
    simp only [List.lookup_cons] at hfirst hlast
    by_cases hopen : slot = 2 * index
    -- A start noted now may be behind an end of the repetition before, but the group is entered.
    · obtain ⟨last, hlt, hclosed, hend⟩ := hstart index hopen
      exact .inr ⟨t.address + 1, last, ⟨le_rfl, hlt⟩, hclosed, hend⟩
    rw [beq_eq_false_iff_ne.2 (Ne.symm hopen)] at hfirst
    by_cases hclose : slot = 2 * index + 1
    · rw [beq_iff_eq.2 hclose.symm] at hlast
      obtain rfl := Option.some.inj hlast
      exact .inl (h.notes_le _ _ hfirst)
    rw [beq_eq_false_iff_ne.2 (Ne.symm hclose)] at hlast
    refine (h.groups index first last hfirst hlast).imp id ?_
    rintro ⟨lo, hi, ⟨hlo, hhi⟩, hclosed, hend⟩
    have hlt := lt_of_instr_ne hhi hinstr hend (hclose ∘ Instr.note.inj)
    exact ⟨lo, hi, ⟨Nat.le_succ_of_le hlo, hlt⟩, hclosed, hend⟩

/-- **An instruction keeps the invariant.** -/
lemma step {e : Expr} (h : t.Settled e.program.toArray text)
    (hinstr : e.program.toArray[t.address]? = some instr) (hmem : t' ∈ t.step text instr) :
    t'.Settled e.program.toArray text := by
  by_cases hnote : ∃ slot, instr = .note slot
  · obtain ⟨slot, rfl⟩ := hnote
    obtain rfl := List.mem_singleton.1 hmem
    refine h.note hinstr ?_
    rintro index rfl
    exact exists_end_of_start hinstr
  · exact h.step_of_ne_note hinstr (not_exists.1 hnote) hmem

/-- Where a thread accepts, no group is open. -/
lemma le_of_accept (h : t.Settled program text) (haccept : program[t.address]? = some .accept)
    {index first last : Nat} (hfirst : t.notes.lookup (2 * index) = some first)
    (hlast : t.notes.lookup (2 * index + 1) = some last) : first ≤ last := by
  refine (h.groups index first last hfirst hlast).resolve_right ?_
  rintro ⟨lo, hi, ⟨hlo, hhi⟩, hclosed, hend⟩
  have hlt := lt_of_instr_ne hhi haccept hend (by simp)
  obtain ⟨instr, hinstr, hwithin⟩ := hclosed _ hlo hlt
  obtain rfl := Option.some.inj (haccept.symm.trans hinstr)
  exact hwithin

end Thread.Settled

/-! ### Regular expressions -/

/-- A regular expression that was compiled runs the program of its expression. -/
lemma program_of_compile {source : List Char} {r : Regex} (h : compile source = .ok r) :
    r.program = r.expr.program.toArray := by
  unfold compile at h
  split at h
  · split at h
    · obtain rfl := Except.ok.inj h
      rfl
    · cases h
  · cases h

/-- **Groups lie in the text.** The two positions of a group in the match that counts are positions
of the text, and the first is not behind the second. -/
lemma span?_le {source text : List Char} {r : Regex} (h : compile source = .ok r)
    {index first last : Nat} (hspan : r.span? index text = some (first, last)) :
    first ≤ last ∧ last ≤ text.length := by
  have hprogram := program_of_compile h
  simp only [span?, bind, Option.bind_eq_some_iff, pure, Option.some.injEq, Prod.mk.injEq] at hspan
  obtain ⟨notes, hnotes, first', hfirst, last', hlast, rfl, rfl⟩ := hspan
  rw [hprogram] at hnotes
  have hstarts : ∀ t ∈ (List.range (text.toArray.size + 1)).map fun pos => (⟨0, pos, []⟩ : Thread),
      t.Settled r.expr.program.toArray text.toArray := by
    intro t ht
    obtain ⟨pos, hpos, rfl⟩ := List.mem_map.1 ht
    exact ⟨Nat.le_of_lt_succ (List.mem_range.1 hpos), by simp, by simp⟩
  obtain ⟨t, ht, haccept, rfl⟩ := searchFrom_some
    (fun t ht instr hinstr t' ht' => ht.step hinstr ht') hstarts hnotes
  exact ⟨ht.le_of_accept haccept hfirst hlast, (ht.notes_le _ _ hlast).trans ht.pos_le⟩

end ImportAtlas.Regex
