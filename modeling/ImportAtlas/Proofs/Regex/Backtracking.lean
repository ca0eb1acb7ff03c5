import ImportAtlas.Proofs.Regex.Search
import Mathlib.Logic.Relation

/-!
# A search and its memory

A search does not try a pair of positions twice. If trying a thread, with all that it leads to,
comes to an end by itself, then this makes no difference to the result: what was tried before either
has failed or is still under way, and a thread that is under way does not lead back to itself.

## Main definitions

* `ImportAtlas.Regex.Thread.Ends`: trying a thread without memory comes to an end.
* `ImportAtlas.Regex.Thread.outcome`: what it comes to.
* `ImportAtlas.Regex.Follows`: an instruction leads from one pair of positions to another.
* `ImportAtlas.Regex.Remembers`: the invariant by which the memory of a search does no harm.

## Main results

* `ImportAtlas.Regex.Thread.Ends.not_follows`: a thread that comes to an end does not come back.
* `ImportAtlas.Regex.searchFrom_eq`, `ImportAtlas.Regex.search_eq`: a search with memory has the
  result of the first thread that has one without it.
-/

namespace ImportAtlas.Regex

variable {program : Array Instr} {text : Array Char}

/-- The notes of a match, each with its number. -/
abbrev Notes := List (Nat × Nat)

/-! ### Without memory -/

/-- Trying a thread and all that it leads to, and trying nothing less because it was tried before,
comes to an end: with the notes of the first way that accepts, or with none. -/
inductive Thread.Ends (program : Array Instr) (text : Array Char) : Thread → Option Notes → Prop
  | off {t : Thread} (h : program[t.address]? = none) : Ends program text t none
  | accept {t : Thread} (h : program[t.address]? = some .accept) :
      Ends program text t (some t.notes)
  | step {t : Thread} {instr : Instr} {f : Thread → Option Notes}
      (hinstr : program[t.address]? = some instr) (hne : instr ≠ .accept)
      (h : ∀ t' ∈ t.step text instr, Ends program text t' (f t')) :
      Ends program text t ((t.step text instr).findSome? f)

/-- The first result of a list does not depend on what is no result of the list. -/
lemma findSome?_congr {α β : Type} {f g : α → Option β} {l : List α} (h : ∀ a ∈ l, f a = g a) :
    l.findSome? f = l.findSome? g := by
  induction l with
  | nil => rfl
  | cons a l ih =>
    obtain ⟨ha, hl⟩ := List.forall_mem_cons.1 h
    rw [List.findSome?_cons, List.findSome?_cons, ha, ih hl]

namespace Thread

variable {t : Thread} {r r' : Option Notes}

/-- A thread comes to one end only. -/
lemma Ends.unique (h : t.Ends program text r) (h' : t.Ends program text r') : r = r' := by
  induction h generalizing r' with
  | off h => cases h' <;> simp_all
  | accept h => cases h' <;> simp_all
  | step hinstr hne h ih =>
    cases h' with
    | off h' => simp_all
    | accept h' => simp_all
    | step hinstr' hne' h' =>
      obtain rfl := Option.some.inj (hinstr.symm.trans hinstr')
      exact findSome?_congr fun t' ht' => ih t' ht' (h' t' ht')

/-- A thread that comes to an end has a result just if some way from it accepts. -/
lemma Ends.isSome_iff (h : t.Ends program text r) :
    r.isSome = true ↔ ∃ n, Accepts program text n t.address t.pos := by
  induction h with
  | off h => simpa using fun n hn => hn.ne_none h
  | accept h => simpa using ⟨0, Accepts.done h⟩
  | @step t instr f hinstr hne h ih =>
    rw [List.findSome?_isSome_iff]
    constructor
    · rintro ⟨t', ht', hsome⟩
      obtain ⟨n, hn⟩ := (ih t' ht').1 hsome
      exact ⟨n + 1, .step hinstr (exists_mem_step_iff.1 ⟨t', ht', rfl, rfl⟩) hn⟩
    · rintro ⟨n, hn⟩
      obtain ⟨m, a', i', rfl, hleads, hm⟩ := hn.next hinstr hne
      obtain ⟨t', ht', rfl, rfl⟩ := exists_mem_step_iff.2 hleads
      exact ⟨t', ht', (ih t' ht').2 ⟨m, hm⟩⟩

open Classical in
/-- What a thread comes to without memory, if it comes to an end. -/
noncomputable def outcome (program : Array Instr) (text : Array Char) (t : Thread) : Option Notes :=
  if h : ∃ r, t.Ends program text r then h.choose else none

/-- The end that a thread comes to is its outcome. -/
lemma Ends.outcome_eq (h : t.Ends program text r) : t.outcome program text = r := by
  have hex : ∃ r, t.Ends program text r := ⟨r, h⟩
  rw [outcome, dif_pos hex]
  exact hex.choose_spec.unique h

end Thread

/-! ### No way back -/

/-- A pair of positions that an instruction leads to from another one. -/
def Follows (program : Array Instr) (text : Array Char) (q p : Nat × Nat) : Prop :=
  ∃ instr, program[p.1]? = some instr ∧ instr.Leads text p.1 p.2 q.1 q.2

/-- Where a thread comes to an end there is no endless way. -/
lemma Thread.Ends.acc {t : Thread} {r : Option Notes} (h : t.Ends program text r) :
    Acc (Follows program text) (t.address, t.pos) := by
  induction h with
  | off h =>
    refine Acc.intro _ ?_
    rintro q ⟨instr, hinstr, -⟩
    rw [h] at hinstr
    cases hinstr
  | accept h =>
    refine Acc.intro _ ?_
    rintro q ⟨instr, hinstr, hleads⟩
    rw [h] at hinstr
    obtain rfl := Option.some.inj hinstr
    exact hleads.elim
  | step hinstr hne h ih =>
    refine Acc.intro _ ?_
    rintro ⟨a, i⟩ ⟨instr, hinstr', hleads⟩
    obtain rfl := Option.some.inj (hinstr.symm.trans hinstr')
    obtain ⟨t', ht', rfl, rfl⟩ := Thread.exists_mem_step_iff.2 hleads
    exact ih t' ht'

/-- **A thread that comes to an end does not come back** to where it is. -/
lemma Thread.Ends.not_follows {t : Thread} {r : Option Notes} (h : t.Ends program text r) :
    ¬Relation.TransGen (Follows program text) (t.address, t.pos) (t.address, t.pos) := by
  intro hback
  have hacc := h.acc.transGen
  generalize (t.address, t.pos) = p at hback hacc
  induction hacc with
  | intro p _ ih => exact ih p hback hback

/-! ### With memory -/

/-- The invariant of a search whose threads come to an end. Of every pair of positions that was
tried before, what it leads to and is still to be tried comes next, and nothing else that it leads
to accepts. -/
def Remembers (program : Array Instr) (text : Array Char) (tried : Std.HashSet (Nat × Nat))
    (threads : List Thread) : Prop :=
  ∀ p, tried.contains p = true → ∃ pending rest, threads = pending ++ rest ∧
    (∀ t ∈ pending, Relation.TransGen (Follows program text) (t.address, t.pos) p) ∧
    ∀ n, Accepts program text n p.1 p.2 →
      ∃ t ∈ pending, ∃ m, Accepts program text m t.address t.pos

namespace Remembers

variable {tried : Std.HashSet (Nat × Nat)} {t : Thread} {rest : List Thread} {instr : Instr}

/-- A thread that was tried before and comes to an end does not accept. -/
lemma not_accepts (h : Remembers program text tried (t :: rest))
    (ht : tried.contains (t.address, t.pos) = true) {r : Option Notes}
    (hends : t.Ends program text r) (n : Nat) : ¬Accepts program text n t.address t.pos := by
  intro haccepts
  obtain ⟨pending, others, hsplit, hbelow, hfound⟩ := h _ ht
  obtain ⟨t', ht', -⟩ := hfound n haccepts
  obtain ⟨first, pending, rfl⟩ := List.exists_cons_of_ne_nil (List.ne_nil_of_mem ht')
  obtain ⟨rfl, -⟩ := List.cons.inj hsplit
  exact hends.not_follows (hbelow t List.mem_cons_self)

/-- A thread that does not accept can be left out. -/
lemma skip (h : Remembers program text tried (t :: rest))
    (ht : ∀ n, ¬Accepts program text n t.address t.pos) : Remembers program text tried rest := by
  intro p hp
  obtain ⟨pending, others, hsplit, hbelow, hfound⟩ := h p hp
  cases pending with
  | nil => exact ⟨[], rest, rfl, by simp, fun n hn => by simpa using hfound n hn⟩
  | cons first pending =>
    obtain ⟨rfl, rfl⟩ := List.cons.inj hsplit
    refine ⟨pending, others, rfl, (List.forall_mem_cons.1 hbelow).2, fun n hn => ?_⟩
    obtain ⟨t', ht', m, hm⟩ := hfound n hn
    rcases List.mem_cons.1 ht' with rfl | ht'
    · exact absurd hm (ht m)
    · exact ⟨t', ht', m, hm⟩

/-- Where an instruction has led on, the invariant is that of the threads that it leads to.

**Proof sketch.** The pair that is now tried has the threads of the instruction as its pending ones.
For a pair tried before, the thread that has run was among the pending ones, if there were any. It
is replaced by the threads of the instruction, which its ways to accept go through. -/
lemma step (h : Remembers program text tried (t :: rest))
    (hinstr : program[t.address]? = some instr) (hne : instr ≠ .accept) :
    Remembers program text (tried.insert (t.address, t.pos)) (t.step text instr ++ rest) := by
  have hfollows : ∀ t' ∈ t.step text instr,
      Follows program text (t'.address, t'.pos) (t.address, t.pos) := fun t' ht' =>
    ⟨instr, hinstr, Thread.exists_mem_step_iff.1 ⟨t', ht', rfl, rfl⟩⟩
  have hfrom : ∀ n, Accepts program text n t.address t.pos →
      ∃ t' ∈ t.step text instr, ∃ m, Accepts program text m t'.address t'.pos := by
    intro n hn
    obtain ⟨m, a', i', rfl, hleads, hm⟩ := hn.next hinstr hne
    obtain ⟨t', ht', rfl, rfl⟩ := Thread.exists_mem_step_iff.2 hleads
    exact ⟨t', ht', m, hm⟩
  intro p hp
  rw [Std.HashSet.contains_insert, Bool.or_eq_true, beq_iff_eq] at hp
  rcases hp with rfl | hp
  · exact ⟨t.step text instr, rest, rfl, fun t' ht' => .single (hfollows t' ht'), hfrom⟩
  obtain ⟨pending, others, hsplit, hbelow, hfound⟩ := h p hp
  cases pending with
  | nil => exact ⟨[], _, rfl, by simp, fun n hn => by simpa using hfound n hn⟩
  | cons first pending =>
    obtain ⟨rfl, rfl⟩ := List.cons.inj hsplit
    obtain ⟨hfirst, hothers⟩ := List.forall_mem_cons.1 hbelow
    refine ⟨t.step text instr ++ pending, others, (List.append_assoc _ _ _).symm, ?_, ?_⟩
    · intro t' ht'
      rcases List.mem_append.1 ht' with ht' | ht'
      · exact .head (hfollows t' ht') hfirst
      · exact hothers t' ht'
    · intro n hn
      obtain ⟨t', ht', m, hm⟩ := hfound n hn
      rcases List.mem_cons.1 ht' with rfl | ht'
      · obtain ⟨t'', ht'', hm'⟩ := hfrom m hm
        exact ⟨t'', List.mem_append_left _ ht'', hm'⟩
      · exact ⟨t', List.mem_append_right _ ht', m, hm⟩

end Remembers

/-- **A search with memory has the result of the first thread that has one without it**, if all
threads come to an end and there is fuel for all pairs of positions that have not been tried.

**Proof sketch.** Induction on the search. A thread that was tried before does not accept, so that
its outcome is none and it can be left out. -/
lemma searchFrom_eq {fuel : Nat} {tried : Std.HashSet (Nat × Nat)} {threads : List Thread}
    (hfuel : threads.length + 2 * untried program text tried < fuel)
    (hpos : ∀ t ∈ threads, t.pos ≤ text.size) (hremembers : Remembers program text tried threads)
    (hends : ∀ t ∈ threads, ∃ r, t.Ends program text r) :
    searchFrom program text fuel tried threads =
      threads.findSome? (Thread.outcome program text) := by
  fun_induction searchFrom program text fuel tried threads with
  | case1 => omega
  | case2 => rfl
  | case3 _ tried t rest htried ih =>
    obtain ⟨⟨r, hr⟩, hrest⟩ := List.forall_mem_cons.1 hends
    have hfails := hremembers.not_accepts htried hr
    have hnone : r = none := by
      rw [← Option.not_isSome_iff_eq_none, hr.isSome_iff]
      exact not_exists.2 hfails
    rw [ih (by simp at hfuel; omega) (List.forall_mem_cons.1 hpos).2 (hremembers.skip hfails) hrest,
      List.findSome?_cons, hr.outcome_eq, hnone]
  | case4 _ tried t rest _ hoff ih =>
    have hfails : ∀ n, ¬Accepts program text n t.address t.pos := fun n hn => hn.ne_none hoff
    rw [ih (by simp at hfuel; omega) (List.forall_mem_cons.1 hpos).2 (hremembers.skip hfails)
      (List.forall_mem_cons.1 hends).2, List.findSome?_cons, (Thread.Ends.off hoff).outcome_eq]
  | case5 _ tried t rest _ haccept =>
    rw [List.findSome?_cons, (Thread.Ends.accept haccept).outcome_eq]
  | case6 _ tried t rest hnew instr hne hinstr ih =>
    obtain ⟨hi, hrest⟩ := List.forall_mem_cons.1 hpos
    obtain ⟨⟨r, hr⟩, hendsRest⟩ := List.forall_mem_cons.1 hends
    obtain ⟨ha, -⟩ := Array.getElem?_eq_some_iff.1 hinstr
    have hless : untried program text (tried.insert (t.address, t.pos)) <
        untried program text tried := untried_insert_lt ha hi (by simpa using hnew)
    have htwo : (t.step text instr).length ≤ 2 := t.length_step_le instr
    have hendsStep : ∀ t' ∈ t.step text instr, ∃ r, t'.Ends program text r := by
      cases hr with
      | off h => simp_all
      | accept h => simp_all
      | step hinstr' _ h =>
        obtain rfl := Option.some.inj (hinstr.symm.trans hinstr')
        exact fun t' ht' => ⟨_, h t' ht'⟩
    have hstep : t.Ends program text
        ((t.step text instr).findSome? (Thread.outcome program text)) := by
      refine .step hinstr hne fun t' ht' => ?_
      obtain ⟨r', hr'⟩ := hendsStep t' ht'
      rwa [hr'.outcome_eq]
    rw [ih (by simp at hfuel ⊢; omega) ?_ (hremembers.step hinstr hne) ?_, List.findSome?_append,
      List.findSome?_cons, hstep.outcome_eq]
    · cases (t.step text instr).findSome? (Thread.outcome program text) <;> rfl
    · exact fun t' ht' => (List.mem_append.1 ht').elim (t.pos_le_of_mem_step hi) (hrest t')
    · exact fun t' ht' => (List.mem_append.1 ht').elim (hendsStep t') (hendsRest t')

/-- **A search has the result of the first position of the text that has one**, if from every
position it comes to an end without memory. -/
lemma search_eq {f : Nat → Option Notes}
    (h : ∀ i ≤ text.size, Thread.Ends program text ⟨0, i, []⟩ (f i)) :
    search program text = (List.range (text.size + 1)).findSome? f := by
  have hpos : ∀ t ∈ (List.range (text.size + 1)).map fun pos => (⟨0, pos, []⟩ : Thread),
      t.pos ≤ text.size ∧ t.Ends program text (f t.pos) := by
    intro t ht
    obtain ⟨i, hi, rfl⟩ := List.mem_map.1 ht
    have hle := Nat.le_of_lt_succ (List.mem_range.1 hi)
    exact ⟨hle, h i hle⟩
  have hcells := untried_empty_le program text
  rw [search, searchFrom_eq ?_ (fun t ht => (hpos t ht).1) (by simp [Remembers])
    (fun t ht => ⟨_, (hpos t ht).2⟩), List.findSome?_map]
  · exact findSome?_congr fun i hi =>
      (h i (Nat.le_of_lt_succ (List.mem_range.1 hi))).outcome_eq
  · rw [List.length_map, List.length_range, Nat.mul_assoc, Nat.add_mul]
    omega

end ImportAtlas.Regex
