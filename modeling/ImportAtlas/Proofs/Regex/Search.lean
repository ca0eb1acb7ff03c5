import ImportAtlas.Regex.Search
import Mathlib.Data.Finset.Prod
import Mathlib.Tactic.Lemma

/-!
# What the search of a program finds

The search of a program succeeds just if some way through the program, from some position of the
text, reaches the accepting instruction. The search forgets nothing: of every pair of positions that
it leaves out because it was tried before, some thread that is still to be tried comes closer to
acceptance. And it does not run out of fuel.

## Main definitions

* `ImportAtlas.Regex.Instr.Leads`: where an instruction leads, from two positions to two positions.
* `ImportAtlas.Regex.Accepts`: a way of so many instructions accepts.
* `ImportAtlas.Regex.Pursued`: the invariant by which a search misses nothing.
* `ImportAtlas.Regex.Thread.Grounded`: the invariant by which a search invents nothing.

## Main results

* `ImportAtlas.Regex.searchFrom_some`: the result of a search comes from its threads.
* `ImportAtlas.Regex.searchFrom_none`: a search without result leaves no way to accept.
* `ImportAtlas.Regex.search_isSome_iff`: what the search finds.
-/

namespace ImportAtlas.Regex

/-! ### Ways through a program -/

/-- Where an instruction leads from an address and a position of the text. -/
def Instr.Leads (text : Array Char) (a i : Nat) : Instr → Nat → Nat → Prop
  | .take set, a', i' => ∃ c, text[i]? = some c ∧ set.contains c = true ∧ a' = a + 1 ∧ i' = i + 1
  | .ask kind, a', i' => kind.holds text i = true ∧ a' = a + 1 ∧ i' = i
  | .note _, a', i' => a' = a + 1 ∧ i' = i
  | .fork first second, a', i' => (a' = first ∨ a' = second) ∧ i' = i
  | .jump target, a', i' => a' = target ∧ i' = i
  | .accept, _, _ => False

/-- A way of `n` instructions leads from an address and a position of the text to the accepting
instruction. -/
inductive Accepts (program : Array Instr) (text : Array Char) : Nat → Nat → Nat → Prop
  | done {a i : Nat} : program[a]? = some .accept → Accepts program text 0 a i
  | step {n a i a' i' : Nat} {instr : Instr} : program[a]? = some instr →
      instr.Leads text a i a' i' → Accepts program text n a' i' → Accepts program text (n + 1) a i

variable {program : Array Instr} {text : Array Char}

/-- The threads that a thread leads to stand where its instruction leads. -/
lemma Thread.exists_mem_step_iff {t : Thread} {instr : Instr} {a i : Nat} :
    (∃ t' ∈ t.step text instr, a = t'.address ∧ i = t'.pos) ↔
      instr.Leads text t.address t.pos a i := by
  cases instr with
  | take set =>
    simp only [step, Instr.Leads]
    split
    · split <;> simp_all
    · simp_all
  | ask kind =>
    simp only [step, Instr.Leads]
    split <;> simp_all
  | note slot => simp [step, Instr.Leads]
  | fork first second => simp [step, Instr.Leads, or_and_right, exists_or]
  | jump target => simp [step, Instr.Leads]
  | accept => simp [step, Instr.Leads]

/-- A thread leads to two threads at most. -/
lemma Thread.length_step_le (t : Thread) (instr : Instr) : (t.step text instr).length ≤ 2 := by
  fun_cases t.step text instr <;> simp

/-- No thread leads out of the text. -/
lemma Thread.pos_le_of_mem_step {t t' : Thread} {instr : Instr} (h : t.pos ≤ text.size)
    (ht' : t' ∈ t.step text instr) : t'.pos ≤ text.size := by
  have hleads := exists_mem_step_iff.1 ⟨t', ht', rfl, rfl⟩
  cases instr with
  | take set =>
    obtain ⟨c, hc, -, -, hpos⟩ := hleads
    obtain ⟨hlt, -⟩ := Array.getElem?_eq_some_iff.1 hc
    omega
  | ask kind => exact hleads.2.2 ▸ h
  | note slot => exact hleads.2 ▸ h
  | fork first second => exact hleads.2 ▸ h
  | jump target => exact hleads.2 ▸ h
  | accept => exact hleads.elim

/-- A way to accept that does not begin with the accepting instruction goes on one of the ways that
its first instruction leads. -/
lemma Accepts.next {n a i : Nat} {instr : Instr} (h : Accepts program text n a i)
    (hinstr : program[a]? = some instr) (hne : instr ≠ .accept) :
    ∃ m a' i', n = m + 1 ∧ instr.Leads text a i a' i' ∧ Accepts program text m a' i' := by
  cases h with
  | done haccept =>
    rw [hinstr] at haccept
    exact absurd (Option.some.inj haccept) hne
  | step hinstr' hleads hrest =>
    rw [hinstr] at hinstr'
    obtain rfl := Option.some.inj hinstr'
    exact ⟨_, _, _, rfl, hleads, hrest⟩

/-- An address outside the program accepts nothing. -/
lemma Accepts.ne_none {n a i : Nat} (h : Accepts program text n a i) : program[a]? ≠ none := by
  cases h <;> simp_all

/-! ### Soundness -/

/-- **The result of a search comes from its threads.** What holds of the threads to be tried, and of
all threads that such a thread leads to, holds of the thread that the result comes from. -/
lemma searchFrom_some {P : Thread → Prop}
    (hstep : ∀ t, P t → ∀ instr, program[t.address]? = some instr →
      ∀ t' ∈ t.step text instr, P t')
    {fuel : Nat} {tried : Std.HashSet (Nat × Nat)} {threads : List Thread}
    {notes : List (Nat × Nat)} (hthreads : ∀ t ∈ threads, P t)
    (h : searchFrom program text fuel tried threads = some notes) :
    ∃ t, P t ∧ program[t.address]? = some .accept ∧ t.notes = notes := by
  fun_induction searchFrom program text fuel tried threads with
  | case1 => simp at h
  | case2 => simp at h
  | case3 _ _ t rest _ ih => exact ih (List.forall_mem_cons.1 hthreads).2 h
  | case4 _ _ t rest _ _ ih => exact ih (List.forall_mem_cons.1 hthreads).2 h
  | case5 _ _ t rest _ haccept =>
    exact ⟨t, (List.forall_mem_cons.1 hthreads).1, haccept, Option.some.inj h⟩
  | case6 _ _ t rest _ instr _ hinstr ih =>
    obtain ⟨ht, hrest⟩ := List.forall_mem_cons.1 hthreads
    refine ih (fun t' ht' => ?_) h
    rcases List.mem_append.1 ht' with ht' | ht'
    · exact hstep t ht instr hinstr t' ht'
    · exact hrest t' ht'

/-! ### Completeness -/

/-- The invariant of a search: from wherever it has been and could have accepted, some thread that
is still to be tried accepts in fewer steps. -/
def Pursued (program : Array Instr) (text : Array Char) (tried : Std.HashSet (Nat × Nat))
    (threads : List Thread) : Prop :=
  ∀ n a i, tried.contains (a, i) = true → Accepts program text n a i →
    ∃ t ∈ threads, ∃ m < n, Accepts program text m t.address t.pos

/-- How many pairs of positions have not been tried. -/
def untried (program : Array Instr) (text : Array Char) (tried : Std.HashSet (Nat × Nat)) : Nat :=
  ((Finset.range program.size ×ˢ Finset.range (text.size + 1)).filter
    fun p => tried.contains p = false).card

/-- At first no pair of positions has been tried. -/
lemma untried_empty_le (program : Array Instr) (text : Array Char) :
    untried program text ∅ ≤ program.size * (text.size + 1) := by
  refine (Finset.card_filter_le _ _).trans ?_
  rw [Finset.card_product, Finset.card_range, Finset.card_range]

/-- A pair of positions that is tried for the first time is one less that has not been tried. -/
lemma untried_insert_lt {tried : Std.HashSet (Nat × Nat)} {a i : Nat} (ha : a < program.size)
    (hi : i ≤ text.size) (hnew : tried.contains (a, i) = false) :
    untried program text (tried.insert (a, i)) < untried program text tried := by
  have hsubset : ∀ p, (tried.insert (a, i)).contains p = false → tried.contains p = false := by
    intro p hp
    rw [Std.HashSet.contains_insert, Bool.or_eq_false_iff] at hp
    exact hp.2
  refine Finset.card_lt_card ((Finset.ssubset_iff_of_subset ?_).2 ⟨(a, i), ?_, ?_⟩)
  · exact Finset.monotone_filter_right _ fun p _ => hsubset p
  · rw [Finset.mem_filter, Finset.mem_product, Finset.mem_range, Finset.mem_range]
    exact ⟨⟨ha, Nat.lt_succ_of_le hi⟩, hnew⟩
  · simp

/-- Where an instruction has led on, the invariant is that of the threads that it leads to. -/
lemma Pursued.step {tried : Std.HashSet (Nat × Nat)} {t : Thread} {rest : List Thread}
    {instr : Instr} (h : Pursued program text tried (t :: rest))
    (hinstr : program[t.address]? = some instr) (hne : instr ≠ .accept) :
    Pursued program text (tried.insert (t.address, t.pos)) (t.step text instr ++ rest) := by
  have hfrom : ∀ {n}, Accepts program text n t.address t.pos →
      ∃ t' ∈ t.step text instr ++ rest, ∃ m < n, Accepts program text m t'.address t'.pos := by
    intro n haccepts
    obtain ⟨m, a', i', rfl, hleads, hm⟩ := haccepts.next hinstr hne
    obtain ⟨t', ht', rfl, rfl⟩ := Thread.exists_mem_step_iff.2 hleads
    exact ⟨t', List.mem_append_left _ ht', m, Nat.lt_succ_self m, hm⟩
  intro n a i htried haccepts
  rw [Std.HashSet.contains_insert, Bool.or_eq_true, beq_iff_eq, Prod.mk.injEq] at htried
  rcases htried with ⟨rfl, rfl⟩ | htried
  · exact hfrom haccepts
  · obtain ⟨t', ht', m, hm, haccepts'⟩ := h n a i htried haccepts
    rcases List.mem_cons.1 ht' with rfl | ht'
    · obtain ⟨t'', ht'', k, hk, haccepts''⟩ := hfrom haccepts'
      exact ⟨t'', ht'', k, hk.trans hm, haccepts''⟩
    · exact ⟨t', List.mem_append_right _ ht', m, hm, haccepts'⟩

/-- A thread that was tried before can be left out. The threads behind it lead closer to acceptance,
since from a thread that leads back to itself one cannot come closer for ever. -/
lemma Pursued.skip {tried : Std.HashSet (Nat × Nat)} {t : Thread} {rest : List Thread}
    (h : Pursued program text tried (t :: rest))
    (ht : tried.contains (t.address, t.pos) = true) : Pursued program text tried rest := by
  intro n
  induction n using Nat.strong_induction_on with
  | _ n ih =>
    intro a i htried haccepts
    obtain ⟨t', ht', m, hm, haccepts'⟩ := h n a i htried haccepts
    rcases List.mem_cons.1 ht' with rfl | ht'
    · obtain ⟨t'', ht'', k, hk, haccepts''⟩ := ih m hm _ _ ht haccepts'
      exact ⟨t'', ht'', k, hk.trans hm, haccepts''⟩
    · exact ⟨t', ht', m, hm, haccepts'⟩

/-- **A search without result leaves no way to accept**, if it has fuel for all pairs of positions
that have not been tried.

**Proof sketch.** Induction on the search. A pair that was tried before is pursued by some thread
that is left, a thread that is off does not accept, and a way to accept from any other thread goes
on with one of the threads that its instruction leads to. -/
lemma searchFrom_none {fuel : Nat} {tried : Std.HashSet (Nat × Nat)} {threads : List Thread}
    (hfuel : threads.length + 2 * untried program text tried < fuel)
    (hpos : ∀ t ∈ threads, t.pos ≤ text.size) (hpursued : Pursued program text tried threads)
    (h : searchFrom program text fuel tried threads = none) :
    ∀ t ∈ threads, ∀ n, ¬Accepts program text n t.address t.pos := by
  fun_induction searchFrom program text fuel tried threads with
  | case1 => omega
  | case2 => simp
  | case3 _ tried t rest htried ih =>
    have hskip := hpursued.skip htried
    have hrest := ih (by simp at hfuel; omega) (List.forall_mem_cons.1 hpos).2 hskip h
    refine List.forall_mem_cons.2 ⟨fun n haccepts => ?_, hrest⟩
    obtain ⟨t', ht', m, -, haccepts'⟩ := hskip n _ _ htried haccepts
    exact hrest t' ht' m haccepts'
  | case4 _ tried t rest _ hnone ih =>
    have hout : ∀ n, ¬Accepts program text n t.address t.pos := fun n haccepts =>
      haccepts.ne_none hnone
    have hrest := ih (by simp at hfuel; omega) (List.forall_mem_cons.1 hpos).2 ?_ h
    · exact List.forall_mem_cons.2 ⟨hout, hrest⟩
    · intro n a i htried haccepts
      obtain ⟨t', ht', m, hm, haccepts'⟩ := hpursued n a i htried haccepts
      rcases List.mem_cons.1 ht' with rfl | ht'
      · exact absurd haccepts' (hout m)
      · exact ⟨t', ht', m, hm, haccepts'⟩
  | case5 => simp at h
  | case6 _ tried t rest hnew instr hne hinstr ih =>
    obtain ⟨hi, hrest⟩ := List.forall_mem_cons.1 hpos
    obtain ⟨ha, -⟩ := Array.getElem?_eq_some_iff.1 hinstr
    have hless : untried program text (tried.insert (t.address, t.pos)) <
        untried program text tried := untried_insert_lt ha hi (by simpa using hnew)
    have htwo : (t.step text instr).length ≤ 2 := t.length_step_le instr
    have hpos' : ∀ t' ∈ t.step text instr ++ rest, t'.pos ≤ text.size := by
      intro t' ht'
      rcases List.mem_append.1 ht' with ht' | ht'
      · exact t.pos_le_of_mem_step hi ht'
      · exact hrest t' ht'
    have hnext := ih (by simp at hfuel ⊢; omega) hpos' (hpursued.step hinstr hne) h
    refine List.forall_mem_cons.2 ⟨fun n haccepts => ?_, fun t' ht' =>
      hnext t' (List.mem_append_right _ ht')⟩
    obtain ⟨m, a', i', rfl, hleads, hm⟩ := haccepts.next hinstr hne
    obtain ⟨t', ht', rfl, rfl⟩ := Thread.exists_mem_step_iff.2 hleads
    exact hnext t' (List.mem_append_left _ ht') m hm

/-- If the thread accepts, then so does some way from the first instruction. This holds of all
threads of a search. -/
def Thread.Grounded (program : Array Instr) (text : Array Char) (t : Thread) : Prop :=
  ∀ n, Accepts program text n t.address t.pos →
    ∃ i ≤ text.size, ∃ m, Accepts program text m 0 i

/-- A thread that a grounded thread leads to is grounded. -/
lemma Thread.Grounded.step {t t' : Thread} {instr : Instr} (h : t.Grounded program text)
    (hinstr : program[t.address]? = some instr) (ht' : t' ∈ t.step text instr) :
    t'.Grounded program text := fun n haccepts =>
  h (n + 1) (.step hinstr (exists_mem_step_iff.1 ⟨t', ht', rfl, rfl⟩) haccepts)

/-- **What the search finds.** The search of a program succeeds just if some way from the first
instruction and some position of the text accepts.

**Proof sketch.** A thread that accepts is grounded, as all threads come from the first instruction.
Conversely a search without result would leave no way to accept from any of the threads it begins
with, which have fuel enough. -/
lemma search_isSome_iff :
    (search program text).isSome = true ↔ ∃ i ≤ text.size, ∃ n, Accepts program text n 0 i := by
  have hstarts : ∀ t, (t ∈ (List.range (text.size + 1)).map fun pos => (⟨0, pos, []⟩ : Thread)) ↔
      ∃ i ≤ text.size, t = ⟨0, i, []⟩ := by
    intro t
    simp only [List.mem_map, List.mem_range, Nat.lt_succ_iff, eq_comm]
  constructor
  · intro h
    obtain ⟨notes, hnotes⟩ := Option.isSome_iff_exists.1 h
    have hgrounded : ∀ t ∈ (List.range (text.size + 1)).map fun pos => (⟨0, pos, []⟩ : Thread),
        t.Grounded program text := by
      intro t ht n haccepts
      obtain ⟨i, hi, rfl⟩ := (hstarts t).1 ht
      exact ⟨i, hi, n, haccepts⟩
    obtain ⟨t, ht, haccept, -⟩ := searchFrom_some
      (fun t ht instr hinstr t' ht' => Thread.Grounded.step ht hinstr ht') hgrounded hnotes
    exact ht 0 (.done haccept)
  · rintro ⟨i, hi, n, haccepts⟩
    have hcells := untried_empty_le program text
    refine Option.isSome_iff_ne_none.2 fun hnone => ?_
    refine searchFrom_none ?_ ?_ ?_ hnone ⟨0, i, []⟩ ((hstarts _).2 ⟨i, hi, rfl⟩) n haccepts
    · rw [List.length_map, List.length_range, Nat.mul_assoc, Nat.add_mul]
      omega
    · intro t ht
      obtain ⟨i, hi, rfl⟩ := (hstarts t).1 ht
      exact hi
    · simp [Pursued]

end ImportAtlas.Regex
