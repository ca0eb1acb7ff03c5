import ImportAtlas.Proofs.Regex.Backtracking
import ImportAtlas.Proofs.Regex.Program

/-!
# Attempts

What the search makes of an expression, told by recursion on the expression. An attempt goes from a
spot of the text through the expression and hands every way to do so on to what follows, in the
order in which they are preferred, until one of them comes to something. So it says which of several
matches counts, which the matches of an expression by themselves do not.

## Main definitions

* `ImportAtlas.Regex.Spot`: what is left of a text, and the notes made so far.
* `ImportAtlas.Regex.Attempt`: what comes of a spot, by what comes of the spots behind it.
* `ImportAtlas.Regex.Attempt.looped`: an attempt once and then as often as it goes on.
* `ImportAtlas.Regex.Expr.attempt`: the attempt of an expression.
* `ImportAtlas.Regex.Expr.advances`: no loop of an expression can go round on the spot.
* `ImportAtlas.Regex.Carries`: a part of a program does what an attempt does.

## Main results

* `ImportAtlas.Regex.Carries.loop`: a fork back makes a loop.
* `ImportAtlas.Regex.Carries.code`: the code of an expression does what its attempt does.
* `ImportAtlas.Regex.search_program_eq`: what a search notes is what the first attempt notes that
  comes to something.
* `ImportAtlas.Regex.group?_eq_groupOf`: so do the groups.

## Design

An attempt stands for the code of an expression in whatever program, so it takes what follows as a
parameter. A loop whose body may match the empty text is left out: the memory of the search ends it,
and here there is none.
-/

namespace ImportAtlas.Regex

open Unicode

variable {β : Type}

/-! ### Spots -/

/-- A spot in a text: what is left of the text there, and the notes made on the way. -/
structure Spot where
  /-- What is left of the text. -/
  rest : List Char
  /-- The notes made on the way, the latest first. -/
  notes : Notes

namespace Spot

/-- The position of a spot in its text. -/
def pos (text : List Char) (s : Spot) : Nat := text.length - s.rest.length

/-- The spot with its position noted under a number. -/
def note (text : List Char) (slot : Nat) (s : Spot) : Spot :=
  ⟨s.rest, (slot, s.pos text) :: s.notes⟩

/-- The thread at a spot and an address of the program. -/
def thread (text : List Char) (address : Nat) (s : Spot) : Thread := ⟨address, s.pos text, s.notes⟩

end Spot

/-! ### Attempts -/

/-- An attempt: what comes of a spot, by what comes of each spot where the attempt may end. -/
abbrev Attempt (β : Type) := (Spot → Option β) → Spot → Option β

/-- What comes of going on or leaving off, whichever is preferred, and else of the other. -/
def prefer (greedy : Bool) (more less : Option β) : Option β :=
  if greedy then more.or less else less.or more

namespace Attempt

/-- An attempt a number of times. -/
def copied (body : Attempt β) : Nat → Attempt β
  | 0, next => next
  | n + 1, next => body (copied body n next)

/-- An attempt up to a number of times. -/
def optional (body : Attempt β) (greedy : Bool) : Nat → Attempt β
  | 0, next => next
  | n + 1, next => fun s => prefer greedy (body (optional body greedy n next) s) (next s)

/-- An attempt once, and then again wherever it got on, as often as it does. -/
def looped (body : Attempt β) (greedy : Bool) (next : Spot → Option β) (s : Spot) : Option β :=
  body (fun s' => prefer greedy
    (if _h : s'.rest.length < s.rest.length then looped body greedy next s' else none) (next s')) s
termination_by s.rest.length

/-- An attempt as often as the bounds allow. -/
def repeated (body : Attempt β) (least : Nat) (most : Option Nat) (greedy : Bool) : Attempt β :=
  match most with
  | none =>
    match least with
    | 0 => fun next s => prefer greedy (looped body greedy next s) (next s)
    | n + 1 => fun next => copied body n (looped body greedy next)
  | some most => fun next => copied body least (optional body greedy (most - least) next)

end Attempt

namespace Expr

/-- The attempt of an expression in a text. -/
def attempt (text : List Char) : Expr → Attempt β
  | .empty, next => next
  | .chars set, next => fun s =>
    match s.rest with
    | c :: rest => if set.contains c then next ⟨rest, s.notes⟩ else none
    | [] => none
  | .look kind, next => fun s => if kind.holds text.toArray (s.pos text) then next s else none
  | .seq a b, next => a.attempt text (b.attempt text next)
  | .alt a b, next => fun s => (a.attempt text next s).or (b.attempt text next s)
  | .repetition least most greedy body, next =>
    Attempt.repeated (body.attempt text) least most greedy next
  | .capture index body, next => fun s =>
    body.attempt text (fun s' => next (s'.note text (2 * index + 1))) (s.note text (2 * index))

/-- Whether what may be repeated without bound never matches the empty text. -/
def advances : Expr → Bool
  | .seq a b => a.advances && b.advances
  | .alt a b => a.advances && b.advances
  | .repetition _ most _ body => body.advances && (most.isSome || !body.nullable)
  | .capture _ body => body.advances
  | _ => true

/-- How many characters an expression takes at least, but not counting beyond one. -/
def gain (e : Expr) : Nat := if e.nullable then 0 else 1

/-- **The attempt of a sequence** hands on from each part to the next.

**Proof sketch.** Empty parts hand the spot on as it is, so that leaving them out changes nothing.
The parts that are left are folded from the last one on, and by induction a fold hands on from each
to the next. -/
lemma attempt_sequence (text : List Char) (parts : List Expr) (next : Spot → Option β) :
    (sequence parts).attempt text next = parts.foldr (fun e rest => e.attempt text rest) next := by
  have hfilter : ∀ es : List Expr, (es.filter fun e => !e.isEmpty).foldr
      (fun e rest => e.attempt text rest) next =
        es.foldr (fun e rest => e.attempt text rest) next := by
    intro es
    induction es with
    | nil => rfl
    | cons e es ih =>
      cases he : e.isEmpty with
      | false => simp [he, ih]
      | true =>
        rw [List.filter_cons_of_neg (by simp [he]), ih, eq_empty_of_isEmpty he]
        rfl
  have hfold : ∀ (before : List Expr) (last : Expr),
      (before.foldl (fun e p => .seq p e) last).attempt text next =
        (before.reverse ++ [last]).foldr (fun e rest => e.attempt text rest) next := by
    intro before
    induction before with
    | nil => exact fun last => rfl
    | cons p before ih =>
      intro last
      rw [List.foldl_cons, ih]
      simp [attempt]
  rw [sequence, ← hfilter]
  split
  · rename_i hnil
    rw [List.reverse_eq_nil_iff.1 hnil]
    rfl
  · rename_i last before hparts
    rw [hfold, ← List.reverse_cons, ← hparts, List.reverse_reverse]

/-- The attempt of an expression is that of the first of its branches that comes to something. -/
lemma attempt_branches (text : List Char) (e : Expr) (next : Spot → Option β) (s : Spot) :
    e.attempt text next s = e.branches.findSome? fun b => b.attempt text next s := by
  induction e with
  | alt a b ha hb =>
    rw [branches, List.findSome?_append, ← ha, ← hb]
    rfl
  | _ => simp [branches]

/-- Instead of some expressions their branches may be tried. -/
lemma findSome?_attempt_branches (text : List Char) (options : List Expr)
    (next : Spot → Option β) (s : Spot) :
    ((options.flatMap branches).findSome? fun e => e.attempt text next s) =
      options.findSome? fun e => e.attempt text next s := by
  induction options with
  | nil => rfl
  | cons e options ih =>
    rw [List.flatMap_cons, List.findSome?_append, ← attempt_branches, ih, List.findSome?_cons]
    cases e.attempt text next s <;> rfl

/-- **The attempt of a choice** is that of the first option that comes to something, if the options
do not make one set.

**Proof sketch.** As the options do not make one set, they are cut into their branches, which are
folded from the last one on. By induction a fold gives the first branch that comes to something, and
the branches of the options come in the order of the options. -/
lemma attempt_choice {options : List Expr} (h : (options.flatMap branches).mapM set? = none)
    (text : List Char) (next : Spot → Option β) (s : Spot) :
    (choice options).attempt text next s =
      options.findSome? fun e => e.attempt text next s := by
  have hfold : ∀ (before : List Expr) (last : Expr),
      (before.foldl (fun e b => .alt b e) last).attempt text next s =
        (before.reverse ++ [last]).findSome? fun e => e.attempt text next s := by
    intro before
    induction before with
    | nil => exact fun last => by simp
    | cons b before ih =>
      intro last
      have halt : (Expr.alt b last).attempt text next s =
          (b.attempt text next s).or (last.attempt text next s) := rfl
      rw [List.foldl_cons, ih, List.reverse_cons, List.append_assoc, List.findSome?_append,
        List.findSome?_append, List.findSome?_singleton, halt]
      congr 1
      simp only [List.singleton_append, List.findSome?_cons, List.findSome?_nil]
      cases b.attempt text next s <;> cases last.attempt text next s <;> rfl
  rw [choice, h, ← findSome?_attempt_branches]
  dsimp only
  split
  · rename_i hnil
    rw [List.reverse_eq_nil_iff.1 hnil] at h
    cases h
  · rename_i last before hoptions
    rw [hfold, ← List.reverse_cons, ← hoptions, List.reverse_reverse]

end Expr

/-! ### Threads that come to an end -/

section Ends

variable {program : Array Instr} {text : Array Char} {t t' : Thread} {instr : Instr}
  {r r' : Option Notes}

namespace Thread.Ends

/-- A thread that leads nowhere. -/
lemma nowhere (hinstr : program[t.address]? = some instr) (hne : instr ≠ .accept)
    (hstep : t.step text instr = []) : t.Ends program text none := by
  have h : t.Ends program text ((t.step text instr).findSome? (outcome program text)) :=
    .step hinstr hne (by simp [hstep])
  rwa [hstep] at h

/-- A thread that leads to one thread. -/
lemma on (hinstr : program[t.address]? = some instr) (hne : instr ≠ .accept)
    (hstep : t.step text instr = [t']) (h : t'.Ends program text r) : t.Ends program text r := by
  have hone : t.Ends program text ((t.step text instr).findSome? (outcome program text)) :=
    .step hinstr hne (by simpa [hstep, h.outcome_eq] using h)
  rw [hstep, List.findSome?_cons, h.outcome_eq] at hone
  cases r <;> exact hone

/-- A thread that leads to two threads. -/
lemma either {t'' : Thread} (hinstr : program[t.address]? = some instr) (hne : instr ≠ .accept)
    (hstep : t.step text instr = [t', t'']) (h : t'.Ends program text r)
    (h' : t''.Ends program text r') : t.Ends program text (r.or r') := by
  have hboth : t.Ends program text ((t.step text instr).findSome? (outcome program text)) :=
    .step hinstr hne (by simpa [hstep, h.outcome_eq, h'.outcome_eq] using ⟨h, h'⟩)
  rw [hstep, List.findSome?_cons, List.findSome?_cons, h.outcome_eq, h'.outcome_eq] at hboth
  cases r <;> cases r' <;> exact hboth

end Thread.Ends

end Ends

/-! ### Parts of a program -/

/-- The part of a program between two addresses does what an attempt does, and takes at least so
many characters. -/
def Carries (program : Array Instr) (text : List Char) (start stop gain : Nat)
    (attempt : Attempt Notes) : Prop :=
  ∀ (s : Spot) (next : Spot → Option Notes), s.rest <:+ text →
    (∀ s' : Spot, s'.rest <:+ s.rest → s'.rest.length + gain ≤ s.rest.length →
      (s'.thread text stop).Ends program text.toArray (next s')) →
    (s.thread text start).Ends program text.toArray (attempt next s)

namespace Carries

variable {program : Array Instr} {text : List Char} {a b c d m n : Nat} {A B : Attempt Notes}

/-- A part that takes more takes less. -/
lemma mono (h : Carries program text a b n A) (hle : m ≤ n) : Carries program text a b m A :=
  fun s next hs hnext => h s next hs fun s' hs' hlen => hnext s' hs' (by omega)

/-- The part without instructions. -/
lemma nothing : Carries program text a a 0 fun next => next :=
  fun s _ _ hnext => hnext s (List.suffix_refl _) (Nat.le_refl _)

/-- A part behind another one. -/
lemma seq (h : Carries program text a b m A) (h' : Carries program text b c n B) :
    Carries program text a c (m + n) fun next => A (B next) := by
  intro s next hs hnext
  refine h s (B next) hs fun s' hs' hlen => h' s' next (hs'.trans hs) fun s'' hs'' hlen' => ?_
  exact hnext s'' (hs''.trans hs') (by omega)

/-- A part of one instruction that takes a character. -/
lemma take {set : CharSet} (hinstr : program[a]? = some (.take set)) :
    Carries program text a (a + 1) 1 ((Expr.chars set).attempt text) := by
  rintro ⟨rest, notes⟩ next hs hnext
  obtain ⟨before, rfl⟩ := hs
  have hpos : (before ++ rest).length - rest.length = before.length := by simp
  cases rest with
  | nil => exact .nowhere hinstr (by simp) (by simp [Spot.thread, Spot.pos, Thread.step])
  | cons c rest =>
    have hchar : (before ++ c :: rest).toArray[before.length]? = some c := by simp
    have hpos' : (before ++ c :: rest).length - rest.length = before.length + 1 := by
      simp only [List.length_append, List.length_cons]
      omega
    by_cases hc : set.contains c = true
    · have hstep := hnext ⟨rest, notes⟩ (List.suffix_cons c rest) (Nat.le_refl _)
      simp only [Expr.attempt, hc, if_true]
      refine .on hinstr (by simp) ?_ hstep
      simp only [Spot.thread, Spot.pos, Thread.step, hpos, hpos', hchar, hc, if_true]
    · simp only [Expr.attempt, hc, Bool.false_eq_true, if_false]
      refine .nowhere hinstr (by simp) ?_
      simp only [Spot.thread, Spot.pos, Thread.step, hpos, hchar, hc, Bool.false_eq_true, if_false]

/-- A part of one instruction that asks for a place. -/
lemma ask {kind : Look} (hinstr : program[a]? = some (.ask kind)) :
    Carries program text a (a + 1) 0 ((Expr.look kind).attempt text) := by
  intro s next _ hnext
  by_cases hholds : kind.holds text.toArray (s.pos text) = true
  · have hstep := hnext s (List.suffix_refl _) (Nat.le_refl _)
    simp only [Expr.attempt, hholds, if_true]
    exact .on hinstr (by simp) (by simp [Spot.thread, Thread.step, hholds]) hstep
  · simp only [Expr.attempt, hholds, Bool.false_eq_true, if_false]
    exact .nowhere hinstr (by simp) (by simp [Spot.thread, Thread.step, hholds])

/-- A part of one instruction that notes the position. -/
lemma note {slot : Nat} (hinstr : program[a]? = some (.note slot)) :
    Carries program text a (a + 1) 0 fun next s => next (s.note text slot) :=
  fun s _ _ hnext => .on hinstr (by simp) rfl
    (hnext (s.note text slot) (List.suffix_refl _) (Nat.le_refl _))

/-- A part of one instruction that jumps. -/
lemma jump (hinstr : program[a]? = some (.jump b)) :
    Carries program text a b 0 fun next => next :=
  fun s _ _ hnext => .on hinstr (by simp) rfl (hnext s (List.suffix_refl _) (Nat.le_refl _))

/-- At a fork between a body and an exit the one that is preferred counts, and else the other. -/
lemma ends_forkTo {greedy : Bool} {s : Spot} {r r' : Option Notes}
    (hinstr : program[a]? = some (Expr.forkTo greedy b c))
    (h : (s.thread text b).Ends program text.toArray r)
    (h' : (s.thread text c).Ends program text.toArray r') :
    (s.thread text a).Ends program text.toArray (prefer greedy r r') := by
  cases greedy with
  | true => exact .either hinstr (by simp [Expr.forkTo]) rfl h h'
  | false => exact .either hinstr (by simp [Expr.forkTo]) rfl h' h

/-- A fork to two parts that end at the same address. -/
lemma choice {greedy : Bool} (hinstr : program[a]? = some (Expr.forkTo greedy b c))
    (h : Carries program text b d n A) (h' : Carries program text c d n B) :
    Carries program text a d n fun next s => prefer greedy (A next s) (B next s) :=
  fun s next hs hnext => ends_forkTo hinstr (h s next hs hnext) (h' s next hs hnext)

/-- **A part with a fork back to its start behind it** makes a loop, if it takes a character each
time.

**Proof sketch.** Induction on what is left of the text. At the fork less is left than before, so
that going back is a loop of which this is known. -/
lemma loop {greedy : Bool} (hinstr : program[b]? = some (Expr.forkTo greedy a (b + 1)))
    (h : Carries program text a b 1 A) :
    Carries program text a (b + 1) 1 (Attempt.looped A greedy) := by
  intro s next hs hnext
  induction hlength : s.rest.length using Nat.strong_induction_on generalizing s with
  | _ length ih =>
    subst hlength
    rw [Attempt.looped]
    refine h s _ hs fun s' hs' hlen => ?_
    have hless : s'.rest.length < s.rest.length := hlen
    rw [dif_pos hless]
    refine ends_forkTo hinstr (ih _ hless s' (hs'.trans hs) (fun s'' hs'' hlen' => ?_) rfl)
      (hnext s' hs' hlen)
    exact hnext s'' (hs''.trans hs') (by omega)

/-! ### Repetitions -/

section Repetition

variable {body : Nat → List Instr} {length gain : Nat} (hlength : ∀ s, (body s).length = length)
  (hbody : ∀ s, Placed program s (body s) → Carries program text s (s + length) gain A)

include hlength hbody

/-- Copies of a body. -/
lemma copies {k start : Nat} (h : Placed program start (Expr.copies body k start)) :
    Carries program text start (start + k * length) (k * gain) (Attempt.copied A k) := by
  induction k generalizing start with
  | zero =>
    rw [Nat.zero_mul, Nat.zero_mul]
    exact nothing
  | succ k ih =>
    obtain ⟨hfirst, hrest⟩ := placed_append.1 h
    rw [hlength] at hrest
    have hboth := (hbody start hfirst).seq (ih hrest)
    rwa [Nat.add_assoc, Nat.add_comm length, Nat.add_comm gain, ← Nat.succ_mul,
      ← Nat.succ_mul] at hboth

/-- Options of a body. -/
lemma options {greedy : Bool} {k start exit : Nat}
    (h : Placed program start (Expr.options body greedy exit k start))
    (hexit : exit = start + k * (length + 1)) :
    Carries program text start exit 0 (Attempt.optional A greedy k) := by
  induction k generalizing start with
  | zero =>
    obtain rfl : exit = start := by simpa using hexit
    exact nothing
  | succ k ih =>
    obtain ⟨hfork, hrest⟩ := placed_append.1 h
    obtain ⟨hfork, hfirst⟩ := placed_cons.1 hfork
    rw [List.length_cons, hlength, Nat.add_comm length 1, ← Nat.add_assoc] at hrest
    have hmore := ih hrest (by rw [hexit, Nat.succ_mul]; omega)
    exact choice hfork (((hbody _ hfirst).seq hmore).mono (Nat.zero_le _)) nothing

/-- A loop over a body that takes a character each time. -/
lemma placedLoop {greedy : Bool} {start : Nat} (hgain : gain = 1)
    (h : Placed program start (Expr.loop body greedy start)) :
    Carries program text start (start + length + 1) 1 (Attempt.looped A greedy) := by
  obtain ⟨honce, hfork⟩ := placed_append.1 h
  obtain ⟨hfork, -⟩ := placed_cons.1 hfork
  rw [hlength] at hfork
  exact loop hfork (hgain ▸ hbody start honce)

/-- **The code of a repetition** makes the attempt as often as the bounds allow.

**Proof sketch.** Without an upper bound, the copies of the body that must match are followed by a
loop, or the loop as a whole may be left out. With an upper bound they are followed by the copies
that may be left out. -/
lemma repeated {least : Nat} {most : Option Nat} {greedy : Bool} {start : Nat}
    (hgain : most = none → gain = 1)
    (h : Placed program start (Expr.repeated body length least most greedy start)) :
    Carries program text start
      (start + (Expr.repeated body length least most greedy start).length)
      (if least = 0 then 0 else gain) (Attempt.repeated A least most greedy) := by
  rw [length_repeated hlength]
  cases most with
  | none =>
    cases least with
    | zero =>
      obtain ⟨hfork, hloop⟩ := placed_cons.1 h
      rw [length_loop hlength, ← Nat.add_assoc] at hfork
      have hmore := placedLoop hlength hbody (hgain rfl) hloop
      rw [if_pos rfl, if_pos rfl, show start + (length + 2) = start + 1 + length + 1 by omega]
      exact choice hfork (hmore.mono (Nat.zero_le _)) nothing
    | succ least =>
      obtain ⟨hcopies, hloop⟩ := placed_append.1 h
      rw [length_copies hlength] at hloop
      have hboth := (copies hlength hbody hcopies).seq (placedLoop hlength hbody (hgain rfl) hloop)
      rw [if_neg least.succ_ne_zero, if_neg least.succ_ne_zero, Nat.succ_mul, ← Nat.add_assoc,
        ← Nat.add_assoc, hgain rfl]
      exact hboth.mono (by omega)
  | some most =>
    obtain ⟨hcopies, hoptions⟩ := placed_append.1 h
    rw [length_copies hlength] at hoptions
    have hboth := (copies hlength hbody hcopies).seq (options hlength hbody hoptions rfl)
    rw [← Nat.add_assoc]
    refine hboth.mono ?_
    cases least with
    | zero => simp
    | succ least => simp [Nat.succ_mul]

end Repetition

/-! ### Expressions -/

/-- **The code of an expression does what its attempt does**, if no loop of it goes round on the
spot.

**Proof sketch.** Induction on the expression, along its code. Only a loop needs that its body takes
a character; all other parts are put together as they are. -/
lemma code {e : Expr} {start : Nat} (hadvances : e.advances = true)
    (h : Placed program start (e.code start)) :
    Carries program text start (start + e.codeLength) e.gain (e.attempt text) := by
  induction e generalizing start with
  | empty => exact nothing
  | chars set => exact take (placed_cons.1 h).1
  | look kind => exact ask (placed_cons.1 h).1
  | seq e f he hf =>
    obtain ⟨hfirst, hsecond⟩ := placed_seq h
    rw [Expr.advances, Bool.and_eq_true] at hadvances
    rw [Expr.codeLength, ← Nat.add_assoc]
    refine ((he hadvances.1 hfirst).seq (hf hadvances.2 hsecond)).mono ?_
    cases hn : e.nullable <;> cases hn' : f.nullable <;> simp [Expr.gain, Expr.nullable, hn, hn']
  | alt e f he hf =>
    obtain ⟨hfork, hfirst, hjump, hsecond⟩ := placed_alt h
    rw [Expr.advances, Bool.and_eq_true] at hadvances
    have hleft := (he hadvances.1 hfirst).seq (jump hjump)
    have hright := hf hadvances.2 hsecond
    rw [add_codeLength_alt]
    refine choice hfork (hleft.mono ?_) (hright.mono ?_) <;>
      cases hn : e.nullable <;> cases hn' : f.nullable <;> simp [Expr.gain, Expr.nullable, hn, hn']
  | repetition least most greedy body ih =>
    rw [Expr.advances, Bool.and_eq_true] at hadvances
    have hgain : most = none → body.gain = 1 := by
      rintro rfl
      simpa [Expr.gain] using hadvances.2
    rw [← length_code _ start]
    refine (repeated (length_code body) (fun _ => ih hadvances.1) hgain h).mono ?_
    cases least <;> cases hn : body.nullable <;> simp [Expr.gain, Expr.nullable, hn]
  | capture index body ih =>
    obtain ⟨hopen, hbody, hclose⟩ := placed_capture h
    rw [add_codeLength_capture]
    have hall := ((note hopen).seq (ih hadvances hbody)).seq (note hclose)
    rw [Nat.zero_add, Nat.add_zero] at hall
    exact hall

end Carries

/-! ### Searches -/

/-- What the first attempt that comes to something notes, of those from all positions of a text. -/
def Expr.notes? (e : Expr) (text : List Char) : Option Notes :=
  (List.range (text.length + 1)).findSome? fun i =>
    (Expr.capture 0 e).attempt text (fun s => some s.notes) ⟨text.drop i, []⟩

/-- The text of a group, by the notes of a search. -/
def groupOf (text : List Char) (index : Nat) (notes : Notes) : Option (List Char) := do
  let first ← notes.lookup (2 * index)
  let last ← notes.lookup (2 * index + 1)
  return slice text first last

/-- **What a search notes is what the first attempt notes that comes to something.** -/
lemma search_program_eq {e : Expr} (hadvances : e.advances = true) (text : List Char) :
    search e.program.toArray text.toArray = e.notes? text := by
  obtain ⟨hcode, haccept⟩ := placed_program e
  rw [Expr.notes?, ← List.size_toArray]
  refine search_eq fun i hi => ?_
  have hstart : (⟨text.drop i, []⟩ : Spot).thread text 0 = ⟨0, i, []⟩ := by
    rw [List.size_toArray] at hi
    simp only [Spot.thread, Spot.pos, List.length_drop]
    rw [Nat.sub_sub_self hi]
  rw [← hstart]
  have hcarries : Carries e.program.toArray text 0 (0 + (Expr.capture 0 e).codeLength) _
      ((Expr.capture 0 e).attempt text) := .code hadvances hcode
  exact hcarries _ _ (List.drop_suffix i text) fun s _ _ => .accept haccept

/-- The text of a group is told by what the attempts note. -/
lemma group?_eq_groupOf {e : Expr} (hadvances : e.advances = true) (index : Nat)
    (text : List Char) :
    group? ⟨e, e.program.toArray⟩ index text = (e.notes? text).bind (groupOf text index) := by
  rw [group?, search_program_eq hadvances]
  rfl

/-- A text that is compiled gives the program of the expression that it means. -/
lemma compile_eq {pattern : List Char} {e : Expr} (he : (exprOf pattern).toOption = some e)
    (hfits : e.fits = true) : compile pattern = .ok ⟨e, e.program.toArray⟩ := by
  rw [compile]
  cases hexpr : exprOf pattern with
  | error cause =>
    rw [hexpr] at he
    cases he
  | ok e' =>
    rw [hexpr] at he
    obtain rfl := Option.some.inj he
    exact if_pos hfits

end ImportAtlas.Regex
