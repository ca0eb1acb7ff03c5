import ImportAtlas.Proofs.Regex.Attempt

/-!
# Expressions that read in one way

An attempt goes back and takes less where what follows comes to nothing. For many expressions this
is in vain: whatever follows would fail on what they could leave. Such an expression does what a
reader does that never goes back, and this is kept when expressions are put together.

## Main definitions

* `ImportAtlas.Regex.Expr.Reads`: an expression takes what a reader takes, and in no other way.

## Main results

* `ImportAtlas.Regex.Expr.Reads.seq`, `ImportAtlas.Regex.Expr.Reads.optional`,
  `ImportAtlas.Regex.Expr.Reads.star`, `ImportAtlas.Regex.Expr.Reads.plus`: the ways to put
  expressions together.
* `ImportAtlas.Regex.Expr.reads_star_chars`, `ImportAtlas.Regex.Expr.reads_plus_chars`: a run of
  characters of a set.
-/

namespace ImportAtlas.Regex.Expr

open Unicode

variable {β : Type} {text : List Char} {next : Spot → Option β} {e f : Expr}
  {reader reader' : List Char → Option (List Char)} {barred barred' : List Char → Prop}
  {skip : List Char → List Char}

/-- An expression takes what a reader takes, and in no other way, if what follows comes to nothing
on the texts that are barred. It makes no notes. -/
structure Reads (e : Expr) (reader : List Char → Option (List Char)) (barred : List Char → Prop) :
    Prop where
  /-- What the reader leaves is an end of the text. -/
  suffix : ∀ {rest rest' : List Char}, reader rest = some rest' → rest' <:+ rest
  /-- What comes of a spot is what comes of the one where the reader stops. -/
  attempt_eq : ∀ {β : Type} {text : List Char} {next : Spot → Option β},
    (∀ s : Spot, s.rest <:+ text → barred s.rest → next s = none) → ∀ s : Spot, s.rest <:+ text →
      e.attempt text next s = (reader s.rest).bind fun rest => next ⟨rest, s.notes⟩

/-- The text behind its first character, if that belongs to a set. -/
def takeOne (set : CharSet) : List Char → Option (List Char)
  | c :: rest => if set.contains c then some rest else none
  | [] => none

/-- What is left behind a character. -/
lemma takeOne_eq_some_iff {set : CharSet} {rest rest' : List Char} :
    takeOne set rest = some rest' ↔ ∃ c, rest = c :: rest' ∧ set.contains c = true := by
  cases rest with
  | nil => simp [takeOne]
  | cons c rest => by_cases hc : set.contains c = true <;> simp [takeOne, hc]

/-- A character of a set. -/
lemma reads_chars (set : CharSet) : (Expr.chars set).Reads (takeOne set) fun _ => False where
  suffix h := by
    obtain ⟨c, rfl, -⟩ := takeOne_eq_some_iff.1 h
    exact List.suffix_cons c _
  attempt_eq := by
    rintro β text next - ⟨rest, notes⟩ -
    cases rest with
    | nil => rfl
    | cons c rest => by_cases hc : set.contains c = true <;> simp [attempt, takeOne, hc]

namespace Reads

/-- More texts may be barred. -/
lemma mono (h : e.Reads reader barred) (hsub : ∀ rest, barred rest → barred' rest) :
    e.Reads reader barred' where
  suffix := h.suffix
  attempt_eq hnext := h.attempt_eq fun s hs hbarred => hnext s hs (hsub s.rest hbarred)

/-- The reader may be told in another way. -/
lemma congr (h : e.Reads reader barred) (hsame : ∀ rest, reader rest = reader' rest) :
    e.Reads reader' barred := by
  rwa [funext hsame] at h

/-- Where nothing is barred, anything may follow. -/
lemma free (h : e.Reads reader fun _ => False) (next : Spot → Option β) {s : Spot}
    (hs : s.rest <:+ text) :
    e.attempt text next s = (reader s.rest).bind fun rest => next ⟨rest, s.notes⟩ :=
  h.attempt_eq (fun _ _ => False.elim) s hs

/-- One expression and then another, which leaves what is barred behind it where it starts with what
is barred behind the first. -/
lemma seq (h : e.Reads reader barred) (h' : f.Reads reader' barred')
    (hpass : ∀ rest, barred rest → ∀ rest' ∈ reader' rest, barred' rest') :
    (Expr.seq e f).Reads (fun rest => (reader rest).bind reader') barred' where
  suffix hread := by
    obtain ⟨mid, hmid, hrest⟩ := Option.bind_eq_some_iff.1 hread
    exact (h'.suffix hrest).trans (h.suffix hmid)
  attempt_eq {β text next} hnext s hs := by
    have hsecond := h'.attempt_eq hnext
    have hbarred : ∀ s : Spot, s.rest <:+ text → barred s.rest → f.attempt text next s = none := by
      intro s hs hb
      rw [hsecond s hs]
      refine Option.bind_eq_none_iff.2 fun rest hrest => ?_
      exact hnext ⟨rest, s.notes⟩ ((h'.suffix hrest).trans hs) (hpass s.rest hb rest hrest)
    have hfirst : (Expr.seq e f).attempt text next s = e.attempt text (f.attempt text next) s := rfl
    rw [hfirst, h.attempt_eq hbarred s hs, Option.bind_assoc]
    refine Option.bind_congr fun rest hrest => ?_
    exact hsecond ⟨rest, s.notes⟩ ((h.suffix hrest).trans hs)

/-- An expression or nothing, whichever goes on. -/
lemma optional (h : e.Reads reader barred) :
    (Expr.repetition 0 (some 1) true e).Reads (fun rest => some ((reader rest).getD rest))
      fun rest => barred rest ∨ (reader rest).isSome = true where
  suffix {rest rest'} hread := by
    obtain rfl := Option.some.inj hread
    cases hreader : reader rest with
    | none => exact List.suffix_refl rest
    | some rest' => exact h.suffix hreader
  attempt_eq {β text next} hnext s hs := by
    have hmore := h.attempt_eq (fun s hs hbarred => hnext s hs (.inl hbarred)) s hs
    have hopt : (Expr.repetition 0 (some 1) true e).attempt text next s =
        (e.attempt text next s).or (next s) := rfl
    cases hreader : reader s.rest with
    | none => simp [hopt, hmore, hreader]
    | some rest =>
      have hstop : next s = none := hnext s hs (.inr (by rw [hreader]; rfl))
      simp [hopt, hmore, hreader, hstop]

/-! ### Loops -/

section Loops

variable (h : e.Reads reader barred) (hfail : ∀ rest, barred rest → reader rest = none)
  (hshorter : ∀ {rest rest'}, reader rest = some rest' → rest'.length < rest.length)
  (hskip : ∀ rest, skip rest = ((reader rest).map skip).getD rest)

include h hshorter hskip

/-- What is left behind all that a reader takes is an end of the text. -/
lemma skip_suffix (rest : List Char) : skip rest <:+ rest := by
  induction hlength : rest.length using Nat.strong_induction_on generalizing rest with
  | _ length ih =>
    subst hlength
    rw [hskip rest]
    cases hreader : reader rest with
    | none => exact List.suffix_refl rest
    | some rest' => exact (ih _ (hshorter hreader) rest' rfl).trans (h.suffix hreader)

include hfail

/-- A loop reads once, and then as often as the reader goes on.

**Proof sketch.** Induction on what is left of the text. Behind the first time round there is less,
so that the next one is known to do what the reader does. So it fails on what is barred, and the
first one is a reading too. -/
lemma looped_eq (hnext : ∀ s : Spot, s.rest <:+ text →
      barred s.rest ∨ (reader s.rest).isSome = true → next s = none)
    (s : Spot) (hs : s.rest <:+ text) :
    Attempt.looped (e.attempt text) true next s =
      (reader s.rest).bind fun rest => next ⟨skip rest, s.notes⟩ := by
  induction hlength : s.rest.length using Nat.strong_induction_on generalizing s with
  | _ length ih =>
    subst hlength
    rw [Attempt.looped, h.attempt_eq (fun s' hs' hbarred => ?_) s hs]
    · refine Option.bind_congr fun rest hrest => ?_
      have hless := hshorter hrest
      have hends := (h.suffix hrest).trans hs
      rw [prefer, if_pos rfl, dif_pos hless, ih _ hless ⟨rest, s.notes⟩ hends rfl, hskip rest]
      cases hagain : reader rest with
      | none => rfl
      | some rest' =>
        have hstop : next ⟨rest, s.notes⟩ = none :=
          hnext ⟨rest, s.notes⟩ hends (.inr (by rw [hagain]; rfl))
        rw [hstop, Option.or_none]
        rfl
    · -- the rest of the loop fails on what is barred
      rw [prefer, if_pos rfl, hnext s' hs' (.inl hbarred), Option.or_none]
      split
      · rename_i hless
        rw [ih _ hless s' hs' rfl, hfail s'.rest hbarred, Option.bind_none]
      · rfl

/-- An expression as often as it goes on. -/
lemma star : (Expr.repetition 0 none true e).Reads (fun rest => some (skip rest))
    fun rest => barred rest ∨ (reader rest).isSome = true where
  suffix {rest rest'} hread := by
    obtain rfl := Option.some.inj hread
    exact skip_suffix h hshorter hskip rest
  attempt_eq {β text next} hnext s hs := by
    have hstar : (Expr.repetition 0 none true e).attempt text next s =
        (Attempt.looped (e.attempt text) true next s).or (next s) := rfl
    have hloop := looped_eq h hfail hshorter hskip hnext s hs
    cases hreader : reader s.rest with
    | none => simp [hstar, hloop, hskip s.rest, hreader]
    | some rest =>
      have hstop : next s = none := hnext s hs (.inr (by rw [hreader]; rfl))
      simp [hstar, hloop, hskip s.rest, hreader, hstop]

/-- An expression once, and then as often as it goes on. -/
lemma plus : (Expr.repetition 1 none true e).Reads (fun rest => (reader rest).map skip)
    fun rest => barred rest ∨ (reader rest).isSome = true where
  suffix {rest rest'} hread := by
    obtain ⟨mid, hmid, rfl⟩ := Option.map_eq_some_iff.1 hread
    exact (skip_suffix h hshorter hskip mid).trans (h.suffix hmid)
  attempt_eq {β text next} hnext s hs := by
    have hplus : (Expr.repetition 1 none true e).attempt text next s =
        Attempt.looped (e.attempt text) true next s := rfl
    rw [hplus, looped_eq h hfail hshorter hskip hnext s hs, Option.bind_map]
    rfl

end Loops

end Reads

/-! ### Runs of characters -/

section Runs

variable {set : CharSet} {p : Char → Bool} (hset : ∀ c, set.contains c = p c)

include hset

/-- One more character can be taken just where a run goes on. -/
lemma isSome_takeOne_iff {rest : List Char} :
    (takeOne set rest).isSome = true ↔ ∃ c ∈ rest.head?, p c = true := by
  cases rest with
  | nil => simp [takeOne]
  | cons c rest => by_cases hc : p c = true <;> simp [takeOne, hset, hc]

/-- A run of characters goes on as long as there is one more. -/
lemma dropWhile_eq_takeOne (rest : List Char) :
    rest.dropWhile p = ((takeOne set rest).map (List.dropWhile p)).getD rest := by
  cases rest with
  | nil => rfl
  | cons c rest => by_cases hc : p c = true <;> simp [takeOne, hset, hc]

omit hset in
/-- What is left behind a character is shorter. -/
lemma length_lt_of_takeOne {rest rest' : List Char} (h : takeOne set rest = some rest') :
    rest'.length < rest.length := by
  obtain ⟨c, rfl, -⟩ := takeOne_eq_some_iff.1 h
  exact Nat.lt_succ_self _

/-- **A run of characters of a set** is read as far as it goes, before what does not begin with
another one. -/
lemma reads_star_chars : (Expr.repetition 0 none true (.chars set)).Reads
    (fun rest => some (rest.dropWhile p)) fun rest => ∃ c ∈ rest.head?, p c = true :=
  ((reads_chars set).star (fun _ => False.elim) length_lt_of_takeOne
    (dropWhile_eq_takeOne hset)).mono fun _ hs => hs.elim False.elim (isSome_takeOne_iff hset).1

/-- A run of characters of a set that is not empty. -/
lemma reads_plus_chars : (Expr.repetition 1 none true (.chars set)).Reads
    (fun rest => (takeOne set rest).map (List.dropWhile p))
    fun rest => ∃ c ∈ rest.head?, p c = true :=
  ((reads_chars set).plus (fun _ => False.elim) length_lt_of_takeOne
    (dropWhile_eq_takeOne hset)).mono fun _ hs => hs.elim False.elim (isSome_takeOne_iff hset).1

end Runs

end ImportAtlas.Regex.Expr
