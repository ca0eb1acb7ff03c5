import Mathlib.Data.List.Basic
import Mathlib.Tactic.Lemma

/-!
# Lists of steps that can fail

A list of steps, each of which gives a result or an error, gives the list of all results or the
error of the first step that fails.

## Main definitions

* `ImportAtlas.refusal?`: the error of a result that is one.

## Main results

* `ImportAtlas.mapM_eq_ok_iff`: all steps succeed.
* `ImportAtlas.refusal?_mapM`: the first step that fails.
-/

namespace ImportAtlas

variable {α β ε : Type} {step : α → Except ε β} {l : List α}

/-- The error of a result that is one. -/
def refusal? : Except ε β → Option ε
  | .error e => some e
  | .ok _ => none

/-- A result is an error just if it has that error. -/
lemma refusal?_eq_some_iff {result : Except ε β} {e : ε} :
    refusal? result = some e ↔ result = .error e := by
  cases result <;> simp [refusal?]

/-- A list of steps succeeds just if each of them does. -/
lemma mapM_eq_ok_iff {results : List β} :
    l.mapM step = .ok results ↔ l.map step = results.map .ok := by
  induction l generalizing results with
  | nil => cases results <;> simp [pure, Except.pure]
  | cons a rest ih =>
    rw [List.mapM_cons, List.map_cons]
    cases step a with
    | error e => cases results <;> simp [bind, Except.bind]
    | ok b =>
      cases hrest : rest.mapM step with
      | error e => cases results <;> simp [bind, Except.bind, ← ih, hrest]
      | ok bs => cases results <;> simp [bind, Except.bind, pure, Except.pure, ← ih, hrest]

/-- Each result comes from one of the steps. -/
lemma exists_of_mem_mapM {results : List β} {b : β} (h : l.mapM step = .ok results)
    (hb : b ∈ results) : ∃ a ∈ l, step a = .ok b := by
  have hmem : Except.ok b ∈ l.map step := by
    rw [mapM_eq_ok_iff.1 h]
    exact List.mem_map_of_mem hb
  exact List.mem_map.1 hmem

/-- What every step leaves in its result can be read back from the results. -/
lemma map_eq_of_mapM {results : List β} {read : β → α} (h : l.mapM step = .ok results)
    (hread : ∀ a b, step a = .ok b → read b = a) : results.map read = l := by
  rw [mapM_eq_ok_iff] at h
  induction l generalizing results with
  | nil => simpa using h
  | cons a rest ih =>
    obtain ⟨b, others, rfl, hb, hothers⟩ := List.map_eq_cons_iff.1 h.symm
    rw [List.map_cons, hread a b hb.symm, ih hothers.symm]

/-- The steps of a list that is put together succeed in its parts. -/
lemma exists_of_mapM_append {l' : List α} {results : List β}
    (h : (l ++ l').mapM step = .ok results) :
    ∃ first second, results = first ++ second ∧ l.mapM step = .ok first ∧
      l'.mapM step = .ok second := by
  rw [mapM_eq_ok_iff, List.map_append] at h
  obtain ⟨first, second, rfl, hfirst, hsecond⟩ := List.map_eq_append_iff.1 h.symm
  exact ⟨first, second, rfl, mapM_eq_ok_iff.2 hfirst.symm, mapM_eq_ok_iff.2 hsecond.symm⟩

/-- A list of steps fails with the error of the first one that fails. -/
lemma refusal?_mapM : refusal? (l.mapM step) = l.findSome? fun a => refusal? (step a) := by
  induction l with
  | nil => rfl
  | cons a rest ih =>
    rw [List.mapM_cons, List.findSome?_cons, ← ih]
    cases step a with
    | error e => rfl
    | ok b => cases rest.mapM step <;> rfl

end ImportAtlas
