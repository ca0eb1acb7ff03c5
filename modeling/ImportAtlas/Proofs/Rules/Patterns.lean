import ImportAtlas.Proofs.Steps
import ImportAtlas.Rules.Basic

/-!
# Patterns that are refused

The rules of a scan are compiled from two lists of texts, and the first text that is refused gives
the error. Here the two lists are one list of patterns, in the order in which they are looked at, so
that to be the first one refused is a property of a place in that list.

## Main definitions

* `ImportAtlas.RuleText`: the text of a pattern, with what the pattern is for.
* `ImportAtlas.FirstRefused`: the first text of a list that is refused gives an error.

## Main results

* `ImportAtlas.ModuleRule.compile_eq_ok_iff`, `ImportAtlas.ExcludeRule.compile_eq_ok_iff`: which
  texts are patterns.
* `ImportAtlas.RuleSet.compile_eq_ok_iff`: rules are compiled from each text by itself.
* `ImportAtlas.RuleSet.compile_eq_error_iff`: the error is that of the first text refused.
-/

namespace ImportAtlas

/-! ### Patterns -/

/-- The text of a pattern, with what the pattern is for. -/
inductive RuleText where
  /-- A module pattern. -/
  | ofModule (text : String)
  /-- An exclude pattern. -/
  | ofExclude (text : String)
  deriving Repr, DecidableEq

/-- The error of a text that is refused. -/
def RuleText.refusal? : RuleText → Option RuleError
  | .ofModule text => ImportAtlas.refusal? (ModuleRule.compile text)
  | .ofExclude text => ImportAtlas.refusal? (ExcludeRule.compile text)

/-- The first text of a list that is refused gives the error. -/
def FirstRefused (texts : List RuleText) (e : RuleError) : Prop :=
  ∃ before text after, texts = before ++ text :: after ∧
    (∀ other ∈ before, other.refusal? = none) ∧ text.refusal? = some e

/-- The first text refused is found by going through the list. -/
lemma firstRefused_iff {texts : List RuleText} {e : RuleError} :
    FirstRefused texts e ↔ texts.findSome? RuleText.refusal? = some e := by
  rw [List.findSome?_eq_some_iff, FirstRefused]
  exact exists_congr fun before => exists_congr fun text => exists_congr fun after =>
    and_congr_right fun _ => and_comm

/-- A module pattern is compiled just if its text is a regular expression with a group. -/
lemma ModuleRule.compile_eq_ok_iff {text : String} {rule : ModuleRule} :
    ModuleRule.compile text = .ok rule ↔
      rule.source = text ∧ Regex.compile text.toList = .ok rule.regex ∧ rule.regex.groups ≠ 0 := by
  unfold compile
  cases Regex.compile text.toList with
  | error e => simp
  | ok r =>
    dsimp only
    constructor
    · intro h
      split at h
      · cases h
      · rename_i hgroups
        obtain rfl := Except.ok.inj h
        exact ⟨rfl, rfl, hgroups⟩
    · rintro ⟨rfl, hr, hgroups⟩
      obtain rfl := Except.ok.inj hr
      exact if_neg hgroups

/-- An exclude pattern is compiled just if its wildcard is, as a regular expression. -/
lemma ExcludeRule.compile_eq_ok_iff {text : String} {rule : ExcludeRule} :
    ExcludeRule.compile text = .ok rule ↔
      rule.source = text ∧ Regex.compile (Wildcard.patternText text.toList) = .ok rule.regex := by
  unfold compile
  cases Regex.compile (Wildcard.patternText text.toList) with
  | error e => simp
  | ok r =>
    constructor
    · intro h
      obtain rfl := Except.ok.inj h
      exact ⟨rfl, rfl⟩
    · rintro ⟨rfl, hr⟩
      obtain rfl := Except.ok.inj hr
      rfl

/-! ### Rule sets -/

namespace RuleSet

variable {modules excludes : List String}

/-- **Rules are compiled from each text by itself.** -/
lemma compile_eq_ok_iff {rules : RuleSet} :
    RuleSet.compile modules excludes = .ok rules ↔
      modules.mapM ModuleRule.compile = .ok rules.modules ∧
        excludes.mapM ExcludeRule.compile = .ok rules.excludes := by
  unfold compile
  cases modules.mapM ModuleRule.compile with
  | error e => simp [bind, Except.bind]
  | ok ms =>
    cases excludes.mapM ExcludeRule.compile with
    | error e => simp [bind, Except.bind]
    | ok es =>
      cases rules
      simp [bind, Except.bind, pure, Except.pure]

/-- **The error is that of the first text refused**, module patterns before exclude patterns. -/
lemma compile_eq_error_iff {e : RuleError} :
    RuleSet.compile modules excludes = .error e ↔
      FirstRefused (modules.map .ofModule ++ excludes.map .ofExclude) e := by
  have hmodules : (modules.map .ofModule).findSome? RuleText.refusal? =
      refusal? (modules.mapM ModuleRule.compile) := by
    rw [refusal?_mapM, List.findSome?_map]
    rfl
  have hexcludes : (excludes.map .ofExclude).findSome? RuleText.refusal? =
      refusal? (excludes.mapM ExcludeRule.compile) := by
    rw [refusal?_mapM, List.findSome?_map]
    rfl
  rw [firstRefused_iff, List.findSome?_append, hmodules, hexcludes, ← refusal?_eq_some_iff]
  unfold compile
  cases modules.mapM ModuleRule.compile with
  | error e => rfl
  | ok rules => cases excludes.mapM ExcludeRule.compile <;> rfl

end RuleSet

end ImportAtlas
