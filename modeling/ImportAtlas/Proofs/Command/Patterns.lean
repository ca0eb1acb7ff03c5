import ImportAtlas.Command.Plan
import ImportAtlas.Proofs.Scan.Resolution

/-!
# Patterns of the settings and of the user

A plan joins two lists of patterns of each kind, those of the settings and those of the user. All of
them are compiled before anything is scanned, in a fixed order, and the first one refused is what
the user is told about. On each path one of the two lists of module patterns decides alone: that of
the settings if it captures anything there, and otherwise that of the user.

## Main definitions

* `ImportAtlas.ScanRequest.settingsFile?`: the settings file that a request reads.
* `ImportAtlas.ScanRequest.texts`: all patterns of a request, in the order in which they count.
* `ImportAtlas.RuleSet.Joins`: rules of the settings and of the user.

## Main results

* `ImportAtlas.ScanRequest.findSettings_eq`: the settings that a request is under.
* `ImportAtlas.RuleSet.Joins.of_rules`: what the rules of a request are.
* `ImportAtlas.ScanRequest.plan_joins`: what comes of planning a request.
-/

namespace ImportAtlas

/-- The settings file that a request reads: the one that it names, or else the one in the root, if
there is a file of that name. -/
def ScanRequest.settingsFile? (r : ScanRequest) (t : FileTree) : Option Path :=
  r.settings <|>
    if t.isFile (Settings.pathNear r.root) then some (Settings.pathNear r.root) else none

/-- All patterns of a request under some settings, in the order in which they count. -/
def ScanRequest.texts (r : ScanRequest) (s : ScanSettings) : List RuleText :=
  s.modulePatterns.map .ofModule ++ r.modulePatterns.map .ofModule ++
    s.excludes.map .ofExclude ++ r.excludes.map .ofExclude

/-- The rules are those of the settings and then those of the user. On each path the module patterns
of one of the two decide alone. -/
structure RuleSet.Joins (rules : RuleSet) (s : ScanSettings) (r : ScanRequest) : Prop where
  /-- No pattern is refused. -/
  accepted : ∀ text ∈ r.texts s, text.refusal? = none
  /-- The texts of the module patterns. -/
  modules : rules.modules.map (·.source) = s.modulePatterns ++ r.modulePatterns
  /-- The texts of the exclude patterns. -/
  excludes : rules.excludes.map (·.source) = s.excludes ++ r.excludes
  /-- Each module pattern is that of its text. -/
  compiledModules : ∀ rule ∈ rules.modules, ModuleRule.compile rule.source = .ok rule
  /-- Each exclude pattern is that of its text. -/
  compiledExcludes : ∀ rule ∈ rules.excludes, ExcludeRule.compile rule.source = .ok rule
  /-- The settings decide on the paths from which one of their module patterns captures a name, and
  the user on all others. -/
  resolves : ∃ own added, s.modulePatterns.mapM ModuleRule.compile = .ok own ∧
    r.modulePatterns.mapM ModuleRule.compile = .ok added ∧ ∀ path,
      ((∃ rule ∈ own, ∃ name, rule.Captures path name) →
        resolveModule rules.modules path = resolveModule own path) ∧
      ((∀ rule ∈ own, ∀ name, ¬rule.Captures path name) →
        resolveModule rules.modules path = resolveModule added path)

/-- **The settings that a request is under** are those of the file that it reads, and empty without
such a file. -/
lemma ScanRequest.findSettings_eq (r : ScanRequest) (t : FileTree) :
    r.findSettings t =
      match r.settingsFile? t with
      | some path => Settings.load t path
      | none => .ok {} := by
  unfold findSettings settingsFile? Settings.loadNear
  cases r.settings with
  | some path => rfl
  | none =>
    cases t.isFile (Settings.pathNear r.root) with
    | false => rfl
    | true =>
      change ((Settings.load t _).map some).map _ = Settings.load t (Settings.pathNear r.root)
      cases Settings.load t (Settings.pathNear r.root) <;> rfl

/-- The rules of a request are compiled, or the first of its patterns that is refused is why not. -/
lemma ScanRequest.rules_eq_error_iff {r : ScanRequest} {s : ScanSettings} {e : RuleError} :
    r.rules s = .error e ↔ FirstRefused (r.texts s) e := by
  rw [rules, RuleSet.compile_eq_error_iff, List.map_append, List.map_append, ← List.append_assoc]
  rfl

/-- **What the rules of a request are.** -/
lemma RuleSet.Joins.of_rules {r : ScanRequest} {s : ScanSettings} {rules : RuleSet}
    (h : r.rules s = .ok rules) : rules.Joins s r := by
  have haccepted : ∀ text ∈ r.texts s, text.refusal? = none := by
    refine List.findSome?_eq_none_iff.1 (Option.eq_none_iff_forall_ne_some.2 fun e he => ?_)
    rw [ScanRequest.rules_eq_error_iff.2 (firstRefused_iff.2 he)] at h
    cases h
  obtain ⟨hmodules, hexcludes⟩ := RuleSet.compile_eq_ok_iff.1 h
  obtain ⟨own, added, hjoined, hown, hadded⟩ := exists_of_mapM_append hmodules
  refine
    { accepted := haccepted
      modules := map_eq_of_mapM hmodules fun _ _ h => (ModuleRule.compile_eq_ok_iff.1 h).1
      excludes := map_eq_of_mapM hexcludes fun _ _ h => (ExcludeRule.compile_eq_ok_iff.1 h).1
      compiledModules := fun rule hrule => ?_
      compiledExcludes := fun rule hrule => ?_
      resolves := ⟨own, added, hown, hadded, fun path => ?_⟩ }
  · obtain ⟨text, -, htext⟩ := exists_of_mem_mapM hmodules hrule
    rwa [(ModuleRule.compile_eq_ok_iff.1 htext).1]
  · obtain ⟨text, -, htext⟩ := exists_of_mem_mapM hexcludes hrule
    rwa [(ExcludeRule.compile_eq_ok_iff.1 htext).1]
  -- The compiled patterns are cut where the texts are.
  · rw [hjoined]
    exact ⟨resolveModule_append_of_captures, resolveModule_append_of_not_captures⟩

/-- **What comes of planning a request.** If the settings file that the request reads cannot be
loaded, that is the error. Otherwise, if a pattern is refused, the error is that of the first one:
module patterns of the settings, then of the user, then exclude patterns of the settings, then of
the user. And otherwise the plan has the rules of the settings and of the user, in this order.

**Proof sketch.** The settings are looked for first, and the patterns are compiled after that. In
each case the plan, or the error, is the one that was met. -/
theorem ScanRequest.plan_joins (r : ScanRequest) (t : FileTree) :
    match r.plan t with
    | .error (.settings e) => ∃ path, r.settingsFile? t = some path ∧
        Settings.load t path = .error e
    | .error (.rule e) => ∃ settings, r.findSettings t = .ok settings ∧
        FirstRefused (r.texts settings.scanOrDefault) e
    | .ok (plan, settings) => r.findSettings t = .ok settings ∧
        plan.rules.Joins settings.scanOrDefault r := by
  cases hsettings : r.findSettings t with
  | error e =>
    have hplan : r.plan t = .error (.settings e) := by simp [plan, hsettings]
    rw [hplan]
    rw [findSettings_eq] at hsettings
    cases hfile : r.settingsFile? t with
    | none =>
      rw [hfile] at hsettings
      cases hsettings
    | some path =>
      rw [hfile] at hsettings
      exact ⟨path, rfl, hsettings⟩
  | ok settings =>
    cases hrules : r.rules settings.scanOrDefault with
    | error e =>
      have hplan : r.plan t = .error (.rule e) := by simp [plan, hsettings, hrules]
      rw [hplan]
      exact ⟨settings, rfl, rules_eq_error_iff.1 hrules⟩
    | ok rules =>
      have hplan : r.plan t = .ok (r.settle settings.scanOrDefault rules, settings) := by
        simp [plan, hsettings, hrules]
      rw [hplan]
      exact ⟨rfl, .of_rules hrules⟩

end ImportAtlas
