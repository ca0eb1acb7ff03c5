import ImportAtlas.Module.Kind
import ImportAtlas.Rules.Basic

/-!
# Decisions on imports

What becomes of an import in a scan. It is left out if an exclude pattern matches its name, if it
names a platform module and those are not wanted, or if it names the importing module itself, asked
in this order; otherwise it is kept.

## Main definitions

* `ImportAtlas.Decision`: the outcomes.
* `ImportAtlas.Filter`: the rules and the wish for platform modules.
* `ImportAtlas.Filter.decide`: the outcome for an import.
* `ImportAtlas.Filter.skipsFile`: whether a file is left out with all its imports.
-/

namespace ImportAtlas

/-- What becomes of an import. -/
inductive Decision where
  /-- It is kept, and names a module of that kind. -/
  | keep (kind : ModuleKind)
  /-- An exclude pattern matches it. -/
  | excluded
  /-- It names a platform module, and those are not wanted. -/
  | suppressed
  /-- It names the importing module. -/
  | selfImport
  deriving Repr, DecidableEq

/-- What decides on files and imports. -/
structure Filter where
  /-- The rules of the scan. -/
  rules : RuleSet
  /-- Whether platform modules are wanted. -/
  includeSystem : Bool

namespace Filter

/-- Whether a file is left out with all its imports, by its path below the root. -/
def skipsFile (f : Filter) (path : String) : Bool := f.rules.excludesText path

/-- What becomes of the import of `token` by a file of `module`. -/
def decide (f : Filter) (module token : String) : Decision :=
  if f.rules.excludesText token then .excluded
  else
    let kind := ModuleKind.classify token
    if kind = .system ∧ f.includeSystem = false then .suppressed
    else if token = module then .selfImport
    else .keep kind

end Filter

end ImportAtlas
