import ImportAtlas.Complaint
import ImportAtlas.Regex.Basic
import ImportAtlas.Rules.Wildcard

/-!
# Rules

The rules of a scan. A module pattern is a regular expression whose first group gives a module's
name; an exclude pattern is a wildcard for paths of files and for names of modules.

## Main definitions

* `ImportAtlas.ModuleRule`: a module pattern.
* `ImportAtlas.ExcludeRule`: an exclude pattern.
* `ImportAtlas.RuleSet`: the rules of a scan.
* `ImportAtlas.RuleError`: why a pattern is refused.
-/

namespace ImportAtlas

open Regex

/-! ### Errors -/

/-- Why a pattern is refused. -/
inductive RuleError where
  /-- A module pattern is no regular expression. -/
  | modulePattern (pattern : String) (cause : PatternError)
  /-- A module pattern has no group. -/
  | noGroup (pattern : String)
  /-- An exclude pattern cannot be used. -/
  | excludePattern (pattern : String) (cause : PatternError)
  deriving Repr, DecidableEq

/-- What the user is told. -/
def RuleError.complaint : RuleError → Complaint
  | .modulePattern pattern cause =>
    ⟨"Invalid module pattern '" ++ pattern ++ "': ", some cause.message⟩
  | .noGroup pattern => ⟨"Module pattern '" ++ pattern ++ "' has no capture group", none⟩
  | .excludePattern pattern cause =>
    ⟨"Invalid exclude pattern '" ++ pattern ++ "': ", some cause.message⟩

/-! ### Module patterns -/

/-- A module pattern. -/
structure ModuleRule where
  /-- Its text. -/
  source : String
  /-- The regular expression. -/
  regex : Regex

namespace ModuleRule

/-- The module pattern of a text, which must have a group. -/
def compile (source : String) : Except RuleError ModuleRule :=
  match Regex.compile source.toList with
  | .error e => .error (.modulePattern source e)
  | .ok r => if r.groups = 0 then .error (.noGroup source) else .ok ⟨source, r⟩

/-- The name that the pattern gives to a path: the text of its first group, unless that is empty. -/
def capture? (rule : ModuleRule) (path : String) : Option String :=
  ((rule.regex.group? 1 path.toList).filter (· ≠ [])).map String.ofList

end ModuleRule

/-! ### Exclude patterns -/

/-- An exclude pattern. -/
structure ExcludeRule where
  /-- Its text. -/
  source : String
  /-- The wildcard as a regular expression. -/
  regex : Regex

namespace ExcludeRule

/-- The exclude pattern of a text. -/
def compile (source : String) : Except RuleError ExcludeRule :=
  match Regex.compile (Wildcard.patternText source.toList) with
  | .error e => .error (.excludePattern source e)
  | .ok r => .ok ⟨source, r⟩

/-- Whether the pattern matches a whole text. -/
def isMatch (rule : ExcludeRule) (text : String) : Bool := rule.regex.isMatch text.toList

end ExcludeRule

/-! ### Rule sets -/

/-- The rules of a scan. -/
structure RuleSet where
  /-- The module patterns; the first that gives a name counts. -/
  modules : List ModuleRule
  /-- The exclude patterns. -/
  excludes : List ExcludeRule

namespace RuleSet

/-- No rules. -/
def empty : RuleSet := ⟨[], []⟩

instance : Inhabited RuleSet := ⟨empty⟩

/-- The rules of some texts. The first text that is refused gives the error, module patterns before
exclude patterns. -/
def compile (modules excludes : List String) : Except RuleError RuleSet :=
  return ⟨← modules.mapM ModuleRule.compile, ← excludes.mapM ExcludeRule.compile⟩

/-- Whether an exclude pattern matches the path of a file or the name of a module. -/
def excludesText (rules : RuleSet) (text : String) : Bool :=
  rules.excludes.any fun rule => rule.isMatch text

end RuleSet

end ImportAtlas
