import ImportAtlas.Command.Request
import ImportAtlas.Scan.Run
import ImportAtlas.Settings.File

/-!
# Plans

What a request comes to under the settings. A choice of the user comes first, then the settings,
then the default; patterns of the settings come before those of the user, and a flag is on if either
turns it on.

## Main definitions

* `ImportAtlas.PlanError`: why a request comes to nothing.
* `ImportAtlas.ScanRequest.plan`: the scan that is asked for, and the settings.
* `ImportAtlas.DrawSettings.options`, `ImportAtlas.BuildRequest.options`: how a graph is drawn.
* `ImportAtlas.BuildPlan`, `ImportAtlas.BuildRequest.settle`: all choices about a drawing.
-/

namespace ImportAtlas

/-- Why a request comes to nothing. -/
inductive PlanError where
  /-- The settings cannot be used. -/
  | settings (cause : SettingsError)
  /-- A pattern is refused. -/
  | rule (cause : RuleError)
  deriving Repr, DecidableEq

/-- What the user is told. -/
def PlanError.complaint : PlanError → Complaint
  | .settings e => e.complaint
  | .rule e => e.complaint

/-! ### Scans -/

namespace ScanRequest

/-- The settings that a request is under. -/
def findSettings (r : ScanRequest) (t : FileTree) : Except SettingsError Settings :=
  match r.settings with
  | some path => Settings.load t path
  | none => (Settings.loadNear t r.root).map fun found => found.getD {}

/-- The rules of a request under some settings. -/
def rules (r : ScanRequest) (s : ScanSettings) : Except RuleError RuleSet :=
  RuleSet.compile (s.modulePatterns ++ r.modulePatterns) (s.excludes ++ r.excludes)

/-- The scan of a request under some settings, with rules that are compiled already. -/
def settle (r : ScanRequest) (s : ScanSettings) (rules : RuleSet) : ScanPlan where
  root := r.root
  rules := rules
  includeSystem := r.includeSystem || s.includeSystem.getD false
  noIgnore := r.noIgnore || s.noIgnore.getD false
  jobs := (r.jobs <|> s.jobs).getD 0

/-- The scan that is asked for, and the settings. -/
def plan (r : ScanRequest) (t : FileTree) : Except PlanError (ScanPlan × Settings) :=
  match r.findSettings t with
  | .error e => .error (.settings e)
  | .ok settings =>
    match r.rules settings.scanOrDefault with
    | .error e => .error (.rule e)
    | .ok rules => .ok (r.settle settings.scanOrDefault rules, settings)

end ScanRequest

/-! ### Drawings -/

/-- How many modules a ranking shows if nothing else is said. -/
def defaultTop : Nat := 10

/-- Where a drawing is written if nothing else is said. -/
def defaultOutput : Path := "module_dependencies.dot"

/-- All choices about a drawing. -/
structure BuildPlan where
  /-- How it is drawn. -/
  options : Drawing.Options
  /-- Where it is written. -/
  output : Path
  /-- How many modules the ranking shows. -/
  top : Nat
  deriving Repr, DecidableEq

/-- How a graph is drawn under the settings alone. A name that means nothing leaves the default. -/
def DrawSettings.options (s : DrawSettings) (includeSystem : Bool) : Drawing.Options :=
  let usual : Drawing.Options := {}
  { theme := match s.theme with
      | some name => if name = "dark" then .dark else .light
      | none => usual.theme
    direction := match s.direction with
      | some name => if name = "TB" then .topToBottom else .leftToRight
      | none => usual.direction
    edgeShape := match s.edgeShape with
      | some "ortho" => .ortho
      | some "polyline" => .polyline
      | some _ => .curved
      | none => usual.edgeShape
    legend := s.legend.getD usual.legend
    includeSystem := includeSystem }

namespace BuildRequest

/-- How a graph is drawn: as the user says, and otherwise as under the settings alone. -/
def options (r : BuildRequest) (s : DrawSettings) (includeSystem : Bool) : Drawing.Options :=
  let drawn := s.options includeSystem
  { drawn with
    theme := r.theme.getD drawn.theme
    direction := r.direction.getD drawn.direction
    edgeShape := r.edgeShape.getD drawn.edgeShape
    legend := r.legend.getD drawn.legend }

/-- All choices about a drawing, under the settings and the scan that it belongs to. -/
def settle (r : BuildRequest) (settings : Settings) (scan : ScanPlan) : BuildPlan where
  options := r.options settings.drawOrDefault scan.includeSystem
  output := (r.output <|> settings.scanOrDefault.output).getD defaultOutput
  top := (r.top <|> settings.scanOrDefault.top).getD defaultTop

end BuildRequest

end ImportAtlas
