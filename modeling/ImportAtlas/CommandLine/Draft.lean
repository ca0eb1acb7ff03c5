import ImportAtlas.Command.Request
import ImportAtlas.CommandLine.Argument
import ImportAtlas.Text.Numeral

/-!
# Drafts of requests

What the arguments of one level have said so far, and what they come to as a command.

## Main definitions

* `ImportAtlas.CommandLine.UsageError`: why a command line asks for nothing that can be done.
* `ImportAtlas.CommandLine.Draft`: what has been said.
* `ImportAtlas.CommandLine.Draft.switch`, `ImportAtlas.CommandLine.Draft.take`: one argument more.
* `ImportAtlas.CommandLine.Draft.command`: the command of a level.
-/

namespace ImportAtlas.CommandLine

/-! ### Errors -/

/-- Why a command line asks for nothing that can be done. -/
inductive UsageError where
  /-- The command line is to be explained. -/
  | help (level : Level)
  /-- The version of the program is to be told. -/
  | version
  /-- Nothing at all is said where a command is needed. -/
  | nothingSaid (level : Level)
  /-- No command is given. -/
  | missingCommand (level : Level)
  /-- A word is no command. -/
  | unknownCommand (word : String)
  /-- There is no such argument. -/
  | unknownArgument (text : String)
  /-- An option comes without its value. -/
  | missingValue (argument : Argument)
  /-- A value is none of those that are possible. -/
  | invalidValue (argument : Argument) (value : String)
  /-- A value is no number. -/
  | invalidNumber (argument : Argument) (value : String)
  /-- An argument that is needed is not given. -/
  | missingArgument (argument : Argument)
  /-- An option is given twice. -/
  | repeated (argument : Argument)
  /-- A value is given to an option that takes none. -/
  | surplusValue (argument : Argument) (value : String)
  deriving Repr, DecidableEq

namespace UsageError

/-- The exit code of an error: zero if the user asked for what is told. -/
def code : UsageError → Nat
  | help _ => 0
  | version => 0
  | _ => 2

/-- The name and the version of the program. -/
def versionText : String := "swift-module-graph 0.1.0\n"

/-- What is printed: the version if that is asked for. The wording of errors and explanations is
left to the library that reads command lines. -/
def output : UsageError → String
  | version => versionText
  | _ => ""

end UsageError

/-! ### Drafts -/

/-- What the arguments of one level have said so far. -/
structure Draft where
  /-- How talkative the program is to be. -/
  voice : Voice := {}
  /-- The root of the source tree. -/
  path : Option Path := none
  /-- The settings file. -/
  config : Option Path := none
  /-- Module patterns. -/
  modulePatterns : List String := []
  /-- Exclude patterns. -/
  excludes : List String := []
  /-- Whether platform modules are wanted. -/
  includeSystem : Bool := false
  /-- Whether ignore files and hidden names do not count. -/
  noIgnore : Bool := false
  /-- The number of workers. -/
  jobs : Option Nat := none
  /-- Where the drawing is written. -/
  output : Option Path := none
  /-- Where the report is written. -/
  report : Option Path := none
  /-- The format of an image. -/
  image : Option ImageFormat := none
  /-- Whether the viewer is wanted. -/
  viewer : Bool := false
  /-- The number of modules in a ranking. -/
  top : Option Nat := none
  /-- The colours of the drawing. -/
  theme : Option Drawing.Theme := none
  /-- The direction of the drawing. -/
  direction : Option Drawing.Direction := none
  /-- The shape of the edges. -/
  edgeShape : Option Drawing.EdgeShape := none
  /-- Whether there is a legend. -/
  legend : Option Bool := none
  /-- The module that a question is about. -/
  module : Option String := none
  /-- How a list is printed. -/
  format : Option ListFormat := none
  /-- The shell that a script is for. -/
  shell : Option Shell := none
  deriving Repr, DecidableEq

namespace Draft

/-! ### Arguments without a value -/

/-- An option turned on, which may happen once. -/
def turnOn (a : Argument) (isOn : Bool) : Except UsageError Bool :=
  if isOn then .error (.repeated a) else .ok true

/-- The greatest number of times that more detail can be asked for. -/
def maxVerbosity : Nat := 255

/-- The draft after an option without a value. -/
def switch (d : Draft) (a : Argument) (level : Level) : Except UsageError Draft :=
  match a with
  | .help => .error (.help level)
  | .version => .error .version
  | .quiet => do return { d with voice.quiet := ← turnOn a d.voice.quiet }
  | .verbose => .ok { d with voice.verbosity := min (d.voice.verbosity + 1) maxVerbosity }
  | .noColor => do return { d with voice.noColor := ← turnOn a d.voice.noColor }
  | .includeSystem => do return { d with includeSystem := ← turnOn a d.includeSystem }
  | .noIgnore => do return { d with noIgnore := ← turnOn a d.noIgnore }
  | .viewer => do return { d with viewer := ← turnOn a d.viewer }
  | _ => .error (.missingValue a)

/-! ### Arguments with a value -/

/-- The path of a text, which must not be empty. -/
def readPath (a : Argument) (text : String) : Except UsageError Path :=
  if text = "" then .error (.invalidValue a text) else .ok text

/-- The number of a text. -/
def readCount (a : Argument) (text : String) : Except UsageError Nat :=
  match Numeral.unsigned? text.toList with
  | some n => .ok n
  | none => .error (.invalidNumber a text)

/-- The choice of a name. -/
def readChoice {α : Type} (ofName? : String → Option α) (a : Argument) (text : String) :
    Except UsageError α :=
  match ofName? text with
  | some v => .ok v
  | none => .error (.invalidValue a text)

/-- The truth value of a name. -/
def onOff? : String → Option Bool
  | "on" => some true
  | "off" => some false
  | _ => none

/-- A value given, which may happen once. A second value is refused before it is read. -/
def once {α : Type} (a : Argument) (current : Option α) (value : Except UsageError α) :
    Except UsageError (Option α) :=
  if current.isSome then .error (.repeated a) else value.map some

/-- The draft after an argument with a value. -/
def take (d : Draft) (a : Argument) (v : String) : Except UsageError Draft :=
  match a with
  | .path => do return { d with path := ← once a d.path (readPath a v) }
  | .config => do return { d with config := ← once a d.config (readPath a v) }
  | .modulePattern => .ok { d with modulePatterns := d.modulePatterns ++ [v] }
  | .exclude => .ok { d with excludes := d.excludes ++ [v] }
  | .jobs => do return { d with jobs := ← once a d.jobs (readCount a v) }
  | .output => do return { d with output := ← once a d.output (readPath a v) }
  | .json => do return { d with report := ← once a d.report (readPath a v) }
  | .render => do return { d with image := ← once a d.image (readChoice ImageFormat.ofName? a v) }
  | .top => do return { d with top := ← once a d.top (readCount a v) }
  | .theme => do
    return { d with theme := ← once a d.theme (readChoice Drawing.Theme.ofName? a v) }
  | .direction => do
    return { d with direction := ← once a d.direction (readChoice Drawing.Direction.ofName? a v) }
  | .edgeShape => do
    return { d with edgeShape := ← once a d.edgeShape (readChoice Drawing.EdgeShape.ofName? a v) }
  | .legend => do return { d with legend := ← once a d.legend (readChoice onOff? a v) }
  | .module => do return { d with module := ← once a d.module (.ok v) }
  | .format => do return { d with format := ← once a d.format (readChoice ListFormat.ofName? a v) }
  | .shell => do return { d with shell := ← once a d.shell (readChoice Shell.ofName? a v) }
  | _ => .error (.surplusValue a v)

/-! ### Commands -/

/-- The choices about a scan. -/
def scan (d : Draft) : ScanRequest where
  root := d.path.getD "."
  settings := d.config
  modulePatterns := d.modulePatterns
  excludes := d.excludes
  includeSystem := d.includeSystem
  noIgnore := d.noIgnore
  jobs := d.jobs

/-- The choices about a drawing. -/
def build (d : Draft) : BuildRequest where
  scan := d.scan
  output := d.output
  report := d.report
  image := d.image
  opensViewer := d.viewer
  top := d.top
  theme := d.theme
  direction := d.direction
  edgeShape := d.edgeShape
  legend := d.legend

/-- A value that must have been given. -/
def required {α : Type} (a : Argument) : Option α → Except UsageError α
  | some v => .ok v
  | none => .error (.missingArgument a)

/-- The number of modules in a ranking that is asked for without a number. -/
def usualTop : Nat := 10

/-- The command of a level. -/
def command (d : Draft) (level : Level) : Except UsageError Command :=
  let format := d.format.getD .table
  match level with
  | .start => .error (if d = {} then .nothingSaid level else .missingCommand level)
  | .query => .error (if d = {} then .nothingSaid level else .missingCommand level)
  | .build => .ok (.build d.build)
  | .modules => .ok (.modules d.scan format)
  | .dependencies => do
    return .query d.scan (.dependencies (← required .module d.module)) format
  | .dependents => do return .query d.scan (.dependents (← required .module d.module)) format
  | .top => .ok (.query d.scan (.top (d.top.getD usualTop)) format)
  | .completions => do return .completions (← required .shell d.shell)

end Draft

end ImportAtlas.CommandLine
