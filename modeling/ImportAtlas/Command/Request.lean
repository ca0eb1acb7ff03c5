import ImportAtlas.Drawing.Image
import ImportAtlas.Drawing.Options

/-!
# Requests

What a user asks the program to do. A choice that the user leaves open is none, and is settled by
the settings file or by a default.

## Main definitions

* `ImportAtlas.ScanRequest`: the choices about a scan.
* `ImportAtlas.BuildRequest`: the choices about a drawing and where it goes.
* `ImportAtlas.Command`: what the program can be asked to do.
* `ImportAtlas.Voice`: how talkative the program is to be.
* `ImportAtlas.Request`: a command with a voice.
-/

namespace ImportAtlas

/-- The choices about a scan. -/
structure ScanRequest where
  /-- The root of the source tree. -/
  root : Path := "."
  /-- The settings file; the one in the root, if any, unless it is named. -/
  settings : Option Path := none
  /-- Module patterns. -/
  modulePatterns : List String := []
  /-- Exclude patterns. -/
  excludes : List String := []
  /-- Whether platform modules are wanted. -/
  includeSystem : Bool := false
  /-- Whether ignore files and hidden names do not count. -/
  noIgnore : Bool := false
  /-- How many workers share the files. -/
  jobs : Option Nat := none
  deriving Repr, DecidableEq

/-- The choices about a drawing and where it goes. -/
structure BuildRequest where
  /-- The scan. -/
  scan : ScanRequest := {}
  /-- Where the drawing is written. -/
  output : Option Path := none
  /-- Where a report is written, if one is wanted. -/
  report : Option Path := none
  /-- The format of an image, if one is wanted. -/
  image : Option ImageFormat := none
  /-- Whether the result is shown in the viewer. -/
  opensViewer : Bool := false
  /-- How many modules the ranking shows. -/
  top : Option Nat := none
  /-- The colours of the drawing. -/
  theme : Option Drawing.Theme := none
  /-- Its direction. -/
  direction : Option Drawing.Direction := none
  /-- The shape of its edges. -/
  edgeShape : Option Drawing.EdgeShape := none
  /-- Whether a legend explains its nodes. -/
  legend : Option Bool := none
  deriving Repr, DecidableEq

/-- How a list is printed. -/
inductive ListFormat where
  /-- As a table. -/
  | table
  /-- As a JSON document. -/
  | document
  deriving Repr, DecidableEq

/-- The format of a name. -/
def ListFormat.ofName? : String → Option ListFormat
  | "text" => some .table
  | "json" => some .document
  | _ => none

/-- What can be asked about a module graph. -/
inductive Question where
  /-- Which modules does a module import? -/
  | dependencies (module : String)
  /-- Which modules import a module? -/
  | dependents (module : String)
  /-- Which modules are imported most often, down to a rank? -/
  | top (count : Nat)
  deriving Repr, DecidableEq

/-- The shells that complete command lines. -/
inductive Shell where
  /-- Bash. -/
  | bash
  /-- Elvish. -/
  | elvish
  /-- Fish. -/
  | fish
  /-- PowerShell. -/
  | powershell
  /-- Zsh. -/
  | zsh
  deriving Repr, DecidableEq

/-- The shell of a name. -/
def Shell.ofName? : String → Option Shell
  | "bash" => some .bash
  | "elvish" => some .elvish
  | "fish" => some .fish
  | "powershell" => some .powershell
  | "zsh" => some .zsh
  | _ => none

/-- What the program can be asked to do. -/
inductive Command where
  /-- Scan a tree and write the drawing of its graph. -/
  | build (request : BuildRequest)
  /-- List the modules that files belong to. -/
  | modules (scan : ScanRequest) (format : ListFormat)
  /-- Answer a question about the graph. -/
  | query (scan : ScanRequest) (question : Question) (format : ListFormat)
  /-- Print a script that completes command lines. -/
  | completions (shell : Shell)
  deriving Repr, DecidableEq

/-- How talkative the program is to be. -/
structure Voice where
  /-- Whether the summary is left out. -/
  quiet : Bool := false
  /-- How often more detail in the log is asked for. -/
  verbosity : Nat := 0
  /-- Whether the log is without colours. -/
  noColor : Bool := false
  deriving Repr, DecidableEq

/-- The voice of some outer words and of those within them. The inner words say how much detail is
wanted, if they say anything about it. -/
def Voice.within (outer inner : Voice) : Voice where
  quiet := outer.quiet || inner.quiet
  verbosity := if inner.verbosity = 0 then outer.verbosity else inner.verbosity
  noColor := outer.noColor || inner.noColor

/-- A command, and how talkative the program is to be. -/
structure Request where
  /-- How talkative the program is to be. -/
  voice : Voice := {}
  /-- What is to be done. -/
  command : Command
  deriving Repr, DecidableEq

end ImportAtlas
