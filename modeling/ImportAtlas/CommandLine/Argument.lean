/-!
# Arguments of the command line

The options and operands that the program knows, and the levels of its commands, at each of which
some of them may be given.

## Main definitions

* `ImportAtlas.CommandLine.Argument`: the options and operands.
* `ImportAtlas.CommandLine.Level`: the levels.
* `ImportAtlas.CommandLine.Level.options`, `ImportAtlas.CommandLine.Level.operand?`,
  `ImportAtlas.CommandLine.Level.commands`: what may be given at a level.
-/

namespace ImportAtlas.CommandLine

/-- The options and operands that the program knows. -/
inductive Argument where
  /-- Explains the command line. -/
  | help
  /-- Tells the version of the program. -/
  | version
  /-- Leaves out the summary. -/
  | quiet
  /-- Asks for more detail in the log. -/
  | verbose
  /-- Asks for a log without colours. -/
  | noColor
  /-- The root of the source tree. -/
  | path
  /-- The settings file. -/
  | config
  /-- A module pattern. -/
  | modulePattern
  /-- An exclude pattern. -/
  | exclude
  /-- Asks for platform modules. -/
  | includeSystem
  /-- Leaves ignore files and hidden names out of account. -/
  | noIgnore
  /-- The number of workers. -/
  | jobs
  /-- Where the drawing is written. -/
  | output
  /-- Where the report is written. -/
  | json
  /-- The format of an image. -/
  | render
  /-- Asks for the viewer. -/
  | viewer
  /-- The number of modules in a ranking. -/
  | top
  /-- The colours of the drawing. -/
  | theme
  /-- The direction of the drawing. -/
  | direction
  /-- The shape of the edges. -/
  | edgeShape
  /-- Whether there is a legend. -/
  | legend
  /-- The module that a question is about. -/
  | module
  /-- How a list is printed. -/
  | format
  /-- The shell that a script is for. -/
  | shell
  deriving Repr, DecidableEq

namespace Argument

/-- The long name of an option, or the name of an operand. -/
def name : Argument → String
  | help => "help"
  | version => "version"
  | quiet => "quiet"
  | verbose => "verbose"
  | noColor => "no-color"
  | path => "path"
  | config => "config"
  | modulePattern => "module-pattern"
  | exclude => "exclude"
  | includeSystem => "include-system"
  | noIgnore => "no-ignore"
  | jobs => "jobs"
  | output => "output"
  | json => "json"
  | render => "render"
  | viewer => "open"
  | top => "top"
  | theme => "dot-theme"
  | direction => "dot-rankdir"
  | edgeShape => "dot-splines"
  | legend => "dot-legend"
  | module => "module"
  | format => "format"
  | shell => "shell"

/-- The letter of an option that has one. -/
def letter? : Argument → Option Char
  | help => some 'h'
  | version => some 'V'
  | quiet => some 'q'
  | verbose => some 'v'
  | modulePattern => some 'p'
  | exclude => some 'e'
  | output => some 'o'
  | _ => none

/-- Whether an option comes with a value. -/
def takesValue : Argument → Bool
  | help => false
  | version => false
  | quiet => false
  | verbose => false
  | noColor => false
  | includeSystem => false
  | noIgnore => false
  | viewer => false
  | _ => true

end Argument

/-- The levels of the commands. -/
inductive Level where
  /-- Before any command. -/
  | start
  /-- Drawing a graph. -/
  | build
  /-- Listing modules. -/
  | modules
  /-- Before a question. -/
  | query
  /-- Asking what a module imports. -/
  | dependencies
  /-- Asking what imports a module. -/
  | dependents
  /-- Asking for a ranking. -/
  | top
  /-- Printing a script for a shell. -/
  | completions
  deriving Repr, DecidableEq

namespace Level

/-- The options about a scan. -/
def scanOptions : List Argument :=
  [.path, .config, .modulePattern, .exclude, .includeSystem, .noIgnore, .jobs]

/-- The options at every level. -/
def commonOptions : List Argument := [.help, .quiet, .verbose, .noColor]

/-- The options of a level alone. -/
def ownOptions : Level → List Argument
  | start => [.version]
  | build =>
    scanOptions ++
      [.output, .json, .render, .viewer, .top, .theme, .direction, .edgeShape, .legend]
  | modules => scanOptions ++ [.format]
  | query => []
  | dependencies => scanOptions ++ [.module, .format]
  | dependents => scanOptions ++ [.module, .format]
  | top => scanOptions ++ [.top, .format]
  | completions => []

/-- The options of a level. -/
def options (l : Level) : List Argument := l.ownOptions ++ commonOptions

/-- The operand of a level that has one. -/
def operand? : Level → Option Argument
  | completions => some .shell
  | _ => none

/-- The commands of a level with the levels that they lead to. -/
def commands : Level → List (String × Level)
  | start =>
    [("build", build), ("modules", modules), ("query", query), ("completions", completions)]
  | query => [("dependencies", dependencies), ("dependents", dependents), ("top", top)]
  | _ => []

/-- The command that explains the commands of a level. -/
def helpCommand : String := "help"

/-- Whether a word is a command of a level, the one that explains the others included. -/
def hasCommand (l : Level) (word : String) : Bool :=
  !l.commands.isEmpty && (word == helpCommand || (l.commands.lookup word).isSome)

/-- The option of a long name. -/
def named? (l : Level) (name : String) : Option Argument :=
  l.options.find? fun a => a.name == name

/-- The option of a letter. -/
def lettered? (l : Level) (letter : Char) : Option Argument :=
  l.options.find? fun a => a.letter? == some letter

end Level

end ImportAtlas.CommandLine
