import ImportAtlas.FileTree.Basic

/-!
# Starting other programs

A launcher is what a command knows of the programs around it: what comes of starting one of them in
a file tree.

## Main definitions

* `ImportAtlas.Invocation`: a program and its arguments.
* `ImportAtlas.Launcher`: what comes of an invocation.
* `ImportAtlas.Launcher.noPrograms`: the launcher where no file can be executed.
-/

namespace ImportAtlas

/-- A program and its arguments. -/
structure Invocation where
  /-- The name of the program, or its path. -/
  program : String
  /-- The arguments. -/
  arguments : List String
  deriving Repr, DecidableEq

/-- How a program that was started came to its end. -/
structure Ending where
  /-- Its exit code; none if something else stopped it. -/
  code : Option Nat
  /-- What it wrote to its error output. -/
  errors : List UInt8
  deriving Repr, DecidableEq

/-- Whether a program ended well. -/
def Ending.isSuccess (e : Ending) : Bool := e.code == some 0

/-- Why a program does not start. -/
inductive LaunchError where
  /-- Its file cannot be found or used. -/
  | file (cause : FileError)
  /-- A character in its name or in an argument may not stand there. -/
  | nulInText
  deriving Repr, DecidableEq

/-- The wording of a launch error. -/
def LaunchError.message : LaunchError → String
  | .file cause => cause.message
  | .nulInText => "nul byte found in provided data"

/-- What comes of an invocation in a file tree: how the program ended, and the tree after it. -/
abbrev Launcher := FileTree → Invocation → Except LaunchError (Ending × FileTree)

/-- Whether the name or an argument has a character that may not stand there. -/
def Invocation.holdsNul (i : Invocation) : Bool :=
  (i.program :: i.arguments).any fun text => text.toList.contains '\x00'

/-- The launcher where no file can be executed. A name without a slash is looked for in a search
path that leads nowhere. -/
def Launcher.noPrograms : Launcher := fun t i =>
  if i.holdsNul then .error .nulInText
  else if i.program.toList.contains '/' then
    match t.entry i.program with
    | .ok _ => .error (.file .permissionDenied)
    | .error e => .error (.file e)
  else .error (.file .notFound)

end ImportAtlas
