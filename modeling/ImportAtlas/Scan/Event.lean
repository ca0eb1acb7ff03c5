import ImportAtlas.FileTree.Basic
import ImportAtlas.Json.Value

/-!
# Events of a scan

What happens during a scan, for the log.

## Main definitions

* `ImportAtlas.Severity`: how much an event matters.
* `ImportAtlas.Event`: the events.
* `ImportAtlas.Event.severity`, `ImportAtlas.Event.fields`: what the log shows of an event.
-/

namespace ImportAtlas

open Json

/-- How much an event matters. -/
inductive Severity where
  /-- A detail. -/
  | debug
  /-- A step. -/
  | info
  /-- A failure that the program works around. -/
  | warn
  /-- A failure. -/
  | error
  deriving Repr, DecidableEq

/-- The name of a severity. -/
def Severity.name : Severity → String
  | .debug => "DEBUG"
  | .info => "INFO"
  | .warn => "WARN"
  | .error => "ERROR"

/-- What happens during a scan or a command. -/
inductive Event where
  /-- The scan of a root begins. -/
  | scanning (root : Path) (moduleRules excludes : Nat) (includeSystem : Bool)
  /-- All modules that files belong to are known. -/
  | registryBuilt (modules : Nat)
  /-- The walk failed at a directory or an ignore file. -/
  | walkFailed
  /-- An exclude pattern left out an import of a file. -/
  | importExcluded (module file : String)
  /-- An exclude pattern left out a file. -/
  | fileExcluded (file : String)
  /-- A file could not be read. -/
  | fileUnreadable (file : String) (cause : FileError)
  /-- The scan is at its end. -/
  | scanComplete (files imports modules edges : Nat)
  /-- A step of a command failed, and the command goes on. -/
  | setback (text : String)
  deriving Repr, DecidableEq

namespace Event

/-- How much an event matters. -/
def severity : Event → Severity
  | .scanning .. => .info
  | .registryBuilt .. => .debug
  | .walkFailed => .warn
  | .importExcluded .. => .debug
  | .fileExcluded .. => .debug
  | .fileUnreadable .. => .warn
  | .scanComplete .. => .info
  | .setback .. => .warn

/-- What the log shows of an event, in the order of the names. -/
def fields : Event → List (String × Value)
  | .scanning root moduleRules excludes includeSystem =>
    [("excludes", .count excludes), ("include_system", .bool includeSystem),
     ("message", .text "scanning"), ("module_rules", .count moduleRules), ("root", .text root)]
  | .registryBuilt modules =>
    [("message", .text "project module registry built"), ("modules", .count modules)]
  | .walkFailed => [("message", .text "walk error")]
  | .importExcluded module file =>
    [("file", .text file), ("message", .text "import excluded"), ("module", .text module)]
  | .fileExcluded file => [("file", .text file), ("message", .text "file excluded")]
  | .fileUnreadable file cause =>
    [("error", .text cause.message), ("file", .text file),
     ("message", .text "skipping unreadable file")]
  | .scanComplete files imports modules edges =>
    [("edges", .count edges), ("files", .count files), ("imports", .count imports),
     ("message", .text "scan complete"), ("modules", .count modules)]
  | .setback text => [("message", .text text)]

/-- Whether an event is shown whatever the log's detail. -/
def isWarning (e : Event) : Bool :=
  match e.severity with
  | .warn => true
  | .error => true
  | _ => false

/-- An event as a document. -/
def toJson (e : Event) : Value :=
  .record [("fields", .record e.fields), ("level", .text e.severity.name)]

end Event

end ImportAtlas
