import ImportAtlas.Json.Decode
import ImportAtlas.Sorted.Map

/-!
# Statistics of a scan

The counters of a scan. Those that only the whole scan knows are filled in at its end, so a merge
leaves them as they are.

## Main definitions

* `ImportAtlas.Statistics`: the counters.
* `ImportAtlas.Statistics.merge`: the counters of two parts of a scan together.
* `ImportAtlas.Statistics.toJson`, `ImportAtlas.Statistics.ofJson`: the counters as a document.
-/

namespace ImportAtlas

open Json

/-- The counters of a scan. -/
structure Statistics where
  /-- Files found. -/
  filesDiscovered : Nat
  /-- Files read, those without imports included. -/
  filesProcessed : Nat
  /-- Files that an exclude pattern left out. -/
  filesExcluded : Nat
  /-- Imports in the files read. -/
  importsFound : Nat
  /-- Imports that were kept. -/
  qualifyingImports : Nat
  /-- Imported platform modules. -/
  systemModules : Nat
  /-- Imported modules of the project. -/
  customModules : Nat
  /-- Modules that files belong to. -/
  projectModules : Nat
  /-- How often each excluded module was imported. -/
  excludedModules : SortedMap String Nat
  /-- The files that could not be read. -/
  unreadable : List String
  deriving DecidableEq

namespace Statistics

/-- Nothing counted. -/
def zero : Statistics := ⟨0, 0, 0, 0, 0, 0, 0, 0, ∅, []⟩

instance : Inhabited Statistics := ⟨zero⟩

/-- How many modules are imported. -/
def uniqueModules (s : Statistics) : Nat := s.systemModules + s.customModules

/-- How many modules were excluded. -/
def excludedModuleCount (s : Statistics) : Nat := s.excludedModules.size

/-- Count one more import of an excluded module. -/
def countExcluded (s : Statistics) (module : String) : Statistics :=
  { s with excludedModules := s.excludedModules.adjust module fun n => n.getD 0 + 1 }

/-- The counters of two parts of a scan together. -/
def merge (s t : Statistics) : Statistics :=
  { s with
    filesProcessed := s.filesProcessed + t.filesProcessed
    filesExcluded := s.filesExcluded + t.filesExcluded
    importsFound := s.importsFound + t.importsFound
    qualifyingImports := s.qualifyingImports + t.qualifyingImports
    excludedModules := s.excludedModules.absorb (fun old n => old.getD 0 + n) t.excludedModules
    unreadable := s.unreadable ++ t.unreadable }

/-! ### Documents -/

/-- The counters as a document. -/
def toJson (s : Statistics) : Value :=
  .record
    [("files_discovered", .count s.filesDiscovered),
     ("files_processed", .count s.filesProcessed),
     ("files_excluded", .count s.filesExcluded),
     ("imports_found", .count s.importsFound),
     ("qualifying_imports", .count s.qualifyingImports),
     ("system_modules", .count s.systemModules),
     ("custom_modules", .count s.customModules),
     ("project_modules", .count s.projectModules),
     ("excluded_modules", .record (s.excludedModules.entries.map fun e => (e.1, .count e.2))),
     ("unreadable", .texts s.unreadable)]

/-- The names of the counters in a document. -/
def fieldNames : List String :=
  ["files_discovered", "files_processed", "files_excluded", "imports_found", "qualifying_imports",
   "system_modules", "custom_modules", "project_modules", "excluded_modules", "unreadable"]

/-- The counters of a document. -/
def ofJson (v : Value) : Except DecodeError Statistics := do
  match ← v.asRecord fieldNames with
  | [discovered, processed, excluded, found, qualifying, system, custom, project, modules, files] =>
    return {
      filesDiscovered := ← discovered.asCount
      filesProcessed := ← processed.asCount
      filesExcluded := ← excluded.asCount
      importsFound := ← found.asCount
      qualifyingImports := ← qualifying.asCount
      systemModules := ← system.asCount
      customModules := ← custom.asCount
      projectModules := ← project.asCount
      excludedModules := .ofList (← modules.asBindings Value.asCount)
      unreadable := ← files.asList Value.asText }
  | _ => .error (.wrongLength fieldNames.length)

end Statistics

end ImportAtlas
