import ImportAtlas.Graph.Document
import ImportAtlas.Scan.Run
import ImportAtlas.Table

/-!
# Reports

What the program tells about the outcome of a scan: rankings and lists as tables or documents, the
summary of a run, and the report file.

## Main definitions

* `ImportAtlas.rankingTable`, `ImportAtlas.rankingDocument`: a ranking.
* `ImportAtlas.ModuleRegistry.table`, `ImportAtlas.ModuleRegistry.document`: the modules that files
  belong to.
* `ImportAtlas.moduleList`: the answer to a question.
* `ImportAtlas.ScanOutcome.report`: the report file.
* `ImportAtlas.ScanOutcome.summary`: the summary of a run.
-/

namespace ImportAtlas

open Json

/-- The decimal digits of a number. -/
def countText (n : Nat) : String := String.ofList (Nat.toDigits 10 n)

/-! ### Rankings -/

/-- Rows with their ranks in front, from one on. -/
def ranked (rows : List (List String)) : List (List String) :=
  rows.mapIdx fun i row => countText (i + 1) :: row

/-- A ranking as a table. -/
def rankingTable (rows : List (String × ModuleInfo)) : Table :=
  ⟨["#", "Module", "Kind", "Refs"],
    ranked (rows.map fun (m, info) => [m, info.kind.name, countText info.count])⟩

/-- A ranking as a document. -/
def rankingDocument (rows : List (String × ModuleInfo)) : Value :=
  .array (rows.map fun (m, info) =>
    .record [("module", .text m), ("kind", .text info.kind.name), ("count", .count info.count)])

/-! ### Lists -/

/-- The modules that files belong to, as a table. -/
def ModuleRegistry.table (r : ModuleRegistry) : Table :=
  ⟨["Module", "Files"], r.entries.map fun (m, files) => [m, countText files]⟩

/-- The modules that files belong to, as a document. -/
def ModuleRegistry.document (r : ModuleRegistry) : Value :=
  .array (r.entries.map fun (m, files) => .record [("module", .text m), ("files", .count files)])

/-- A list of modules under a head, as a text. -/
def moduleList (head : String) (modules : List String) : String :=
  if modules.isEmpty then "<none>"
  else (Table.mk ["#", head] (ranked (modules.map fun m => [m]))).render

/-! ### Runs -/

namespace ScanOutcome

/-- The report file: the graph, the counters, and the ranking down to a rank. -/
def report (o : ScanOutcome) (top : Nat) : Value :=
  .record [("graph", o.graph.toJson), ("stats", o.statistics.toJson),
    ("top", rankingDocument (o.graph.ranking top))]

/-- The lines on the counters. -/
def counterLines (o : ScanOutcome) : List String :=
  let s := o.statistics
  ["  Files processed:  " ++ countText s.filesProcessed ++ " (excluded: " ++
      countText s.filesExcluded ++ ", unreadable: " ++ countText s.unreadable.length ++ ")",
   "  Imports:          " ++ countText s.qualifyingImports ++ " counted of " ++
      countText s.importsFound ++ " found",
   "  Modules:          " ++ countText s.uniqueModules ++ " (custom: " ++
      countText s.customModules ++ ", system: " ++ countText s.systemModules ++ ")",
   "  Dependencies:     " ++ countText o.graph.edges.size,
   "  Excluded modules: " ++ countText s.excludedModuleCount,
   "  Project modules:  " ++ countText s.projectModules] ++
    s.unreadable.map fun file => "  ! unreadable: " ++ file

/-- The lines on the ranking, if one is wanted and there is anything to rank. -/
def rankingLines (o : ScanOutcome) (top : Nat) : List String :=
  if 0 < top ∧ o.graph.targets.entries ≠ [] then
    ["", "Top " ++ countText top ++ " modules:", (rankingTable (o.graph.ranking top)).render]
  else []

/-- The summary of a run that scanned a root and wrote a drawing. -/
def summary (o : ScanOutcome) (root output : Path) (top : Nat) : List String :=
  ["Scanned " ++ root] ++ o.counterLines ++ ["Graph written to " ++ output] ++ o.rankingLines top

end ScanOutcome

end ImportAtlas
