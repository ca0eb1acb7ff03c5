import ImportAtlas.Graph.Basic
import ImportAtlas.Json.Decode
import ImportAtlas.Json.Printer

/-!
# Graph documents

A module graph as a JSON document: the importers, the imported modules with kind and count, and
the edges.

## Main definitions

* `ImportAtlas.ModuleGraph.toJson`, `ImportAtlas.ModuleGraph.render`: writing.
* `ImportAtlas.ModuleGraph.ofJson`, `ImportAtlas.ModuleGraph.parse`: reading.

## Design

A kind is written as its name; it may also be read from an object that binds its name to `null`.
Members and edges may be read in any order and with repetitions. Of two infos for one module the
later one holds.
-/

namespace ImportAtlas

open Json

/-! ### Writing -/

/-- An edge with its two ends. -/
def Edge.toJson (e : Edge) : Value :=
  .record [("from", .text e.source), ("to", .text e.target)]

/-- The kind and the count of a module. -/
def ModuleInfo.toJson (info : ModuleInfo) : Value :=
  .record [("kind", .text info.kind.name), ("count", .count info.count)]

/-- A graph with its three parts. -/
def ModuleGraph.toJson (g : ModuleGraph) : Value :=
  .record
    [("sources", .texts g.sources.toList),
     ("targets", .record (g.targets.entries.map fun e => (e.1, e.2.toJson))),
     ("edges", .array (g.edges.toList.map Edge.toJson))]

/-- The document of a graph. -/
def ModuleGraph.render (g : ModuleGraph) : String := g.toJson.pretty

/-! ### Reading -/

/-- A kind, by its name. -/
def ModuleKind.ofJson (v : Value) : Except DecodeError ModuleKind :=
  let name? := match v with
    | .string s => s
    | .object [(name, .null)] => name
    | _ => none
  match name?.bind ModuleKind.ofName? with
  | some kind => .ok kind
  | none => .error (.expected "a module kind")

/-- The kind and the count of a module. -/
def ModuleInfo.ofJson (v : Value) : Except DecodeError ModuleInfo := do
  match ← v.asRecord ["kind", "count"] with
  | [kind, count] => return ⟨← ModuleKind.ofJson kind, ← count.asCount⟩
  | _ => .error (.wrongLength 2)

/-- An edge by its two ends. -/
def Edge.ofJson (v : Value) : Except DecodeError Edge := do
  match ← v.asRecord ["from", "to"] with
  | [source, target] => return ⟨← source.asText, ← target.asText⟩
  | _ => .error (.wrongLength 2)

/-- A graph by its three parts. -/
def ModuleGraph.ofJson (v : Value) : Except DecodeError ModuleGraph := do
  match ← v.asRecord ["sources", "targets", "edges"] with
  | [sources, targets, edges] =>
    return ⟨SortedSet.ofList (← sources.asList Value.asText),
      SortedMap.ofList (← targets.asBindings ModuleInfo.ofJson),
      SortedSet.ofList (← edges.asList Edge.ofJson)⟩
  | _ => .error (.wrongLength 3)

/-- The graph of a document. -/
def ModuleGraph.parse (text : String) : Except DecodeError ModuleGraph := do
  ModuleGraph.ofJson (← Value.parse text)

end ImportAtlas
