import ImportAtlas.Graph.Builder
import ImportAtlas.Header.Imports
import ImportAtlas.Scan.Decision
import ImportAtlas.Scan.Event
import ImportAtlas.Scan.Resolution
import ImportAtlas.Scan.Statistics
import ImportAtlas.Text.Utf8

/-!
# Tallies

What a part of a scan has collected: the graph under construction, the counters and the events.
Files are folded in one by one, and the tallies of several parts can be merged.

## Main definitions

* `ImportAtlas.SourceFile`: a file with its module and imports.
* `ImportAtlas.FoundFile`: a file as the walk finds it, with its content or the failure to read it.
* `ImportAtlas.Tally.foldSource`, `ImportAtlas.Tally.foldFile`: one more file.
* `ImportAtlas.Tally.merge`: two parts of a scan together.
* `ImportAtlas.Schedule`: a way to cut the files into parts and to merge the parts.
-/

namespace ImportAtlas

/-- A file with its module and imports. -/
structure SourceFile where
  /-- The path below the root. -/
  path : String
  /-- The module that the file belongs to. -/
  module : String
  /-- Its imports, in file order with repetitions. -/
  imports : List String
  deriving Repr, DecidableEq

/-- A file as the walk finds it. -/
structure FoundFile where
  /-- The path below the root. -/
  path : String
  /-- The content, or why it cannot be read. -/
  content : Except FileError (List UInt8)

/-- The imports of a file by its content. Bytes that are no text do not keep the rest from being
read. -/
def importsOfBytes (content : List UInt8) : List String :=
  Header.imports (Utf8.decodeLossy content)

/-- What a part of a scan has collected. -/
structure Tally where
  /-- The graph under construction. -/
  builder : GraphBuilder
  /-- The counters. -/
  statistics : Statistics
  /-- The events, in the order in which they happened. -/
  events : List Event

namespace Tally

/-- Nothing collected. -/
def empty : Tally := ⟨.empty, .zero, []⟩

instance : Inhabited Tally := ⟨empty⟩

/-- One more event. -/
def emit (t : Tally) (e : Event) : Tally := { t with events := t.events ++ [e] }

/-- One more import of a file. -/
def foldImport (filter : Filter) (file : SourceFile) (t : Tally) (token : String) : Tally :=
  match filter.decide file.module token with
  | .keep kind =>
    { t with
      builder := (t.builder.recordEdge file.module token).2.count token kind
      statistics :=
        { t.statistics with qualifyingImports := t.statistics.qualifyingImports + 1 } }
  | .excluded =>
    { t with statistics := t.statistics.countExcluded token }.emit (.importExcluded token file.path)
  | .suppressed => t
  | .selfImport => t

/-- One more file with its imports. -/
def foldSource (filter : Filter) (t : Tally) (file : SourceFile) : Tally :=
  let counted : Tally :=
    { t with
      statistics :=
        { t.statistics with
          filesProcessed := t.statistics.filesProcessed + 1
          importsFound := t.statistics.importsFound + file.imports.length } }
  file.imports.foldl (foldImport filter file) counted

/-- One more file as the walk finds it. A file that is left out is not read. -/
def foldFile (filter : Filter) (t : Tally) (file : FoundFile) : Tally :=
  if filter.skipsFile file.path then
    { t with
      statistics := { t.statistics with filesExcluded := t.statistics.filesExcluded + 1 } }.emit
        (.fileExcluded file.path)
  else
    match file.content with
    | .ok content =>
      t.foldSource filter
        ⟨file.path, resolveModule filter.rules.modules file.path, importsOfBytes content⟩
    | .error cause =>
      { t with
        statistics :=
          { t.statistics with unreadable := t.statistics.unreadable ++ [file.path] } }.emit
          (.fileUnreadable file.path cause)

/-- Two parts of a scan together. -/
def merge (s t : Tally) : Tally :=
  ⟨s.builder.merge t.builder, s.statistics.merge t.statistics, s.events ++ t.events⟩

end Tally

/-! ### Schedules -/

/-- A way to cut files into parts and to merge the tallies of the parts. -/
inductive Schedule where
  /-- A part: its files in their order. -/
  | part (files : List FoundFile)
  /-- The tallies of two schedules merged. -/
  | join (left right : Schedule)

namespace Schedule

/-- The files of a schedule from left to right. -/
def files : Schedule → List FoundFile
  | .part fs => fs
  | .join left right => left.files ++ right.files

/-- The tally of a schedule. Every part starts from nothing. -/
def run (filter : Filter) : Schedule → Tally
  | .part fs => fs.foldl (Tally.foldFile filter) .empty
  | .join left right => (left.run filter).merge (right.run filter)

/-- A list cut into pieces of at most `size + 1` elements. -/
def pieces {α : Type} (size : Nat) (l : List α) : List (List α) :=
  match l with
  | [] => []
  | x :: rest => (x :: rest.take size) :: pieces size (rest.drop size)
termination_by l.length
decreasing_by simp only [List.length_drop, List.length_cons]; omega

/-- A schedule for a number of workers that share the files evenly. Without a number the files stay
together. -/
def forWorkers (workers : Nat) (fs : List FoundFile) : Schedule :=
  if workers = 0 then .part fs
  else
    (pieces ((fs.length - 1) / workers) fs).foldl (fun s piece => .join s (.part piece)) (.part [])

end Schedule

end ImportAtlas
