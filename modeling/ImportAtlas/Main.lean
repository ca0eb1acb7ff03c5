import ImportAtlas.Command.Run
import ImportAtlas.CommandLine.Reader
import ImportAtlas.Json.Printer
import ImportAtlas.LogFilter

/-!
# The command line

The program itself. It sees the files whose names it reads from its input, one name on each line;
a name that ends in a slash is a directory. What a command changes in the tree of these files is
written back, and no other programs are started. Of a command line that asks for nothing that can be
done, only the exit code tells.

## Main definitions

* `main`: the program.
-/

namespace ImportAtlas

/-- The tree where the names that the program reads begin. -/
def startTree : FileTree := .bare ["work"]

/-- The lines of a stream, without their ends. -/
def inputLines (input : IO.FS.Stream) : IO (List String) := do
  let mut bytes := ByteArray.empty
  let mut more := true
  while more do
    let chunk ← input.read 65536
    bytes := bytes ++ chunk
    more := !chunk.isEmpty
  return (Text.lines (Utf8.decodeLossy bytes.toList)).map String.ofList

/-- The tree with one more name from the input. -/
def addName (t : FileTree) (name : Path) : IO FileTree := do
  if FileTree.endsInSlash name then return (t.makeDirectories name).toOption.getD t
  try
    let content ← IO.FS.readBinFile name
    let placed := do (← t.makeParents name).write name content.toList
    return placed.toOption.getD t
  catch e =>
    IO.eprintln ("cannot read " ++ name ++ ": " ++ toString e)
    return t

/-- The path of a place, seen from where the program runs. -/
def pathOfPlace (t : FileTree) (place : Place) : Path :=
  match Path.dropPrefix? place t.home with
  | some names => "/".intercalate names
  | none => "/" ++ "/".intercalate place

/-- Write the files of a tree that another tree does not have in the same way. -/
def writeBack (before after : FileTree) : IO Unit := do
  for (place, node) in after.nodes.entries do
    match node with
    | .file content =>
      if before.node? place ≠ some node then
        IO.FS.writeBinFile (pathOfPlace after place) (ByteArray.mk content.toArray)
    | _ => pure ()

/-- Run a request and tell what comes of it. The result is the exit code. -/
def perform (request : Request) : IO UInt32 := do
  let filter := LogFilter.choose request.voice.verbosity request.voice.quiet none
  let names ← inputLines (← IO.getStdin)
  let before ← names.foldlM addName startTree
  let outcome := request.run .plain before
  writeBack before outcome.tree
  for event in outcome.events do
    if filter.shows event.severity.level then IO.eprintln event.toJson.compact
  for complaint in outcome.complaint do
    IO.eprintln complaint.text
  IO.print outcome.output
  return UInt32.ofNat outcome.code

end ImportAtlas

open ImportAtlas

/-- The program. -/
def main (words : List String) : IO UInt32 := do
  match CommandLine.read words with
  | .ok request => perform request
  | .error e =>
    IO.print e.output
    return UInt32.ofNat e.code
