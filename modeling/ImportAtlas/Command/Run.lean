import ImportAtlas.Command.Plan
import ImportAtlas.Command.Report
import ImportAtlas.Drawing.Writer
import ImportAtlas.Graph.File

/-!
# Running commands

What comes of a command in a file tree: an exit code, what is printed, and the tree after it.

## Main definitions

* `ImportAtlas.Host`: what the program knows of the system that it runs on.
* `ImportAtlas.CommandOutcome`: what comes of a command.
* `ImportAtlas.Command.run`: the outcome of a command.

## Design

A command reads the tree first and writes only when all reading is done. It has at most one
complaint, and a complaint means failure; what goes wrong with an image is a setback in the log,
and the command goes on. The scripts by which shells complete command lines come from the library
that reads command lines, and so they are part of the host.
-/

namespace ImportAtlas

/-- What the program knows of the system that it runs on and of the libraries that it is built
with. -/
structure Host where
  /-- What comes of starting workers. -/
  workers : Workers
  /-- What comes of starting other programs. -/
  launch : Launcher
  /-- The script by which a shell completes command lines. -/
  script : Shell → String

/-- The host that starts any number of workers and no other programs, and has no scripts. -/
def Host.plain : Host := ⟨.unlimited, .noPrograms, fun _ => ""⟩

/-- What comes of a command. -/
structure CommandOutcome where
  /-- What the user is told if the command failed. -/
  complaint : Option Complaint := none
  /-- The lines that are printed. -/
  lines : List String := []
  /-- What happened on the way. -/
  events : List Event := []
  /-- The file tree afterwards. -/
  tree : FileTree

namespace CommandOutcome

/-- The exit code: one if the command failed. -/
def code (o : CommandOutcome) : Nat := if o.complaint.isSome then 1 else 0

/-- What is printed. -/
def output (o : CommandOutcome) : String :=
  String.join (o.lines.map fun line => line ++ "\n")

/-- A command that failed without a trace in the tree. -/
def failure (t : FileTree) (c : Complaint) (events : List Event := []) : CommandOutcome :=
  { complaint := some c, events := events, tree := t }

end CommandOutcome

/-! ### Scanning -/

/-- What comes of a request for a scan: the scan is planned and run, and then `next` goes on. -/
def ScanRequest.andThen (r : ScanRequest) (workers : Workers) (t : FileTree)
    (next : ScanPlan → Settings → ScanOutcome → CommandOutcome) : CommandOutcome :=
  match r.plan t with
  | .error e => .failure t (e.complaint.introduce "Configuration error: ")
  | .ok (plan, settings) =>
    match scan workers t plan with
    | .error e => .failure t (e.cause.complaint.introduce "Build failed: ") e.events
    | .ok outcome => next plan settings outcome

/-- The outcome of a command that only prints some lines. -/
def ScanOutcome.printing (o : ScanOutcome) (t : FileTree) (lines : List String) : CommandOutcome :=
  { lines := lines, events := o.events, tree := t }

/-! ### Building -/

/-- Why a file cannot be written: its role, its path and the cause. -/
def writeComplaint (role : String) (path : Path) (e : FileError) : Complaint :=
  (GraphFileError.file e).complaint.introduce
    ("Failed to write " ++ role ++ " output " ++ path ++ ": ")

/-- Write the drawing, and the report if one is wanted. A failure leaves the tree as it is by
then. -/
def BuildRequest.writeFiles (r : BuildRequest) (t : FileTree) (plan : BuildPlan)
    (o : ScanOutcome) : Except (Complaint × FileTree) FileTree :=
  match t.writeText plan.output (o.graph.draw plan.options) with
  | .error e => .error (writeComplaint "DOT" plan.output e, t)
  | .ok drawn =>
    match r.report with
    | none => .ok drawn
    | some path =>
      match drawn.writeText path (o.report plan.top).pretty with
      | .error e => .error (writeComplaint "JSON" path e, drawn)
      | .ok reported => .ok reported

/-- The image of a drawing if one is wanted: the path to look at, setbacks, and the tree. -/
def BuildRequest.makeImage (r : BuildRequest) (launch : Launcher) (t : FileTree)
    (drawing : Path) : Path × List Event × FileTree :=
  match r.image with
  | none => (drawing, [], t)
  | some format =>
    match format.render launch layoutProgram t drawing with
    | (.ok image, after) => (image, [], after)
    | (.error e, after) =>
      (drawing, [.setback (e.message ++ "; the DOT file is still available")], after)

/-- The result in the viewer if that is wanted: setbacks, and the tree. -/
def BuildRequest.showResult (r : BuildRequest) (launch : Launcher) (t : FileTree) (path : Path) :
    List Event × FileTree :=
  if r.opensViewer then
    match viewImage launch t path with
    | (.ok (), after) => ([], after)
    | (.error e, after) => ([.setback e.message], after)
  else ([], t)

/-- What comes of a request for a drawing. -/
def BuildRequest.run (r : BuildRequest) (quiet : Bool) (host : Host) (t : FileTree) :
    CommandOutcome :=
  r.scan.andThen host.workers t fun scanPlan settings o =>
    let plan := r.settle settings scanPlan
    match r.writeFiles t plan o with
    | .error (complaint, after) =>
      { complaint := some complaint, events := o.events, tree := after }
    | .ok written =>
      let (path, imageEvents, rendered) := r.makeImage host.launch written plan.output
      let (viewEvents, shown) := r.showResult host.launch rendered path
      { lines := if quiet then [] else o.summary scanPlan.root plan.output plan.top
        events := o.events ++ imageEvents ++ viewEvents
        tree := shown }

/-! ### Asking -/

/-- The text of a list of modules in a format. -/
def ListFormat.moduleText (format : ListFormat) (head : String) (modules : List String) : String :=
  match format with
  | .document => (Json.Value.texts modules).pretty
  | .table => moduleList head modules

/-- The answer to a question about a graph. -/
def Question.answer (q : Question) (g : ModuleGraph) (format : ListFormat) : String :=
  match q with
  | .dependencies m => format.moduleText "Dependency" (g.dependencies m)
  | .dependents m => format.moduleText "Dependent" (g.dependents m)
  | .top n =>
    match format with
    | .document => (rankingDocument (g.ranking n)).pretty
    | .table => (rankingTable (g.ranking n)).render

/-- The list of the modules that files belong to. -/
def ListFormat.registryText (format : ListFormat) (r : ModuleRegistry) : String :=
  match format with
  | .document => r.document.pretty
  | .table => r.table.render

/-! ### Commands -/

/-- What comes of a command. -/
def Command.run (c : Command) (quiet : Bool) (host : Host) (t : FileTree) : CommandOutcome :=
  match c with
  | .build r => r.run quiet host t
  | .modules r format =>
    r.andThen host.workers t fun _ _ o => o.printing t [format.registryText o.registry]
  | .query r question format =>
    r.andThen host.workers t fun _ _ o => o.printing t [question.answer o.graph format]
  | .completions shell => { lines := [host.script shell], tree := t }

/-- What comes of a request. -/
def Request.run (r : Request) (host : Host) (t : FileTree) : CommandOutcome :=
  r.command.run r.voice.quiet host t

end ImportAtlas
