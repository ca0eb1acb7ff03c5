import ImportAtlas.Discovery
import ImportAtlas.Scan.Tally

/-!
# Scans

The scan of a source tree: the files below a root, the module of each, its imports, and the graph
that they make.

## Main definitions

* `ImportAtlas.ScanPlan`: what to scan and how.
* `ImportAtlas.Workers`: what comes of starting workers, which the system may refuse.
* `ImportAtlas.RootError`, `ImportAtlas.ScanError`: why a scan comes to nothing.
* `ImportAtlas.ScanOutcome`: the graph, the counters, the registry and the events.
* `ImportAtlas.scan`: the scan of a file tree.

## Design

Workers share the files, and how they do it is a schedule. The only other thing that the number of
workers decides is whether the system starts them. They are started when the files are found and
before the first of them is read, and only if there is a number of them; without a number the files
go to workers that are there already.
-/

namespace ImportAtlas

/-- What to scan and how. -/
structure ScanPlan where
  /-- The root of the source tree. -/
  root : Path
  /-- The rules. -/
  rules : RuleSet
  /-- Whether platform modules are wanted. -/
  includeSystem : Bool
  /-- Whether ignore files and hidden names do not count. -/
  noIgnore : Bool
  /-- How many workers share the files; none in particular if zero. -/
  jobs : Nat

/-! ### Workers -/

/-- What comes of starting so many workers at once: they are there, or the system says why it cannot
start them. -/
abbrev Workers := Nat → Except String Unit

namespace Workers

/-- The system that starts any number of workers. -/
def unlimited : Workers := fun _ => .ok ()

/-- The system that starts no more than so many workers. -/
def upTo (limit : Nat) : Workers := fun n =>
  if n ≤ limit then .ok () else .error "Resource temporarily unavailable (os error 11)"

end Workers

/-- Start the workers of a plan, if it has a number of them. -/
def ScanPlan.start (plan : ScanPlan) (workers : Workers) : Except String Unit :=
  if plan.jobs = 0 then .ok () else workers plan.jobs

/-! ### Failures -/

/-- Why there is nothing to scan. -/
inductive RootError where
  /-- The root does not exist. -/
  | missing (root : Path)
  /-- The root is no directory. -/
  | notDirectory (root : Path)
  deriving Repr, DecidableEq

/-- What the user is told. -/
def RootError.complaint : RootError → Complaint
  | .missing root => ⟨"Scan root does not exist: " ++ root, none⟩
  | .notDirectory root => ⟨"Scan root is not a directory: " ++ root, none⟩

/-- Why a scan comes to nothing. -/
inductive ScanError where
  /-- There is nothing to scan. -/
  | root (cause : RootError)
  /-- The workers cannot be started. -/
  | workers (cause : String)
  deriving Repr, DecidableEq

/-- What the user is told. -/
def ScanError.complaint : ScanError → Complaint
  | .root e => e.complaint
  | .workers cause => ⟨"IO error: " ++ cause, none⟩

/-- A scan that came to nothing. -/
structure ScanFailure where
  /-- Why it did. -/
  cause : ScanError
  /-- What had happened by then. -/
  events : List Event
  deriving Repr, DecidableEq

/-! ### Outcomes -/

/-- The result of a scan. -/
structure ScanOutcome where
  /-- The module graph. -/
  graph : ModuleGraph
  /-- The counters. -/
  statistics : Statistics
  /-- The modules that files belong to. -/
  registry : ModuleRegistry
  /-- What happened. -/
  events : List Event

/-- The counters at the end of a scan: those of its parts, and those that follow from the files, the
registry and the graph. -/
def Statistics.complete (s : Statistics) (discovered : Nat) (registry : ModuleRegistry)
    (graph : ModuleGraph) : Statistics :=
  { s with
    filesDiscovered := discovered
    projectModules := registry.size
    systemModules := s.systemModules + graph.countOfKind .system
    customModules := s.customModules + graph.countOfKind .custom
    unreadable := s.unreadable.mergeSort fun a b => (compare a b).isLE }

/-- The modules that files belong to under the rules of a plan. -/
def ScanPlan.registry (plan : ScanPlan) (files : List FoundFile) : ModuleRegistry :=
  ModuleRegistry.collect plan.rules.modules (files.map (·.path))

/-- What happens before the first file is read, with a number of failures on the walk to the
files. -/
def ScanPlan.opening (plan : ScanPlan) (files : List FoundFile) (failures : Nat) : List Event :=
  [.scanning plan.root plan.rules.modules.length plan.rules.excludes.length plan.includeSystem] ++
    List.replicate failures .walkFailed ++ [.registryBuilt (plan.registry files).size]

/-- The result of a scan of some files, with a number of failures on the walk to them. -/
def scanFiles (plan : ScanPlan) (schedule : Schedule) (failures : Nat) : ScanOutcome :=
  let files := schedule.files
  let registry := plan.registry files
  let tally := schedule.run ⟨plan.rules, plan.includeSystem⟩
  let graph := tally.builder.finish
  let statistics := tally.statistics.complete files.length registry graph
  let closing : Event :=
    .scanComplete statistics.filesProcessed statistics.qualifyingImports graph.targets.size
      graph.edges.size
  ⟨graph, statistics, registry, plan.opening files failures ++ tally.events ++ [closing]⟩

/-- The files below a root with their contents, and how often the walk to them failed. -/
def foundFiles (t : FileTree) (root : Path) (noIgnore : Bool) : List FoundFile × Nat :=
  let found := discover t root noIgnore
  (found.files.map fun path => ⟨Path.relativeTo root path, t.read path⟩, found.failures)

/-- The scan of a file tree. The root must be a directory, and the workers must start. -/
def scan (workers : Workers) (t : FileTree) (plan : ScanPlan) : Except ScanFailure ScanOutcome :=
  if !t.exists? plan.root then .error ⟨.root (.missing plan.root), []⟩
  else if !t.isDirectory plan.root then .error ⟨.root (.notDirectory plan.root), []⟩
  else
    let (files, failures) := foundFiles t plan.root plan.noIgnore
    match plan.start workers with
    | .error cause => .error ⟨.workers cause, plan.opening files failures⟩
    | .ok () => .ok (scanFiles plan (.forWorkers plan.jobs files) failures)

end ImportAtlas
