import ImportAtlas.Proofs.Command.Refusal
import ImportAtlas.Proofs.Discovery.Frame

/-!
# The files of a drawing

A request for a drawing writes the drawing and, if it is asked for, the report, and changes no other
file. Both show the scan of the tree as it was before. The request succeeds just if both can be
written, whatever becomes of the image.

## Main definitions

* `ImportAtlas.FileTree.Wrote`: a tree after some files were written, the last one to a place being
  the one that is there.

## Main results

* `ImportAtlas.FileTree.Wrote.snoc`: one more file.
* `ImportAtlas.BuildRequest.run_writes`: what a request for a drawing writes, and when it succeeds.
-/

namespace ImportAtlas

variable {t : FileTree} {launch : Launcher} {host : Host}

/-! ### Written files -/

namespace FileTree

variable {u v : FileTree} {files : List (Path × String)} {path : Path} {text : String}

/-- A tree after some files were written, one after the other. The last file that was written to a
place is there, and elsewhere there is what was there before. -/
structure Wrote (before after : FileTree) (files : List (Path × String)) : Prop where
  /-- Relative paths start in the same place. -/
  home : after.home = before.home
  /-- Each path names a file. -/
  named : ∀ f ∈ files, (before.filePlace? f.1).isSome
  /-- At each place there is the last file whose path names it, or what was there before. -/
  nodes : ∀ place, after.node? place =
    match files.reverse.find? fun f => before.filePlace? f.1 = some place with
    | some f => some (.file (Utf8.encode f.2.toList))
    | none => before.node? place

/-- Without files a tree stays as it is. -/
lemma Wrote.refl (t : FileTree) : t.Wrote t [] := ⟨rfl, by simp, fun _ => rfl⟩

/-- A text is put at the place that its path names. -/
lemma writeText_eq_ok_iff :
    t.writeText path text = .ok u ↔
      ∃ place, t.filePlace? path = some place ∧ u = t.put place (.file (Utf8.encode text.toList)) :=
  write_eq_ok_iff

/-- A text that cannot be written has a path that names no file. -/
lemma filePlace?_of_writeText_error {e : FileError} (h : t.writeText path text = .error e) :
    t.filePlace? path = none := by
  rw [Option.eq_none_iff_forall_ne_some]
  intro place hplace
  rw [writeText_eq_ok_iff.2 ⟨place, hplace, rfl⟩] at h
  cases h

/-- **One more file is written after the others**, to a path that names the same file still. -/
lemma Wrote.snoc (h : t.Wrote u files) (hsame : u.filePlace? path = t.filePlace? path)
    (hwrite : u.writeText path text = .ok v) : t.Wrote v (files ++ [(path, text)]) := by
  obtain ⟨place, hplace, rfl⟩ := writeText_eq_ok_iff.1 hwrite
  have hfree : u.IsFree place := isFree_of_filePlace? hplace
  rw [hsame] at hplace
  refine ⟨h.home, fun f hf => ?_, fun other => ?_⟩
  · rcases List.mem_append.1 hf with hf | hf
    · exact h.named f hf
    · obtain rfl := List.mem_singleton.1 hf
      simp [hplace]
  · by_cases hother : other = place
    · subst hother
      simp [hfree.node?_put, hplace]
    · have hne : t.filePlace? path ≠ some other := by simp [hplace, Ne.symm hother]
      rw [node?_put_of_ne hother, h.nodes other]
      simp [hne]

/-- After a text was written, the tree is well-formed still and all paths name the same files. -/
lemma filePlace?_writeText (hwf : t.WellFormed) (hwrite : t.writeText path text = .ok u) :
    u.WellFormed ∧ ∀ other, u.filePlace? other = t.filePlace? other := by
  obtain ⟨place, hplace, rfl⟩ := writeText_eq_ok_iff.1 hwrite
  exact ⟨hwf.write hplace, filePlace?_put hwf (isFree_of_filePlace? hplace)⟩

/-- A text is read the same way after another file was written. -/
lemma readText_writeText_of_ne {other : Path} {found : String} (hwf : t.WellFormed)
    (hwrite : t.writeText path text = .ok u) (hother : t.filePlace? other ≠ t.filePlace? path)
    (h : t.readText other = .ok found) : u.readText other = .ok found := by
  obtain ⟨place, hplace, rfl⟩ := writeText_eq_ok_iff.1 hwrite
  exact readText_put hwf (isFree_of_filePlace? hplace) (hplace ▸ hother) h

end FileTree

/-! ### What is to be written -/

/-- The files that a request for a drawing is to write: the drawing, and the report if it is asked
for. -/
def BuildRequest.files (r : BuildRequest) (chosen : BuildPlan) (o : ScanOutcome) :
    List (Path × String) :=
  (chosen.output, o.graph.draw chosen.options) ::
    r.report.toList.map fun path => (path, (o.report chosen.top).pretty)

/-- What a request for a drawing writes, by the choices and the scan that it comes to. -/
structure BuildRequest.Writes (r : BuildRequest) (t : FileTree) (chosen : BuildPlan)
    (o : ScanOutcome) (out : CommandOutcome) : Prop where
  /-- The request succeeds just if the drawing can be written, and after it the report if it is
  asked for. -/
  succeeds : out.code = 0 ↔
    ∃ drawn, t.writeText chosen.output (o.graph.draw chosen.options) = .ok drawn ∧
      ∀ path, r.report = some path →
        ∃ reported, drawn.writeText path (o.report chosen.top).pretty = .ok reported
  /-- If it succeeds, its files are written and nothing else is changed. -/
  files : out.code = 0 → t.Wrote out.tree (r.files chosen o)
  /-- If it succeeds, the report is read by its path. -/
  report : out.code = 0 → ∀ path, r.report = some path →
    out.tree.readText path = .ok (o.report chosen.top).pretty
  /-- If it succeeds, the drawing is read by its path, unless the report took its place. -/
  drawing : out.code = 0 →
    (∀ path, r.report = some path → t.filePlace? path ≠ t.filePlace? chosen.output) →
      out.tree.readText chosen.output = .ok (o.graph.draw chosen.options)
  /-- If the drawing cannot be written, the request fails and nothing is changed. -/
  withoutDrawing : ∀ e, t.writeText chosen.output (o.graph.draw chosen.options) = .error e →
    out.code = 1 ∧ out.tree = t
  /-- If the report cannot be written, the request fails and the drawing is in its place. -/
  withoutReport : ∀ drawn path e,
    t.writeText chosen.output (o.graph.draw chosen.options) = .ok drawn → r.report = some path →
      drawn.writeText path (o.report chosen.top).pretty = .error e →
        out.code = 1 ∧ t.Wrote out.tree [(chosen.output, o.graph.draw chosen.options)] ∧
          out.tree.readText chosen.output = .ok (o.graph.draw chosen.options)

namespace BuildRequest

variable {r : BuildRequest} {plan : ScanPlan} {settings : Settings} {o : ScanOutcome}

/-! ### The files -/

/-- The drawing as it is in its file. -/
def drawingNode (chosen : BuildPlan) (o : ScanOutcome) : FileNode :=
  .file (Utf8.encode (o.graph.draw chosen.options).toList)

/-- The report as it is in its file. -/
def reportNode (chosen : BuildPlan) (o : ScanOutcome) : FileNode :=
  .file (Utf8.encode (o.report chosen.top).pretty.toList)

/-- Where the files of a request are written, and the tree after that.

**Proof sketch.** The drawing is written first. Writing it does not change where the report goes, so
the place of the report may be taken in the tree as it was. -/
lemma writeFiles_eq_ok_iff {chosen : BuildPlan} {written : FileTree} (hwf : t.WellFormed) :
    r.writeFiles t chosen o = .ok written ↔ ∃ d, t.filePlace? chosen.output = some d ∧
      ((r.report = none ∧ written = t.put d (drawingNode chosen o)) ∨
        ∃ path d', r.report = some path ∧ t.filePlace? path = some d' ∧
          written = (t.put d (drawingNode chosen o)).put d' (reportNode chosen o)) := by
  unfold writeFiles
  cases hdrawn : t.writeText chosen.output (o.graph.draw chosen.options) with
  | error e => simp [FileTree.filePlace?_of_writeText_error hdrawn]
  | ok drawn =>
    have hsame := (FileTree.filePlace?_writeText hwf hdrawn).2
    obtain ⟨d, hd, rfl⟩ := FileTree.writeText_eq_ok_iff.1 hdrawn
    cases hreport : r.report with
    | none => simp [hd, drawingNode, eq_comm]
    | some path =>
      simp only
      generalize hdrawing :
        t.put d (.file (Utf8.encode (o.graph.draw chosen.options).toList)) = drawn at hsame
      cases hwritten : drawn.writeText path (o.report chosen.top).pretty with
      | error e =>
        have hnone := (hsame path).symm.trans (FileTree.filePlace?_of_writeText_error hwritten)
        simp [hnone]
      | ok reported =>
        obtain ⟨d', hd', rfl⟩ := FileTree.writeText_eq_ok_iff.1 hwritten
        have hplace := (hsame path).symm.trans hd'
        simp [hd, hplace, ← hdrawing, drawingNode, reportNode, eq_comm]

/-! ### The image and the viewer -/

/-- A layout program that does not start makes no image and leaves the tree as it is. -/
lemma exists_render_error (hlaunch : ∀ t i, i.program = layoutProgram → ∃ e, launch t i = .error e)
    (format : ImageFormat) (t : FileTree) (drawing : Path) :
    ∃ e, format.render launch layoutProgram t drawing = (.error e, t) := by
  unfold ImageFormat.render
  cases format.imagePath? drawing with
  | none => exact ⟨_, rfl⟩
  | some image =>
    obtain ⟨e, he⟩ := hlaunch t (format.layout layoutProgram drawing image) rfl
    exact ⟨.notStarted layoutProgram e, by simp only [he]⟩

/-- Without an image, or without a layout program that starts, the tree stays as it is. -/
lemma makeImage_tree (himage : r.image = none ∨
      ∀ t i, i.program = layoutProgram → ∃ e, launch t i = .error e) (t : FileTree)
    (drawing : Path) : (r.makeImage launch t drawing).2.2 = t := by
  unfold makeImage
  cases hformat : r.image with
  | none => rfl
  | some format =>
    have hlaunch := himage.resolve_left (by simp [hformat])
    obtain ⟨e, he⟩ := exists_render_error hlaunch format t drawing
    simp only [he]

/-- The tree after the programs that make an image of a drawing and show it. -/
def afterPrograms (r : BuildRequest) (launch : Launcher) (written : FileTree) (drawing : Path) :
    FileTree :=
  let (path, _, rendered) := r.makeImage launch written drawing
  (r.showResult launch rendered path).2

/-- If nothing is shown, and without an image or a layout program that starts, the tree stays as it
is. -/
lemma afterPrograms_eq (hopen : r.opensViewer = false)
    (himage : r.image = none ∨ ∀ t i, i.program = layoutProgram → ∃ e, launch t i = .error e)
    (written : FileTree) (drawing : Path) : r.afterPrograms launch written drawing = written := by
  simp only [afterPrograms, showResult, hopen, Bool.false_eq_true, if_false]
  exact makeImage_tree himage written drawing

/-- What comes of a request for a drawing that is not refused is what comes of writing its files,
and after that of the programs. -/
lemma run_of_plan (quiet : Bool) (host : Host)
    (hplan : r.scan.plan t = .ok (plan, settings))
    (hscan : ImportAtlas.scan host.workers t plan = .ok o) :
    match r.writeFiles t (r.settle settings plan) o with
    | .error (complaint, after) =>
      (r.run quiet host t).complaint = some complaint ∧ (r.run quiet host t).lines = [] ∧
        (r.run quiet host t).tree = after
    | .ok written =>
      (r.run quiet host t).complaint = none ∧
        (r.run quiet host t).tree =
          r.afterPrograms host.launch written (r.settle settings plan).output ∧
        (r.run quiet host t).lines =
          if quiet then []
          else o.summary plan.root (r.settle settings plan).output
            (r.settle settings plan).top := by
  unfold run ScanRequest.andThen
  rw [hplan]
  simp only [hscan]
  cases r.writeFiles t (r.settle settings plan) o with
  | error failed => exact ⟨rfl, rfl, rfl⟩
  | ok written => exact ⟨rfl, rfl, rfl⟩

/-- What comes of a request for a drawing that is neither refused nor shown in a viewer is what
comes of writing its files. -/
lemma run_of_scan (quiet : Bool) (host : Host) (hopen : r.opensViewer = false)
    (himage : r.image = none ∨ ∀ t i, i.program = layoutProgram → ∃ e, host.launch t i = .error e)
    (hplan : r.scan.plan t = .ok (plan, settings))
    (hscan : ImportAtlas.scan host.workers t plan = .ok o) :
    match r.writeFiles t (r.settle settings plan) o with
    | .error (complaint, after) =>
      (r.run quiet host t).complaint = some complaint ∧ (r.run quiet host t).lines = [] ∧
        (r.run quiet host t).tree = after
    | .ok written =>
      (r.run quiet host t).complaint = none ∧ (r.run quiet host t).tree = written ∧
        (r.run quiet host t).lines =
          if quiet then []
          else o.summary plan.root (r.settle settings plan).output
            (r.settle settings plan).top := by
  have hrun := run_of_plan quiet host hplan hscan
  simpa only [afterPrograms_eq hopen himage] using hrun

/-- A request that writes its files succeeds. -/
lemma run_of_writeFiles {written : FileTree} (quiet : Bool) (host : Host)
    (hopen : r.opensViewer = false)
    (himage : r.image = none ∨ ∀ t i, i.program = layoutProgram → ∃ e, host.launch t i = .error e)
    (hplan : r.scan.plan t = .ok (plan, settings))
    (hscan : ImportAtlas.scan host.workers t plan = .ok o)
    (hwrite : r.writeFiles t (r.settle settings plan) o = .ok written) :
    (r.run quiet host t).code = 0 ∧ (r.run quiet host t).tree = written ∧
      (r.run quiet host t).lines =
        if quiet then []
        else o.summary plan.root (r.settle settings plan).output (r.settle settings plan).top := by
  have hrun := run_of_scan quiet host hopen himage hplan hscan
  rw [hwrite] at hrun
  exact ⟨by rw [CommandOutcome.code, hrun.1]; rfl, hrun.2⟩

section Writing

variable {chosen : BuildPlan} {out : CommandOutcome} {drawn reported : FileTree} {path : Path}
  {e : FileError}

/-- What is written if the drawing cannot be written. -/
lemma writes_of_drawing_error
    (hdraw : t.writeText chosen.output (o.graph.draw chosen.options) = .error e)
    (hcode : out.code = 1) (htree : out.tree = t) : r.Writes t chosen o out where
  succeeds := by simp [hcode, hdraw]
  files := by simp [hcode]
  report := by simp [hcode]
  drawing := by simp [hcode]
  withoutDrawing _ _ := ⟨hcode, htree⟩
  withoutReport := by simp [hdraw]

section Drawn

variable (hdraw : t.writeText chosen.output (o.graph.draw chosen.options) = .ok drawn)
include hdraw

/-- What is written if no report is asked for. -/
lemma writes_of_drawing (hreport : r.report = none) (hcode : out.code = 0)
    (htree : out.tree = drawn) : r.Writes t chosen o out where
  succeeds := by simp [hcode, hdraw, hreport]
  files _ := by
    have hdrawn := (FileTree.Wrote.refl t).snoc rfl hdraw
    simpa [htree, BuildRequest.files, hreport] using hdrawn
  report := by simp [hreport]
  drawing _ _ := htree ▸ FileTree.readText_writeText hdraw
  withoutDrawing := by simp [hdraw]
  withoutReport := by simp [hreport]

/-- What is written if the report cannot be written. -/
lemma writes_of_report_error (hreport : r.report = some path)
    (hwrite : drawn.writeText path (o.report chosen.top).pretty = .error e) (hcode : out.code = 1)
    (htree : out.tree = drawn) : r.Writes t chosen o out where
  succeeds := by simp [hcode, hdraw, hreport, hwrite]
  files := by simp [hcode]
  report := by simp [hcode]
  drawing := by simp [hcode]
  withoutDrawing := by simp [hdraw]
  withoutReport _ _ _ _ _ _ := by
    have hdrawn := (FileTree.Wrote.refl t).snoc rfl hdraw
    exact ⟨hcode, htree ▸ hdrawn, htree ▸ FileTree.readText_writeText hdraw⟩

/-- What is written if the drawing and the report can be written.

**Proof sketch.** Writing the drawing does not change where the report goes. The report is read back
as it was written last, and the drawing unless the report went to its place. -/
lemma writes_of_report (hwf : t.WellFormed) (hreport : r.report = some path)
    (hwrite : drawn.writeText path (o.report chosen.top).pretty = .ok reported)
    (hcode : out.code = 0) (htree : out.tree = reported) : r.Writes t chosen o out where
  succeeds := by simp [hcode, hdraw, hreport, hwrite]
  files _ := by
    have hdrawn := (FileTree.Wrote.refl t).snoc rfl hdraw
    have hsame := (FileTree.filePlace?_writeText hwf hdraw).2 path
    simpa [htree, BuildRequest.files, hreport] using hdrawn.snoc hsame hwrite
  report := by
    rintro - other hother
    obtain rfl : path = other := by simpa [hreport] using hother
    exact htree ▸ FileTree.readText_writeText hwrite
  drawing := by
    intro _ hne
    obtain ⟨hwf', hsame⟩ := FileTree.filePlace?_writeText hwf hdraw
    have hother : drawn.filePlace? chosen.output ≠ drawn.filePlace? path := by
      rw [hsame, hsame]
      exact (hne path hreport).symm
    exact htree ▸ FileTree.readText_writeText_of_ne hwf' hwrite hother
      (FileTree.readText_writeText hdraw)
  withoutDrawing := by simp [hdraw]
  withoutReport := by
    intro drawn' other e hdraw' hother herror
    obtain rfl : path = other := by simpa [hreport] using hother
    obtain rfl : drawn = drawn' := Except.ok.inj (hdraw.symm.trans hdraw')
    rw [hwrite] at herror
    cases herror

end Drawn

/-- What comes of the files decides what comes of the request.

**Proof sketch.** Either file can be written or not, and the report may be missing. That makes four
cases, each with its lemma. -/
lemma writes_of_writeFiles (hwf : t.WellFormed)
    (h : match r.writeFiles t chosen o with
      | .error (complaint, after) => out.complaint = some complaint ∧ out.tree = after
      | .ok written => out.complaint = none ∧ out.tree = written) : r.Writes t chosen o out := by
  have hfailed : ∀ {c}, out.complaint = some c → out.code = 1 := fun hc => by
    simp [CommandOutcome.code, hc]
  have hdone : out.complaint = none → out.code = 0 := fun hc => by simp [CommandOutcome.code, hc]
  unfold writeFiles at h
  cases hdraw : t.writeText chosen.output (o.graph.draw chosen.options) with
  | error e =>
    simp only [hdraw] at h
    exact writes_of_drawing_error hdraw (hfailed h.1) h.2
  | ok drawn =>
    cases hreport : r.report with
    | none =>
      simp only [hdraw, hreport] at h
      exact writes_of_drawing hdraw hreport (hdone h.1) h.2
    | some path =>
      cases hwrite : drawn.writeText path (o.report chosen.top).pretty with
      | error e =>
        simp only [hdraw, hreport, hwrite] at h
        exact writes_of_report_error hdraw hreport hwrite (hfailed h.1) h.2
      | ok reported =>
        simp only [hdraw, hreport, hwrite] at h
        exact writes_of_report hdraw hwf hreport hwrite (hdone h.1) h.2

end Writing

end BuildRequest

/-- **A request for a drawing that is not shown writes the drawing and the report of the scan, and
nothing else**, if its scan succeeds and the layout program cannot be started. It succeeds just if
both can be written. The drawing shows platform modules just if the scan counts them. Whether an
image is asked for, and of what format, makes no difference to the exit code, to what is printed and
to the tree.

**Proof sketch.** The run goes by the files it writes, since neither a viewer nor the layout program
starts. With another image the files are the same, and so is what comes of them. -/
theorem BuildRequest.run_writes {r : BuildRequest} {quiet : Bool} {host : Host} {t : FileTree}
    {plan : ScanPlan} {settings : Settings} {o : ScanOutcome} (hwf : t.WellFormed)
    (hopen : r.opensViewer = false)
    (hlaunch : ∀ t i, i.program = layoutProgram → ∃ e, host.launch t i = .error e)
    (hplan : r.scan.plan t = .ok (plan, settings))
    (hscan : ImportAtlas.scan host.workers t plan = .ok o) :
    (r.settle settings plan).options.includeSystem = plan.includeSystem ∧
      r.Writes t (r.settle settings plan) o (r.run quiet host t) ∧
      ∀ image,
        ({ r with image := image }.run quiet host t).code = (r.run quiet host t).code ∧
        ({ r with image := image }.run quiet host t).output = (r.run quiet host t).output ∧
        ({ r with image := image }.run quiet host t).tree = (r.run quiet host t).tree := by
  have hrun := run_of_scan quiet host hopen (.inr hlaunch) hplan hscan
  refine ⟨rfl, writes_of_writeFiles hwf ?_, fun image => ?_⟩
  · split at hrun <;> simp_all
  · have hother := run_of_scan (r := { r with image := image }) quiet host hopen (.inr hlaunch)
      hplan hscan
    -- the image has no part in what is written
    have hsame : { r with image := image }.writeFiles t
        ({ r with image := image }.settle settings plan) o =
      r.writeFiles t (r.settle settings plan) o := rfl
    rw [hsame] at hother
    simp only [CommandOutcome.code, CommandOutcome.output]
    split at hrun
    · rename_i hfiles
      simp only [hfiles] at hother
      simp [hrun, hother]
    · rename_i hfiles
      simp only [hfiles] at hother
      simp [hrun, hother, settle, options]

/-! ### A tree of a single file -/

/-- Where no file can be executed the layout program does not start. -/
lemma Launcher.noPrograms_layout (t : FileTree) (i : Invocation) (h : i.program = layoutProgram) :
    ∃ e, Launcher.noPrograms t i = .error e := by
  have hslash : layoutProgram.toList.contains '/' = false := by decide
  unfold noPrograms
  rw [h, hslash]
  split <;> exact ⟨_, rfl⟩

/-- The plan of a request that leaves every choice open, where no settings are. -/
lemma ScanRequest.plan_default (hwf : t.WellFormed)
    (h : t.node? (t.home ++ ["swift-module-graph.toml"]) = none) :
    ScanRequest.plan {} t = .ok (settle {} {} .empty, {}) := by
  have hnear : FileTree.IsNear (Settings.pathNear ".") "swift-module-graph.toml" := by
    decide +kernel
  have hmissing := FileTree.locate_near_missing hwf hnear h true
  have hsettings : ScanRequest.findSettings {} t = .ok {} := by
    simp [findSettings, Settings.loadNear, FileTree.isFile, FileTree.entry, hmissing, Except.map]
  rw [ScanRequest.plan, hsettings]
  rfl

/-- A scan of the working directory succeeds if its workers start. -/
lemma exists_scan_here (workers : Workers) {plan : ScanPlan} (hwf : t.WellFormed)
    (hroot : plan.root = ".") (hstart : plan.start workers = .ok ()) :
    ∃ o, scan workers t plan = .ok o := by
  refine exists_scan_iff.2 ⟨?_, hstart⟩
  rw [FileTree.isDirectory, FileTree.entry, hroot, FileTree.locate_here hwf]

/-- The scan of a request that leaves every choice open succeeds. It has no number of workers. -/
lemma ScanRequest.exists_scan_default (workers : Workers) (hwf : t.WellFormed) :
    ∃ o, scan workers t (settle {} {} .empty) = .ok o :=
  exists_scan_here workers hwf rfl rfl

/-- A request that leaves the choices about its scan open succeeds if its paths name files. -/
lemma BuildRequest.code_of_default {r : BuildRequest} {quiet : Bool} (hwf : t.WellFormed)
    (hscan : r.scan = {}) (hsettings : t.node? (t.home ++ ["swift-module-graph.toml"]) = none)
    (hopen : r.opensViewer = false)
    (himage : r.image = none ∨ ∀ t i, i.program = layoutProgram → ∃ e, host.launch t i = .error e)
    (hpaths : ∀ path, path = (r.settle {} (ScanRequest.settle {} {} .empty)).output ∨
      r.report = some path → ∃ place, t.filePlace? path = some place) :
    (r.run quiet host t).code = 0 := by
  have hplan : r.scan.plan t = .ok (ScanRequest.settle {} {} .empty, {}) :=
    hscan ▸ ScanRequest.plan_default hwf hsettings
  obtain ⟨o, ho⟩ := ScanRequest.exists_scan_default host.workers hwf
  obtain ⟨d, hd⟩ := hpaths _ (.inl rfl)
  obtain ⟨written, hwritten⟩ : ∃ written,
      r.writeFiles t (r.settle {} (ScanRequest.settle {} {} .empty)) o = .ok written := by
    cases hreport : r.report with
    | none => exact ⟨_, (writeFiles_eq_ok_iff hwf).2 ⟨d, hd, .inl ⟨hreport, rfl⟩⟩⟩
    | some path =>
      obtain ⟨d', hd'⟩ := hpaths path (.inr hreport)
      exact ⟨_, (writeFiles_eq_ok_iff hwf).2 ⟨d, hd, .inr ⟨path, d', hreport, hd', rfl⟩⟩⟩
  exact (run_of_writeFiles quiet host hopen himage hplan ho hwritten).1

section Single

open Discovery FileTree

variable {content : List UInt8}

/-- A walk finds the file. No ignore file and no hidden name is in its way.

**Proof sketch.** The tree has two entries and no ignore file, and neither name is hidden, so the
walk lists what can be opened. The one source file is read where the walk has found it. -/
lemma foundFiles_single (content : List UInt8) :
    foundFiles (single "Sources" "A.swift" content) "." false =
      ([⟨"Sources/A.swift", .ok content⟩], 0) := by
  set t := single "Sources" "A.swift" content with ht
  have hwf : t.WellFormed := wellFormed_single (by decide) (by decide)
  have hroot : t.entry "." = .ok ([], .directory) := entry_eq_ok_iff.2 (locate_here hwf true)
  have hentries : entriesBelow t [] =
      [(["Sources"], .directory), (["Sources", "A.swift"], .file content)] := rfl
  have hopen : canOpen "." [] = true := by decide +kernel
  have hopen' : canOpen "." ["Sources"] = true := by decide +kernel
  have hsource : isSource (pathOf "." ["Sources", "A.swift"]) = true := by decide +kernel
  have hnone : ∀ other, ¬IsIgnoreContent t "." [] other := by
    refine not_isIgnoreContent fun q name hname => ?_
    rw [Option.eq_none_iff_forall_ne_some]
    intro node hnode
    obtain rfl | rfl := mem_of_node?_single hnode (List.mem_append_right q List.mem_cons_self)
    all_goals exact absurd hname (by decide)
  have hshown : ∀ names node, Reached t "." [] names node → ∀ name ∈ names,
      isHidden name = false := by
    intro names node hreached name hname
    have hnode := ((reached_iff hwf rfl).1 hreached).1
    obtain rfl | rfl := mem_of_node?_single hnode hname <;> decide
  have hfiles : (discoverBelow t "." [] false).files = [pathOf "." ["Sources", "A.swift"]] := by
    rw [discoverBelow_eq hwf rfl hnone hshown, discoverBelow_files, if_pos rfl, hentries]
    simp [lists, reaches, isFileNode, hopen, hopen', hsource, List.range_succ]
  have hfailures : (discoverBelow t "." [] false).failures = 0 := by
    simp [discoverBelow, hentries, List.filter_filter, isDirectoryNode, hopen, hopen', scopeOf]
  have hread : t.read (pathOf "." ["Sources", "A.swift"]) = .ok content := by
    have hrefusal : FileTree.refusal? (pathOf "." ["Sources", "A.swift"]) = none := by
      decide +kernel
    have hshort : ["Sources", "A.swift"].any isLong = false := by decide +kernel
    have hnode : t.node? ([] ++ ["Sources", "A.swift"]) = some (.file content) := by
      simp [ht, node?_single]
    rw [read_pathOf hwf hroot (by simp) hnode, hrefusal, hshort]
    rfl
  have hpath : Path.relativeTo "." (pathOf "." ["Sources", "A.swift"]) = "Sources/A.swift" := by
    decide +kernel
  have hhyphen : Path.same "." "-" = false := by decide +kernel
  rw [foundFiles, discover_of_directory hroot, hhyphen, if_neg Bool.false_ne_true, hfiles,
    hfailures, List.map_singleton, hread, hpath]

/-- The tree of a source file with an import. -/
def importing : FileTree := single "Sources" "A.swift" (Utf8.encode "import B".toList)

/-- It is the tree of a file system. -/
lemma wellFormed_importing : importing.WellFormed := wellFormed_single (by decide) (by decide)

/-- Its scan finds the import. -/
lemma exists_scan_importing (workers : Workers) :
    ∃ o, scan workers importing (ScanRequest.settle {} {} .empty) = .ok o ∧
      o.graph.edges.toList = [⟨"Sources", "B"⟩] ∧
      o.graph.targets.entries = [("B", ⟨.custom, 1⟩)] := by
  have hroot : importing.isDirectory "." = true := by
    rw [FileTree.isDirectory, FileTree.entry, FileTree.locate_here wellFormed_importing]
  refine ⟨scanFiles (ScanRequest.settle {} {} .empty)
    (.forWorkers 0 [⟨"Sources/A.swift", .ok (Utf8.encode "import B".toList)⟩]) 0, ?_,
    by decide +kernel, by decide +kernel⟩
  have hfound : foundFiles importing (ScanRequest.settle {} {} .empty).root
      (ScanRequest.settle {} {} .empty).noIgnore = _ := foundFiles_single _
  rw [scan_of_isDirectory hroot, hfound]
  rfl

end Single

/-- A drawing of a tree with an import, with the extension of the image that is asked for, and a
report that takes its place.

**Proof sketch.** The tree is scanned without settings, and both files go to one place, which is
free. The law of all requests says the rest. -/
theorem BuildRequest.run_writes_overwritten :
    let r : BuildRequest :=
      { output := some "out.svg", report := some "./out.svg", image := some .svg }
    ∃ plan o, importing.WellFormed ∧ r.opensViewer = false ∧
      (∀ t i, i.program = layoutProgram → ∃ e, Host.plain.launch t i = .error e) ∧
      r.scan.plan importing = .ok (plan, {}) ∧
      ImportAtlas.scan Host.plain.workers importing plan = .ok o ∧
      o.graph.edges.toList = [⟨"Sources", "B"⟩] ∧
      o.graph.targets.entries = [("B", ⟨.custom, 1⟩)] ∧
      r.Writes importing (r.settle {} plan) o (r.run false .plain importing) ∧
      (r.run false .plain importing).code = 0 := by
  intro r
  have hwf := wellFormed_importing
  have hnode : ∀ name, name ≠ "Sources" → importing.node? ([] ++ [name]) = none := by
    intro name hname
    simp [importing, FileTree.node?_single, hname]
  have hplan := ScanRequest.plan_default hwf (hnode _ (by decide))
  obtain ⟨o, hscan, hedges, htargets⟩ := exists_scan_importing Host.plain.workers
  have houtput : importing.filePlace? "out.svg" = some ["out.svg"] :=
    FileTree.filePlace?_near hwf (by decide +kernel) (.inl (hnode _ (by decide)))
  have hreport : importing.filePlace? "./out.svg" = some ["out.svg"] :=
    FileTree.filePlace?_near hwf (by decide +kernel) (.inl (hnode _ (by decide)))
  have hwrites : _ ∧ r.Writes importing (r.settle {} _) o (r.run false .plain importing) ∧ _ :=
    run_writes hwf rfl Launcher.noPrograms_layout hplan hscan
  refine ⟨_, o, hwf, rfl, Launcher.noPrograms_layout, hplan, hscan, hedges, htargets, hwrites.2.1,
    code_of_default hwf rfl (hnode _ (by decide)) rfl (.inr Launcher.noPrograms_layout) ?_⟩
  rintro path (rfl | hpath)
  · exact ⟨_, houtput⟩
  · obtain rfl := Option.some.inj hpath
    exact ⟨_, hreport⟩

end ImportAtlas
