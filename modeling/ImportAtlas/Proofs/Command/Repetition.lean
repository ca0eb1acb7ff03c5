import ImportAtlas.Proofs.Command.Outputs
import ImportAtlas.Proofs.Discovery.Frame

/-!
# The same request once more

A request for a drawing that succeeded comes to the same if it is made once more: it prints the same
and leaves the tree as the first one left it. The files that the first one wrote are part of the
tree that the second one scans, but no part of what it looks at, unless they are source files,
ignore files or the settings, or a link in place of one of these leads to them.

## Main definitions

* `ImportAtlas.BuildRequest.WritesTo`: the paths that a request writes to.
* `ImportAtlas.BuildRequest.StandsApart`: a path of no file that a scan looks at.
* `ImportAtlas.BuildRequest.RulesLeadTo`: a link in place of an ignore file leads to a path's file.

## Main results

* `ImportAtlas.ScanRequest.plan_put`: the plan of a scan after another file was written.
* `ImportAtlas.BuildRequest.overlooks`: a scan does not look at the files that its request writes.
* `ImportAtlas.BuildRequest.run_again`: the same request once more.
-/

namespace ImportAtlas

open Discovery FileTree ImportAtlas.Path

variable {t : FileTree} {path : Path} {d place : Place} {plan : ScanPlan} {settings : Settings}
  {o : ScanOutcome} {content : List UInt8}

/-! ### The settings -/

namespace ScanRequest

variable {r : ScanRequest}

/-- The path of the settings that a request looks up. -/
def settingsPath (r : ScanRequest) : Path := r.settings.getD (Settings.pathNear r.root)

/-- Settings that are read are read again after another file was written. -/
lemma load_put (hwf : t.WellFormed) (hfree : t.IsFree d) (hpath : t.filePlace? path ≠ some d)
    (h : Settings.load t path = .ok settings) :
    Settings.load (t.put d (.file content)) path = .ok settings := by
  unfold Settings.load at h ⊢
  cases htext : t.readText path with
  | error e => simp [htext] at h
  | ok text =>
    rw [readText_put hwf hfree hpath htext]
    rwa [htext] at h

/-- **A request comes to the same plan** after a file was written that is not its settings.

**Proof sketch.** The settings are looked for in one place, which is another than that of the file.
So they are found or missing as before, and the rules are compiled from them and the request. -/
lemma plan_put (hwf : t.WellFormed) (hfree : t.IsFree d)
    (hsettings : t.filePlace? r.settingsPath ≠ some d) (h : r.plan t = .ok (plan, settings)) :
    r.plan (t.put d (.file content)) = .ok (plan, settings) := by
  have hfind : ∀ found, r.findSettings t = .ok found →
      r.findSettings (t.put d (.file content)) = .ok found := by
    intro found hfound
    unfold findSettings at hfound ⊢
    unfold settingsPath at hsettings
    cases hpath : r.settings with
    | some path =>
      simp only [hpath, Option.getD_some] at hfound hsettings ⊢
      exact load_put hwf hfree hsettings hfound
    | none =>
      simp only [hpath, Option.getD_none] at hfound hsettings ⊢
      unfold Settings.loadNear at hfound ⊢
      rw [isFile_put hwf hfree hsettings]
      cases hfile : t.isFile (Settings.pathNear r.root) with
      | false => simpa only [hfile, Bool.false_eq_true, if_false] using hfound
      | true =>
        simp only [hfile, if_true] at hfound ⊢
        cases hload : Settings.load t (Settings.pathNear r.root) with
        | error e => simp [hload, Except.map] at hfound
        | ok near =>
          rw [load_put hwf hfree hsettings hload]
          rwa [hload] at hfound
  obtain ⟨hfound, hrules⟩ := plan_eq_ok_iff.1 h
  exact plan_eq_ok_iff.2 ⟨hfind settings hfound, hrules⟩

end ScanRequest

/-! ### What is written -/

namespace BuildRequest

variable {r : BuildRequest}

/-- A path that a request writes to. -/
def WritesTo (r : BuildRequest) (t : FileTree) (path : Path) : Prop :=
  r.report = some path ∨ ∃ plan settings, r.scan.plan t = .ok (plan, settings) ∧
    (r.settle settings plan).output = path

/-- The file of a path is none that the scan of a request looks at, as far as the path says. -/
structure StandsApart (r : BuildRequest) (t : FileTree) (path : Path) : Prop where
  /-- The path leads to no link. -/
  noLink : ∀ place target, t.locate false path ≠ .ok (.found place (.link target))
  /-- It does not have the extension of source files. -/
  noSource : path.extension? ≠ some sourceExtension
  /-- It does not end in the name of an ignore file. -/
  noRules : ∀ name ∈ ignoreNames, path.fileName? ≠ some name
  /-- It does not lead to the settings that the request looks up, whether they are there or not. -/
  noSettings : ∀ place, t.filePlace? path = some place →
    t.filePlace? r.scan.settingsPath ≠ some place

/-- A link in place of an ignore file that counts in the scan of a request leads to the file of a
path. -/
def RulesLeadTo (r : BuildRequest) (t : FileTree) (path : Path) : Prop :=
  ∃ plan settings place directory name, r.scan.plan t = .ok (plan, settings) ∧
    plan.noIgnore = false ∧ t.entry plan.root = .ok (place, .directory) ∧
    RuleDirectory t plan.root place directory ∧ name ∈ ignoreNames ∧
    (∃ q target, t.locate false (join directory name) = .ok (.found q (.link target))) ∧
    ∃ d, t.filePlace? path = some d ∧ t.filePlace? (join directory name) = some d

/-- **A scan does not look at the files that its request writes**, unless a link in place of an
ignore file leads to one. -/
lemma overlooks (hwf : t.WellFormed) (hapart : r.StandsApart t path)
    (hlinks : ¬r.RulesLeadTo t path) (hplan : r.scan.plan t = .ok (plan, settings))
    (hroot : t.entry plan.root = .ok (place, .directory)) (hd : t.filePlace? path = some d) :
    Overlooks t plan.root place plan.noIgnore d := by
  obtain ⟨q, name, rfl, hname, hfile⟩ := exists_filePlace?_eq hwf hd hapart.noLink
  refine ⟨isFree_of_filePlace? hd, ⟨q, name, rfl, ?_, hname, ?_⟩, ?_⟩
  · obtain ⟨q', name', heq, -, hq⟩ := exists_parent_of_filePlace? hwf hd
    obtain ⟨rfl, -⟩ := List.append_inj' heq rfl
    exact hq
  · exact fun hsource => hapart.noSource ((extension?_eq_source_iff hfile).2 hsource)
  · intro hignore directory hdirectory rules hrules hsame
    by_cases hlink : ∃ q target,
        t.locate false (join directory rules) = .ok (.found q (.link target))
    · exact hlinks ⟨plan, settings, place, directory, rules, hplan, hignore, hroot, hdirectory,
        hrules, hlink, _, hd, hsame⟩
    · have hspelled : ∀ n ∈ ignoreNames, IsName n := by decide
      obtain ⟨q', name', heq, -, hend⟩ := exists_filePlace?_eq hwf hsame
        fun q target h => hlink ⟨q, target, h⟩
      rw [fileName?_join _ (hspelled rules hrules)] at hend
      obtain rfl := List.singleton_inj.1 (List.append_inj' heq rfl).2
      exact hapart.noRules rules hrules (hfile.trans hend.symm)

/-- A request that succeeds was planned, and its root is a directory. -/
lemma exists_scan_of_code {quiet : Bool} {host : Host} (h : (r.run quiet host t).code = 0) :
    ∃ plan settings o place, r.scan.plan t = .ok (plan, settings) ∧
      ImportAtlas.scan host.workers t plan = .ok o ∧
      t.entry plan.root = .ok (place, .directory) := by
  unfold run ScanRequest.andThen at h
  cases hplan : r.scan.plan t with
  | error e => simp [hplan, CommandOutcome.failure, CommandOutcome.code] at h
  | ok planned =>
    obtain ⟨plan, settings⟩ := planned
    cases hscan : ImportAtlas.scan host.workers t plan with
    | error e => simp [hplan, hscan, CommandOutcome.failure, CommandOutcome.code] at h
    | ok o =>
      have hdir := (exists_scan_iff.1 ⟨o, hscan⟩).1
      obtain ⟨place, hplace⟩ : ∃ place, t.entry plan.root = .ok (place, .directory) := by
        unfold isDirectory at hdir
        split at hdir
        · rename_i place hentry
          exact ⟨place, hentry⟩
        · cases hdir
      exact ⟨plan, settings, o, place, rfl, hscan, hplace⟩

section Files

variable {chosen : BuildPlan} {written : FileTree}

/-- **Files that were written are written again** without a change to the tree. -/
lemma writeFiles_again (hwf : t.WellFormed) (h : r.writeFiles t chosen o = .ok written) :
    r.writeFiles written chosen o = .ok written := by
  obtain ⟨d, hd, hwritten⟩ := (writeFiles_eq_ok_iff hwf).1 h
  have hwf' : (t.put d (drawingNode chosen o)).WellFormed := hwf.write hd
  have hdrawn : ∀ p, (t.put d (drawingNode chosen o)).filePlace? p = t.filePlace? p :=
    filePlace?_put hwf (isFree_of_filePlace? hd)
  obtain ⟨hreport, rfl⟩ | ⟨path, d', hreport, hd', rfl⟩ := hwritten
  · refine (writeFiles_eq_ok_iff hwf').2 ⟨d, (hdrawn _).trans hd, .inl ⟨hreport, ?_⟩⟩
    rw [put_put_self]
  · rw [← hdrawn] at hd'
    have hreported : ∀ p,
        ((t.put d (drawingNode chosen o)).put d' (reportNode chosen o)).filePlace? p =
          (t.put d (drawingNode chosen o)).filePlace? p :=
      filePlace?_put hwf' (isFree_of_filePlace? hd')
    refine (writeFiles_eq_ok_iff (hwf'.write hd')).2 ⟨d, ?_, .inr ⟨path, d', hreport, ?_, ?_⟩⟩
    · exact (hreported _).trans ((hdrawn _).trans hd)
    · exact (hreported _).trans hd'
    · by_cases hsame : d = d'
      · subst hsame
        simp only [put_put_self]
      · rw [put_comm _ (Ne.symm hsame), put_put_self, put_put_self]

/-- **A request comes to the same plan and the same scan** after its files were written.

**Proof sketch.** The drawing is written to a place that the walk overlooks and where no settings
are looked for, so neither the plan nor the scan changes. The same goes for the report, in the tree
with the drawing. -/
lemma scan_writeFiles {workers : Workers} (hwf : t.WellFormed)
    (hpaths : ∀ path, r.WritesTo t path → r.StandsApart t path ∧ ¬r.RulesLeadTo t path)
    (hplan : r.scan.plan t = .ok (plan, settings))
    (hscan : ImportAtlas.scan workers t plan = .ok o)
    (hroot : t.entry plan.root = .ok (place, .directory))
    (h : r.writeFiles t (r.settle settings plan) o = .ok written) :
    r.scan.plan written = .ok (plan, settings) ∧
      ImportAtlas.scan workers written plan = .ok o := by
  have hoverlooks : ∀ {path d}, r.WritesTo t path → t.filePlace? path = some d →
      Overlooks t plan.root place plan.noIgnore d ∧ t.filePlace? r.scan.settingsPath ≠ some d :=
    fun hwrites hd =>
      ⟨overlooks hwf (hpaths _ hwrites).1 (hpaths _ hwrites).2 hplan hroot hd,
        (hpaths _ hwrites).1.noSettings _ hd⟩
  obtain ⟨d, hd, hwritten⟩ := (writeFiles_eq_ok_iff hwf).1 h
  obtain ⟨hover, hsettings⟩ := hoverlooks (.inr ⟨plan, settings, hplan, rfl⟩) hd
  have hplan' : r.scan.plan (t.put d (drawingNode (r.settle settings plan) o)) =
      .ok (plan, settings) := ScanRequest.plan_put hwf hover.free hsettings hplan
  have hscan' : ImportAtlas.scan workers (t.put d (drawingNode (r.settle settings plan) o)) plan =
      .ok o := (hover.scan_put workers hwf hroot).trans hscan
  obtain ⟨-, rfl⟩ | ⟨path, d', hreport, hd', rfl⟩ := hwritten
  · exact ⟨hplan', hscan'⟩
  · obtain ⟨hother, hapart⟩ := hoverlooks (.inl hreport) hd'
    have hwf' : (t.put d (drawingNode (r.settle settings plan) o)).WellFormed :=
      hover.wellFormed_put hwf
    have hother' : Overlooks (t.put d (drawingNode (r.settle settings plan) o)) plan.root place
        plan.noIgnore d' := hover.put hwf hother
    have hapart' : (t.put d (drawingNode (r.settle settings plan) o)).filePlace?
        r.scan.settingsPath ≠ some d' := by
      rwa [drawingNode, filePlace?_put hwf hover.free]
    exact ⟨ScanRequest.plan_put hwf' hother'.free hapart' hplan',
      (hother'.scan_put workers hwf' (hover.entry_put hroot)).trans hscan'⟩

end Files

end BuildRequest

/-- **The same request for a drawing once more** succeeds again, prints the same, and leaves the
tree as the first one left it, if no image is asked for and nothing is shown. -/
theorem BuildRequest.run_again {r : BuildRequest} {quiet : Bool} {host : Host} {t : FileTree}
    (hwf : t.WellFormed) (himage : r.image = none) (hopen : r.opensViewer = false)
    (hpaths : ∀ path, r.WritesTo t path → r.StandsApart t path ∧ ¬r.RulesLeadTo t path)
    (hcode : (r.run quiet host t).code = 0) :
    (r.run quiet host (r.run quiet host t).tree).code = 0 ∧
      (r.run quiet host (r.run quiet host t).tree).output = (r.run quiet host t).output ∧
      (r.run quiet host (r.run quiet host t).tree).tree = (r.run quiet host t).tree := by
  obtain ⟨plan, settings, o, place, hplan, hscan, hroot⟩ := exists_scan_of_code hcode
  cases hwrite : r.writeFiles t (r.settle settings plan) o with
  | error failed =>
    have hfirst := run_of_scan quiet host hopen (.inl himage) hplan hscan
    simp only [hwrite] at hfirst
    simp [CommandOutcome.code, hfirst.1] at hcode
  | ok written =>
    obtain ⟨-, htree, hlines⟩ := run_of_writeFiles quiet host hopen (.inl himage) hplan hscan
      hwrite
    obtain ⟨hplan', hscan'⟩ := scan_writeFiles hwf hpaths hplan hscan hroot hwrite
    obtain ⟨hcode', htree', hlines'⟩ := run_of_writeFiles quiet host hopen (.inl himage) hplan'
      hscan' (writeFiles_again hwf hwrite)
    rw [htree]
    exact ⟨hcode', by rw [CommandOutcome.output, CommandOutcome.output, hlines, hlines'], htree'⟩

/-! ### A tree of a single file -/

/-- A request that leaves the choices about its scan open writes to other files than the scan looks
at, if their names are not those of source files, ignore files or the settings. -/
lemma BuildRequest.StandsApart.of_near {r : BuildRequest} {name : String} (hwf : t.WellFormed)
    (hscan : r.scan = {}) (hsettings : t.node? (t.home ++ ["swift-module-graph.toml"]) = none)
    (hnear : IsNear path name) (hfree : t.IsFree (t.home ++ [name]))
    (hsource : path.extension? ≠ some sourceExtension)
    (hname : name ∉ "swift-module-graph.toml" :: ignoreNames) : r.StandsApart t path := by
  have hfile : path.fileName? = some name := by
    obtain ⟨-, -, hsteps | hsteps, hspelled, -⟩ := hnear
    · exact fileName?_of_steps (hsteps.trans (List.nil_append _).symm) hspelled
    · exact fileName?_of_steps (hsteps.trans List.singleton_append.symm) hspelled
  rw [List.mem_cons, not_or] at hname
  refine ⟨fun q target hlink => ?_, hsource, fun other hother hsame => ?_, fun q hq hsame => ?_⟩
  · obtain hnone | ⟨old, hold⟩ := hfree
    · cases (locate_near_missing hwf hnear hnone false).symm.trans hlink
    · cases (locate_near_found hwf hnear hold (by simp) false).symm.trans hlink
  · obtain rfl := Option.some.inj (hfile.symm.trans hsame)
    exact hname.2 hother
  · have hpath : r.scan.settingsPath = Settings.pathNear "." := by rw [hscan]; rfl
    have hnear' : IsNear (Settings.pathNear ".") "swift-module-graph.toml" := by decide +kernel
    rw [hpath, filePlace?_near hwf hnear' (.inl hsettings), ← hq, filePlace?_near hwf hnear hfree]
      at hsame
    have hlast := (List.append_inj' (Option.some.inj hsame) rfl).2
    exact hname.1 (List.singleton_inj.1 hlast).symm

/-- The paths that a request writes to if it leaves the choices about its scan and the path of its
drawing open. -/
lemma BuildRequest.eq_of_writesTo {r : BuildRequest} (hwf : t.WellFormed) (hscan : r.scan = {})
    (hsettings : t.node? (t.home ++ ["swift-module-graph.toml"]) = none) (houtput : r.output = none)
    (h : r.WritesTo t path) : r.report = some path ∨ path = "module_dependencies.dot" := by
  obtain hreport | ⟨plan, settings, hplan, rfl⟩ := h
  · exact .inl hreport
  · rw [hscan, ScanRequest.plan_default hwf hsettings] at hplan
    obtain ⟨-, rfl⟩ := Prod.mk.inj (Except.ok.inj hplan)
    exact .inr (by simp [settle, houtput, Settings.scanOrDefault]; rfl)

/-- The drawing and the report of a source file with an import, and of the edge that it makes.

**Proof sketch.** Neither path has a file yet, and neither of their names is that of a source file,
an ignore file or the settings. There is no link. So both paths can be written, and both stand
apart. -/
theorem BuildRequest.run_again_importing :
    let r : BuildRequest := { report := some "graph.json" }
    let t := importing
    t.WellFormed ∧ r.image = none ∧ r.opensViewer = false ∧
      (∀ path, r.WritesTo t path → r.StandsApart t path ∧ ¬r.RulesLeadTo t path) ∧
      (r.run false .plain t).code = 0 ∧
      (∃ o, ImportAtlas.scan Host.plain.workers t (ScanRequest.settle {} {} .empty) = .ok o ∧
        o.graph.edges.toList = [⟨"Sources", "B"⟩]) ∧
      (r.run false .plain (r.run false .plain t).tree).code = 0 ∧
      (r.run false .plain (r.run false .plain t).tree).output = (r.run false .plain t).output ∧
      (r.run false .plain (r.run false .plain t).tree).tree = (r.run false .plain t).tree := by
  intro r t
  have hwf : t.WellFormed := wellFormed_importing
  have hnode : ∀ name, name ≠ "Sources" → t.node? ([] ++ [name]) = none := by
    intro name hname
    simp [t, importing, node?_single, hname]
  have hsettings := hnode "swift-module-graph.toml" (by decide)
  have hdrawing := hnode "module_dependencies.dot" (by decide)
  have hreport := hnode "graph.json" (by decide)
  have hnear : IsNear "module_dependencies.dot" "module_dependencies.dot" := by decide +kernel
  have hnear' : IsNear "graph.json" "graph.json" := by decide +kernel
  have hpaths : ∀ path, r.WritesTo t path → r.StandsApart t path ∧ ¬r.RulesLeadTo t path := by
    intro path hpath
    constructor
    · obtain hpath | rfl := eq_of_writesTo hwf rfl hsettings rfl hpath
      · obtain rfl := Option.some.inj hpath
        exact .of_near hwf rfl hsettings hnear' (.inl hreport) (by decide +kernel) (by decide)
      · exact .of_near hwf rfl hsettings hnear (.inl hdrawing) (by decide +kernel) (by decide)
    · -- there is no link in the tree
      rintro ⟨_, _, _, _, _, -, -, -, -, -, ⟨q, target, hlink⟩, -⟩
      have hnode : t.node? q = some (.link target) := isIn_of_locate hlink
      simp only [t, importing, node?_single] at hnode
      split_ifs at hnode <;> cases hnode
  have hcode : (r.run false .plain t).code = 0 := by
    refine code_of_default hwf rfl hsettings rfl (.inl rfl) fun path hpath => ?_
    obtain rfl | hpath := hpath
    · exact ⟨_, filePlace?_near hwf hnear (.inl hdrawing)⟩
    · obtain rfl := Option.some.inj hpath
      exact ⟨_, filePlace?_near hwf hnear' (.inl hreport)⟩
  obtain ⟨o, hscan, hedges, -⟩ := exists_scan_importing Host.plain.workers
  exact ⟨hwf, rfl, rfl, hpaths, hcode, ⟨o, hscan, hedges⟩, run_again hwf rfl rfl hpaths hcode⟩

/-! ### A link in place of an ignore file -/

section Linked

open Ignore

/-- The tree of a source file, of a file where drawings are written, and of a link to it in place of
an ignore file. -/
def linked (content : List UInt8) : FileTree :=
  (((bare []).put ["A.swift"] (.file [])).put [".gitignore"] (.link "module_dependencies.dot")).put
    ["module_dependencies.dot"] (.file content)

/-- What is in the tree. -/
lemma node?_linked : (linked content).node? place =
    if place = ["module_dependencies.dot"] then some (.file content)
    else if place = [".gitignore"] then some (.link "module_dependencies.dot")
    else if place = ["A.swift"] then some (.file [])
    else if place = [] then some .directory else none := by
  simp only [linked, node?_put (List.cons_ne_nil _ _), node?_bare]

/-- It is the tree of a file system. -/
lemma wellFormed_linked : (linked content).WellFormed := by
  have hsource : ((bare []).put ["A.swift"] (.file [])).WellFormed :=
    WellFormed.bare.put_name (by decide) (.inl rfl)
  have hlink : (((bare []).put ["A.swift"] (.file [])).put [".gitignore"]
      (.link "module_dependencies.dot")).WellFormed :=
    hsource.put_name (by decide) (.inl (by simp [node?_put, node?_bare]))
  exact hlink.put_name (by decide) (.inl (by simp [node?_put, node?_bare]))

/-- The link is read as the file that it leads to. -/
lemma read_linked (content : List UInt8) :
    (linked content).read (join "." ".gitignore") = .ok content := by
  have hnear : IsNear (join "." ".gitignore") ".gitignore" := by decide +kernel
  have hsteps : steps "module_dependencies.dot" = ["module_dependencies.dot"] := by decide +kernel
  have hrelative : isAbsolute "module_dependencies.dot" = false := by decide +kernel
  have hlink : (linked content).node? ([] ++ [".gitignore"]) =
      some (.link "module_dependencies.dot") := by simp [node?_linked]
  have hfile : (linked content).node? ([] ++ ["module_dependencies.dot"]) =
      some (.file content) := by simp [node?_linked]
  refine read_eq_ok_iff.2 ⟨["module_dependencies.dot"], ?_⟩
  calc (linked content).locate true (join "." ".gitignore")
      = (linked content).walk true (39 + 1) [".gitignore"] [] :=
        locate_near wellFormed_linked hnear true
    _ = (linked content).walk true 39 (steps "module_dependencies.dot" ++ [])
          (if isAbsolute "module_dependencies.dot" then [] else []) :=
        walk_link rfl (by decide) (by decide) (by decide) hlink (by simp)
    _ = (linked content).walk true 39 ["module_dependencies.dot"] [] := by simp [hsteps]
    _ = (linked content).walk true 39 [] ([] ++ ["module_dependencies.dot"]) :=
        walk_into rfl (by decide) (by decide) (by decide) hfile (by simp)
    _ = .ok (.found ["module_dependencies.dot"] (.file content)) := walk_nil hfile

/-- The rules that bear on a walk of the tree are those of the file that the link leads to. -/
def linkedScope (content : List UInt8) : Scope where
  root := "."
  inner := .ofList [([], ⟨.empty ".".toList, (RuleFile.parse ".".toList content).1,
    (RuleFile.parse ".".toList content).2⟩)]
  outer := []
  base := absolutePath []

/-- The rules of the tree. -/
lemma scopeOf_linked (content : List UInt8) :
    scopeOf (linked content) "." [] = linkedScope content := by
  have hentries : (entriesBelow (linked content) []).filter (fun e => isDirectoryNode e.2) = [] :=
    rfl
  have hnear : IsNear (join "." ".ignore") ".ignore" := by decide +kernel
  have hnone : (linked content).node? ([] ++ [".ignore"]) = none := by simp [node?_linked]
  have hmissing := locate_near_missing wellFormed_linked hnear hnone true
  have hown : readRules (linked content) "." ".ignore" = (.empty ".".toList, false) := by
    unfold readRules
    rw [FileTree.read, entry, hmissing]
  have hgit : readRules (linked content) "." ".gitignore" = RuleFile.parse ".".toList content := by
    unfold readRules
    rw [read_linked]
  rw [scopeOf, hentries, readLevel, hown, hgit]
  rfl

/-- What a walk of the tree finds: the source file, unless the rules skip it. -/
def linkedFiles (content : List UInt8) : List FoundFile :=
  if (linkedScope content).skips ["A.swift"] false then [] else [⟨"A.swift", .ok []⟩]

/-- The files of the tree.

**Proof sketch.** The tree has three entries below its root, none of them a directory, and one of
them is a source file. The walk lists it unless the rules skip it. -/
lemma foundFiles_linked (content : List UInt8) :
    foundFiles (linked content) "." false = (linkedFiles content, 0) := by
  have hroot : (linked content).entry "." = .ok ([], .directory) :=
    entry_eq_ok_iff.2 (locate_here wellFormed_linked true)
  have hhyphen : Path.same "." "-" = false := by decide +kernel
  have hopen : canOpen "." [] = true := by decide +kernel
  have hentries : entriesBelow (linked content) [] =
      [([".gitignore"], .link "module_dependencies.dot"), (["A.swift"], .file []),
        (["module_dependencies.dot"], .file content)] := rfl
  have hfiles : (discoverBelow (linked content) "." [] false).files =
      if (linkedScope content).skips ["A.swift"] false then [] else [pathOf "." ["A.swift"]] := by
    have hsource : isSource (pathOf "." ["A.swift"]) = true := by decide +kernel
    have hother : isSource (pathOf "." ["module_dependencies.dot"]) = false := by decide +kernel
    rw [discoverBelow_files, if_neg Bool.false_ne_true, scopeOf_linked, hentries]
    cases hskips : (linkedScope content).skips ["A.swift"] false <;>
      simp [lists, reaches, isFileNode, isDirectoryNode, hopen, hsource, hother, hskips]
  have hfailures : (discoverBelow (linked content) "." [] false).failures = 0 := by
    simp [discoverBelow, hentries, List.filter_filter, isDirectoryNode, hopen, scopeOf_linked,
      linkedScope]
  have hread : (linked content).read (pathOf "." ["A.swift"]) = .ok [] := by
    have hnear : IsNear (pathOf "." ["A.swift"]) "A.swift" := by decide +kernel
    have hnode : (linked content).node? ([] ++ ["A.swift"]) = some (.file []) := by
      simp [node?_linked]
    exact read_eq_ok_iff.2 ⟨_, locate_near_found wellFormed_linked hnear hnode (by simp) true⟩
  have hpath : Path.relativeTo "." (pathOf "." ["A.swift"]) = "A.swift" := by decide +kernel
  rw [foundFiles, discover_of_directory hroot, hhyphen, if_neg Bool.false_ne_true, hfiles,
    hfailures, linkedFiles]
  split <;> simp [hread, hpath]

/-- A request for a drawing without a legend that leaves every other choice open. -/
def plainRequest : BuildRequest := { legend := some false }

/-- The scan of the request finds these files. -/
def plainOutcome (files : List FoundFile) : ScanOutcome :=
  scanFiles (ScanRequest.settle {} {} .empty) (.forWorkers 0 files) 0

/-- The path of the drawing names the file that the link leads to. -/
lemma filePlace?_linked (content : List UInt8) :
    (linked content).filePlace? "module_dependencies.dot" = some ["module_dependencies.dot"] :=
  filePlace?_near wellFormed_linked (by decide +kernel) (.inr ⟨content, node?_linked⟩)

/-- There are no settings in the tree. -/
lemma node?_linked_settings (content : List UInt8) :
    (linked content).node? ([] ++ ["swift-module-graph.toml"]) = none := by
  simp [node?_linked]

/-- What comes of the request.

**Proof sketch.** The scan folds what the walk finds, the drawing takes the place of the file that
the link leads to, and no report is written. So the run comes to what these files come to. -/
lemma run_linked (content : List UInt8) :
    (plainRequest.run false .plain (linked content)).code = 0 ∧
      (plainRequest.run false .plain (linked content)).tree =
        linked (Utf8.encode ((plainOutcome (linkedFiles content)).graph.draw
          { legend := false }).toList) ∧
      (plainRequest.run false .plain (linked content)).lines =
        (plainOutcome (linkedFiles content)).summary "." "module_dependencies.dot" 10 := by
  have hscan : ImportAtlas.scan Host.plain.workers (linked content)
      (ScanRequest.settle {} {} .empty) = .ok (plainOutcome (linkedFiles content)) := by
    have hroot : (linked content).isDirectory "." = true := by
      rw [isDirectory, entry, locate_here wellFormed_linked]
    have hfound : foundFiles (linked content) (ScanRequest.settle {} {} .empty).root
        (ScanRequest.settle {} {} .empty).noIgnore = _ := foundFiles_linked content
    rw [scan_of_isDirectory hroot, hfound]
    rfl
  have hwrite : plainRequest.writeFiles (linked content)
      (plainRequest.settle {} (ScanRequest.settle {} {} .empty))
        (plainOutcome (linkedFiles content)) =
        .ok (linked (Utf8.encode ((plainOutcome (linkedFiles content)).graph.draw
          { legend := false }).toList)) :=
    (BuildRequest.writeFiles_eq_ok_iff wellFormed_linked).2
      ⟨_, filePlace?_linked content, .inl ⟨rfl, (put_put_self _ _ _ _).symm⟩⟩
  have hplan : plainRequest.scan.plan (linked content) =
      .ok (ScanRequest.settle {} {} .empty, {}) :=
    ScanRequest.plan_default wellFormed_linked (node?_linked_settings content)
  exact BuildRequest.run_of_writeFiles false .plain rfl (.inl rfl) hplan hscan hwrite

/-- The rules of a drawing of nothing do not skip the source file. -/
lemma skips_drawing : (linkedScope (Utf8.encode
    (ModuleGraph.draw ⟨∅, ∅, ∅⟩ { legend := false }).toList)).skips ["A.swift"] false = false := by
  rw [ModuleGraph.draw, String.toList_ofList]
  -- the pieces of the text are read one by one
  simp only [Drawing.header, String.toList_append]
  decide +kernel

end Linked

/-- **A request that comes to something else when it is made again.** A link in place of an ignore
file leads to the drawing. Before the first run the rules there skip all files; after it the drawing
is there, and what it has for rules skips nothing.

**Proof sketch.** In the first run the rules skip the source file, and in the second they skip
nothing, as the drawing is no list of rules that skips anything. So the two runs print different
numbers of files. -/
theorem BuildRequest.not_run_again_linked :
    (linked (Utf8.encode "*\n".toList)).WellFormed ∧ plainRequest.image = none ∧
      plainRequest.opensViewer = false ∧
      (∀ path, plainRequest.WritesTo (linked (Utf8.encode "*\n".toList)) path →
        plainRequest.StandsApart (linked (Utf8.encode "*\n".toList)) path) ∧
      (plainRequest.run false .plain (linked (Utf8.encode "*\n".toList))).code = 0 ∧
      (plainRequest.run false .plain
        (plainRequest.run false .plain (linked (Utf8.encode "*\n".toList))).tree).output ≠
        (plainRequest.run false .plain (linked (Utf8.encode "*\n".toList))).output := by
  have hstar : linkedFiles (Utf8.encode "*\n".toList) = [] := if_pos (by decide +kernel)
  obtain ⟨hcode, htree, hlines⟩ := run_linked (Utf8.encode "*\n".toList)
  refine ⟨wellFormed_linked, rfl, rfl, fun path hpath => ?_, hcode, ?_⟩
  · have hmissing := node?_linked_settings (Utf8.encode "*\n".toList)
    obtain hreport | rfl := BuildRequest.eq_of_writesTo wellFormed_linked rfl hmissing rfl hpath
    · cases hreport
    · have hnear : IsNear "module_dependencies.dot" "module_dependencies.dot" := by decide +kernel
      exact .of_near wellFormed_linked rfl hmissing hnear (.inr ⟨_, node?_linked⟩)
        (by decide +kernel) (by decide)
  · have hgraph : (plainOutcome []).graph = ⟨∅, ∅, ∅⟩ := rfl
    have hdrawing : linkedFiles (Utf8.encode
        (ModuleGraph.draw ⟨∅, ∅, ∅⟩ { legend := false }).toList) = [⟨"A.swift", .ok []⟩] :=
      if_neg (by simp [skips_drawing])
    obtain ⟨-, -, hlines'⟩ := run_linked
      (Utf8.encode (ModuleGraph.draw ⟨∅, ∅, ∅⟩ { legend := false }).toList)
    rw [htree, hstar, hgraph]
    simp only [CommandOutcome.output, hlines, hlines', hstar, hdrawing]
    decide +kernel

end ImportAtlas
