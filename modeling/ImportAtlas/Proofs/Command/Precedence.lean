import ImportAtlas.Proofs.Command.Outputs

/-!
# Choices of the user and of the settings

What a request leaves open is settled by the settings that it is under, and what these leave open by
a default. The name of a theme, of a direction or of an edge shape in the settings counts only if it
means something. A choice that is off by default is on if the user or the settings turn it on. The
drawing shows platform modules just if the scan counts them.

## Main definitions

* `ImportAtlas.Prevails`: the value of a choice that is made in three layers.
* `ImportAtlas.BuildRequest.GoesBy`: what a request for a drawing goes by.
* `ImportAtlas.BuildRequest.DrawsBy`: what comes of a drawing by some choices.

## Main results

* `ImportAtlas.DrawSettings.options_theme`, `ImportAtlas.DrawSettings.options_direction`,
  `ImportAtlas.DrawSettings.options_edgeShape`: a name that means nothing leaves the default.
* `ImportAtlas.BuildRequest.GoesBy.unique`: the layers leave nothing open.
* `ImportAtlas.BuildRequest.run_goesBy`: a request for a drawing goes by its three layers.
-/

namespace ImportAtlas

variable {t : FileTree}

/-! ### Layers -/

section Layers

variable {α : Type} {user settings : Option α} {usual a : α}

/-- The value of a choice that the user or the settings can make, with a default. The first of the
three that says something prevails. -/
inductive Prevails (user settings : Option α) (usual : α) : α → Prop
  /-- What the user says prevails over everything. -/
  | byUser {a : α} (h : user = some a) : Prevails user settings usual a
  /-- What the settings say prevails if the user says nothing. -/
  | bySettings {a : α} (huser : user = none) (h : settings = some a) :
      Prevails user settings usual a
  /-- The default prevails if neither says anything. -/
  | byDefault (huser : user = none) (hsettings : settings = none) :
      Prevails user settings usual usual

/-- What prevails is what is left when the layers are laid over each other from below. -/
lemma prevails_iff : Prevails user settings usual a ↔ a = user.getD (settings.getD usual) := by
  constructor
  · rintro (rfl | ⟨rfl, rfl⟩ | ⟨rfl, rfl⟩) <;> rfl
  · rintro rfl
    cases user with
    | some a => exact .byUser rfl
    | none =>
      cases settings with
      | some a => exact .bySettings rfl rfl
      | none => exact .byDefault rfl rfl

/-- One value prevails. -/
lemma Prevails.unique {b : α} (ha : Prevails user settings usual a)
    (hb : Prevails user settings usual b) : a = b :=
  (prevails_iff.1 ha).trans (prevails_iff.1 hb).symm

/-- It is also what is left when the two upper layers are put together first. -/
lemma prevails_orElse (user settings : Option α) (usual : α) :
    Prevails user settings usual ((user <|> settings).getD usual) :=
  prevails_iff.2 (by cases user <;> rfl)

/-- What is off by default is on if the user or the settings turn it on. -/
lemma turnedOn_iff (user : Bool) (settings : Option Bool) :
    (user || settings.getD false) = true ↔ user = true ∨ settings = some true := by
  cases settings <;> simp

end Layers

/-! ### Names in the settings -/

namespace Drawing

/-- A text that is no name of a theme counts as light. -/
lemma Theme.getD_ofName? (name : String) :
    (ofName? name).getD .light = if name = "dark" then .dark else .light := by
  unfold ofName?
  split
  · rfl
  · rfl
  · rename_i hdark
    rw [if_neg hdark]
    rfl

/-- A text that is no name of a direction counts as that from left to right. -/
lemma Direction.getD_ofName? (name : String) :
    (ofName? name).getD .leftToRight = if name = "TB" then .topToBottom else .leftToRight := by
  unfold ofName?
  split
  · rfl
  · rfl
  · rename_i htop
    rw [if_neg htop]
    rfl

/-- A text that is no name of an edge shape counts as curved. -/
lemma EdgeShape.getD_ofName? (name : String) :
    (ofName? name).getD .curved =
      if name = "ortho" then .ortho else if name = "polyline" then .polyline else .curved := by
  unfold ofName?
  split
  · rfl
  · rfl
  · rfl
  · rename_i hortho hpolyline
    rw [if_neg hortho, if_neg hpolyline]
    rfl

end Drawing

namespace DrawSettings

variable (s : DrawSettings) (includeSystem : Bool)

/-- The theme under the settings alone: a name that means nothing leaves the default. -/
lemma options_theme :
    (s.options includeSystem).theme = (s.theme.bind Drawing.Theme.ofName?).getD .light := by
  unfold options
  cases s.theme with
  | none => rfl
  | some name => exact (Drawing.Theme.getD_ofName? name).symm

/-- The direction under the settings alone. -/
lemma options_direction :
    (s.options includeSystem).direction =
      (s.direction.bind Drawing.Direction.ofName?).getD .leftToRight := by
  unfold options
  cases s.direction with
  | none => rfl
  | some name => exact (Drawing.Direction.getD_ofName? name).symm

/-- The shape of the edges under the settings alone. -/
lemma options_edgeShape :
    (s.options includeSystem).edgeShape =
      (s.edgeShape.bind Drawing.EdgeShape.ofName?).getD .curved := by
  cases hname : s.edgeShape with
  | none =>
    unfold options
    rw [hname]
    rfl
  | some name =>
    simp only [options, hname, Option.bind_some, Drawing.EdgeShape.getD_ofName?]
    split <;> simp_all

end DrawSettings

/-! ### Requests -/

namespace BuildRequest

variable {r : BuildRequest} {plan : ScanPlan} {settings : Settings} {chosen : BuildPlan}

/-- What a request for a drawing goes by under some settings: a plan for the scan, and choices about
the drawing. Each of them is made in layers. -/
structure GoesBy (r : BuildRequest) (settings : Settings) (plan : ScanPlan)
    (chosen : BuildPlan) : Prop where
  /-- Where the drawing is written. -/
  output : Prevails r.output settings.scanOrDefault.output "module_dependencies.dot" chosen.output
  /-- How many modules the ranking shows. -/
  top : Prevails r.top settings.scanOrDefault.top 10 chosen.top
  /-- How many workers share the files. -/
  jobs : Prevails r.scan.jobs settings.scanOrDefault.jobs 0 plan.jobs
  /-- The colours of the drawing. -/
  theme : Prevails r.theme (settings.drawOrDefault.theme.bind Drawing.Theme.ofName?) .light
    chosen.options.theme
  /-- Its direction. -/
  direction : Prevails r.direction (settings.drawOrDefault.direction.bind Drawing.Direction.ofName?)
    .leftToRight chosen.options.direction
  /-- The shape of its edges. -/
  edgeShape : Prevails r.edgeShape (settings.drawOrDefault.edgeShape.bind Drawing.EdgeShape.ofName?)
    .curved chosen.options.edgeShape
  /-- Whether a legend explains its nodes. -/
  legend : Prevails r.legend settings.drawOrDefault.legend true chosen.options.legend
  /-- The scan counts platform modules if the user or the settings want them. -/
  includeSystem : plan.includeSystem = true ↔
    r.scan.includeSystem = true ∨ settings.scanOrDefault.includeSystem = some true
  /-- The scan disregards ignore files and hidden names if the user or the settings want that. -/
  noIgnore : plan.noIgnore = true ↔
    r.scan.noIgnore = true ∨ settings.scanOrDefault.noIgnore = some true
  /-- The drawing shows platform modules just if the scan counts them. -/
  shown : chosen.options.includeSystem = plan.includeSystem

/-- **A request goes by what it comes to** under its settings. -/
lemma GoesBy.settle (r : BuildRequest) (settings : Settings) (rules : RuleSet) :
    r.GoesBy settings (r.scan.settle settings.scanOrDefault rules)
      (r.settle settings (r.scan.settle settings.scanOrDefault rules)) where
  output := prevails_orElse ..
  top := prevails_orElse ..
  jobs := prevails_orElse ..
  theme := prevails_iff.2 (by rw [← DrawSettings.options_theme]; rfl)
  direction := prevails_iff.2 (by rw [← DrawSettings.options_direction]; rfl)
  edgeShape := prevails_iff.2 (by rw [← DrawSettings.options_edgeShape]; rfl)
  legend := prevails_iff.2 rfl
  includeSystem := turnedOn_iff ..
  noIgnore := turnedOn_iff ..
  shown := rfl

/-- **The layers leave nothing open**: a request goes by one set of choices about its drawing. -/
lemma GoesBy.unique {other : BuildPlan} (h : r.GoesBy settings plan chosen)
    (hother : r.GoesBy settings plan other) : chosen = other := by
  obtain ⟨⟨theme, direction, edgeShape, legend, includeSystem⟩, output, top⟩ := chosen
  obtain ⟨⟨theme', direction', edgeShape', legend', includeSystem'⟩, output', top'⟩ := other
  obtain rfl := h.theme.unique hother.theme
  obtain rfl := h.direction.unique hother.direction
  obtain rfl := h.edgeShape.unique hother.edgeShape
  obtain rfl := h.legend.unique hother.legend
  obtain rfl := h.shown.trans hother.shown.symm
  obtain rfl := h.output.unique hother.output
  obtain rfl := h.top.unique hother.top
  rfl

/-! ### Runs -/

/-- What comes of a request for a drawing of a scan by some choices. -/
structure DrawsBy (r : BuildRequest) (quiet : Bool) (host : Host) (t : FileTree)
    (chosen : BuildPlan) (o : ScanOutcome) (out : CommandOutcome) : Prop where
  /-- If the drawing cannot be written, the request fails and the tree stays as it is. -/
  refused : ∀ e, t.writeText chosen.output (o.graph.draw chosen.options) = .error e →
    out.complaint = some (writeComplaint "DOT" chosen.output e) ∧ out.tree = t
  /-- Without a report the programs find the tree with the drawing. -/
  drawn : ∀ drawn, t.writeText chosen.output (o.graph.draw chosen.options) = .ok drawn →
    r.report = none →
      out.complaint = none ∧ out.tree = r.afterPrograms host.launch drawn chosen.output
  /-- A report that is asked for is written after the drawing. -/
  reported : ∀ drawn path, t.writeText chosen.output (o.graph.draw chosen.options) = .ok drawn →
    r.report = some path →
      match drawn.writeText path (o.report chosen.top).pretty with
      | .error e => out.complaint = some (writeComplaint "JSON" path e) ∧ out.tree = drawn
      | .ok reported =>
        out.complaint = none ∧ out.tree = r.afterPrograms host.launch reported chosen.output
  /-- A request that succeeds prints the summary, unless it is to be quiet. -/
  summary : out.complaint = none →
    out.lines = if quiet then [] else o.summary r.scan.root chosen.output chosen.top

/-- A request whose scan succeeds draws by what it comes to.

**Proof sketch.** The run goes by the files that it writes, so each outcome of the two files is
looked at. -/
lemma run_drawsBy {o : ScanOutcome} (quiet : Bool) (host : Host)
    (hplan : r.scan.plan t = .ok (plan, settings))
    (hscan : ImportAtlas.scan host.workers t plan = .ok o) :
    r.DrawsBy quiet host t (r.settle settings plan) o (r.run quiet host t) := by
  have hrun := run_of_plan quiet host hplan hscan
  refine ⟨fun e hdraw => ?_, fun drawn hdraw hreport => ?_, fun drawn path hdraw hreport => ?_,
    fun hdone => ?_⟩
  · simp only [writeFiles, hdraw] at hrun
    exact ⟨hrun.1, hrun.2.2⟩
  · simp only [writeFiles, hdraw, hreport] at hrun
    exact ⟨hrun.1, hrun.2.1⟩
  · simp only [writeFiles, hdraw, hreport] at hrun
    cases hwrite : drawn.writeText path (o.report (r.settle settings plan).top).pretty with
    | error e =>
      simp only [hwrite] at hrun
      exact ⟨hrun.1, hrun.2.2⟩
    | ok reported =>
      simp only [hwrite] at hrun
      exact ⟨hrun.1, hrun.2.1⟩
  · cases hfiles : r.writeFiles t (r.settle settings plan) o with
    | error failed =>
      simp only [hfiles] at hrun
      cases hdone.symm.trans hrun.1
    | ok written =>
      simp only [hfiles] at hrun
      rw [hrun.2.2, ScanRequest.root_of_plan hplan]

end BuildRequest

/-- **A request for a drawing goes by its three layers.** If its settings can be used and its
patterns are accepted, there are choices that it goes by. The tree is scanned by the plan among
them, and if there is a scan, its drawing is written where and as they say, and the report and the
summary have as many modules as they say. -/
theorem BuildRequest.run_goesBy {r : BuildRequest} {t : FileTree} {plan : ScanPlan}
    {settings : Settings} (hplan : r.scan.plan t = .ok (plan, settings)) :
    r.scan.findSettings t = .ok settings ∧ ∃ chosen, r.GoesBy settings plan chosen ∧
      ∀ quiet host o, ImportAtlas.scan host.workers t plan = .ok o →
        r.DrawsBy quiet host t chosen o (r.run quiet host t) := by
  obtain ⟨hsettings, rules, -, rfl⟩ := ScanRequest.plan_eq_ok_iff.1 hplan
  exact ⟨hsettings, _, .settle r settings rules,
    fun quiet host _ hscan => run_drawsBy quiet host hplan hscan⟩

/-! ### A tree with settings -/

/-- The settings in the file of the fixed name. -/
lemma ScanRequest.findSettings_near {text : String} {settings : Settings} (hwf : t.WellFormed)
    (h : t.node? (t.home ++ ["swift-module-graph.toml"]) =
      some (.file (Utf8.encode text.toList)))
    (hparse : Settings.parse text = .ok settings) :
    ScanRequest.findSettings {} t = .ok settings := by
  have hnear : FileTree.IsNear (Settings.pathNear ".") "swift-module-graph.toml" := by
    decide +kernel
  have hread : t.read (Settings.pathNear ".") = .ok (Utf8.encode text.toList) :=
    FileTree.read_eq_ok_iff.2 ⟨_, FileTree.locate_near_found hwf hnear h (by simp) true⟩
  have htext : t.readText (Settings.pathNear ".") = .ok text := by
    simp [FileTree.readText, hread, Utf8.decode?_encode]
  have hload : Settings.load t (Settings.pathNear ".") = .ok settings := by
    rw [Settings.load, htext]
    exact congrArg (Except.mapError _) hparse
  simp [findSettings, Settings.loadNear, FileTree.isFile_iff.2 ⟨_, hread⟩, hload, Except.map]

/-- Settings that say something about most choices, among them a direction that means nothing. -/
def someSettings : String :=
  "[scan]\noutput = \"map.dot\"\ntop = 3\njobs = 2\ninclude_system = true\n" ++
    "[dot]\ntheme = \"dark\"\nrankdir = \"down\"\nsplines = \"ortho\"\n"

/-- The tree of nothing but these settings. -/
def withSettings : FileTree :=
  (FileTree.bare []).put ["swift-module-graph.toml"] (.file (Utf8.encode someSettings.toList))

/-- A user with a say in two of the choices, one of them over the settings.

**Proof sketch.** The settings are parsed by evaluation and no pattern is refused, so there is a
plan. The choices of the run are the only ones that it may go by. -/
theorem BuildRequest.run_goesBy_some_settings :
    let r : BuildRequest := { top := some 5, legend := some false }
    ∃ plan settings chosen o, r.scan.plan withSettings = .ok (plan, settings) ∧
      ImportAtlas.scan Host.plain.workers withSettings plan = .ok o ∧
      r.GoesBy settings plan chosen ∧
      r.DrawsBy true .plain withSettings chosen o (r.run true .plain withSettings) ∧
      plan.jobs = 2 ∧ plan.noIgnore = false ∧
      chosen =
        { options :=
            { theme := .dark, direction := .leftToRight, edgeShape := .ortho, legend := false
              includeSystem := true }
          output := "map.dot"
          top := 5 } := by
  intro r
  have hwf : withSettings.WellFormed := .put_name .bare (by decide) (.inl rfl)
  have hparse : Settings.parse someSettings = .ok
      { scan := some
          { output := some "map.dot", top := some 3, jobs := some 2, includeSystem := some true }
        draw := some
          { theme := some "dark", direction := some "down", edgeShape := some "ortho" } } := by
    decide +kernel
  have hplan := (ScanRequest.plan_eq_ok_iff (s := r.scan)).2
    ⟨ScanRequest.findSettings_near hwf rfl hparse, .empty, rfl, rfl⟩
  obtain ⟨o, hscan⟩ := exists_scan_here Host.plain.workers hwf (ScanRequest.root_of_plan hplan) rfl
  obtain ⟨-, chosen, hgoes, hdraws⟩ := run_goesBy hplan
  exact ⟨_, _, chosen, o, hplan, hscan, hgoes, hdraws true .plain o hscan, rfl, rfl,
    hgoes.unique (.settle r _ _)⟩

end ImportAtlas
