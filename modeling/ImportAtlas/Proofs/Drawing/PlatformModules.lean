import ImportAtlas.Proofs.Drawing.Identifiers
import ImportAtlas.Proofs.Scan.Consistency
import ImportAtlas.Proofs.Scan.PlatformModules

/-!
# Leaving platform modules out of the scan or out of the drawing

Platform modules can be left out in two places. A scan asks for the kind of every import that it
comes across, by the name alone, and a drawing asks for the kind that the graph has recorded for the
target of an edge. A drawing without platform modules looks the same whether the scan left them out
or not, up to the modules that import nothing else: with their last edge a scan forgets them, but a
drawing keeps their nodes.

## Main definitions

* `ImportAtlas.ModuleGraph.PlatformOnly`: all imports of a module are platform modules.
* `ImportAtlas.Drawing.isNodeOf`: the nodes of the modules in a role.
* `ImportAtlas.Drawing.SameBut`: two drawings are the same up to some importing modules.

## Main results

* `ImportAtlas.Drawing.filter_isNodeOf_picture`: the nodes of a role are one group of the drawing.
* `ImportAtlas.ScanOutcome.Consistent.edgePhrases_eq`: the edges in the drawing of a scan, without
  the kinds that the graph has recorded.
* `ImportAtlas.scan_drawings_same`: the drawings of a scan with platform modules and of a scan
  without them.
-/

namespace ImportAtlas

/-- All imports of a module are platform modules. -/
def ModuleGraph.PlatformOnly (g : ModuleGraph) (module : String) : Prop :=
  ∀ e ∈ g.edges, e.source = module → ModuleKind.classify e.target = .system

instance (g : ModuleGraph) : DecidablePred g.PlatformOnly := fun module =>
  inferInstanceAs <| Decidable <|
    ∀ e ∈ g.edges.toList, e.source = module → ModuleKind.classify e.target = .system

/-- A module imports more than platform modules if one of its edges leads to a module of the
project. -/
lemma ModuleGraph.not_platformOnly_iff {g : ModuleGraph} {module : String} :
    ¬g.PlatformOnly module ↔
      ∃ e ∈ g.edges, ModuleKind.classify e.target ≠ .system ∧ e.source = module := by
  unfold PlatformOnly
  push Not
  exact exists_congr fun e => and_congr_right fun _ => And.comm

namespace Drawing

open Dot

/-! ### The nodes of a role -/

/-- Whether a statement is the node of a module in some role. The legend has a node for each role,
but its nodes have neither the wide frame of an importing module nor the number of imports that the
label of an imported module ends with. -/
def isNodeOf (theme : Theme) (role : Role) : Phrase → Bool
  | .node _ _ label style =>
    style = role.style theme (role = .source) ∧ (role = .source ∨ label.count.isSome = true)
  | _ => false

/-- Whether a statement is the node of an importing module of some sort. -/
def isImporter (theme : Theme) (sort : String → Prop) [DecidablePred sort] : Phrase → Bool
  | .node id written label style =>
    isNodeOf theme .source (.node id written label style) && sort label.name
  | _ => false

/-- Two drawings have the same statements in the same order, but the first one has no nodes for the
importing modules of some sort. -/
structure SameBut (theme : Theme) (sort : String → Prop) [DecidablePred sort]
    (drawn drawn' : List Phrase) : Prop where
  /-- The nodes of the imported modules of the project are the same. -/
  customs : drawn.filter (isNodeOf theme .custom) = drawn'.filter (isNodeOf theme .custom)
  /-- The edges are the same. -/
  edges : drawn.filter isEdge = drawn'.filter isEdge
  /-- The nodes of the importing modules are the same, less those of that sort. -/
  sources : drawn.filter (isNodeOf theme .source) =
    (drawn'.filter (isNodeOf theme .source)).filter (!isImporter theme sort ·)
  /-- Nothing else is different. -/
  whole : drawn = drawn'.filter (!isImporter theme sort ·)

/-- The style of a node tells its role and whether its frame is wide. -/
lemma Role.style_inj {theme : Theme} {role role' : Role} {wide wide' : Bool} :
    role.style theme wide = role'.style theme wide' ↔ role = role' ∧ wide = wide' := by
  constructor
  · intro h
    obtain ⟨hhead, hframe⟩ := List.append_inj h rfl
    refine ⟨?_, ?_⟩
    · have hshape : role.shape = role'.shape := by simp_all
      revert hshape
      cases role <;> cases role' <;> decide
    · revert hframe
      cases wide <;> cases wide' <;> decide
  · rintro ⟨rfl, rfl⟩
    rfl

/-- Whether a node is that of a module in some role is told by its style and its label. -/
lemma isNodeOf_node {theme : Theme} {role role' : Role} {wide : Bool} {id written : List Char}
    {label : Label} :
    isNodeOf theme role (.node id written label (role'.style theme wide)) =
      decide (role' = role ∧ wide = decide (role = .source) ∧
        (role = .source ∨ label.count.isSome = true)) := by
  rw [isNodeOf, decide_eq_decide, Role.style_inj, and_assoc]

variable (g : ModuleGraph) (options : Options) (role : Role)

/-- **The nodes of a role are one group of the drawing.**

**Proof sketch.** The drawing is cut into its groups, and each group is filtered for itself. It is
kept or left out as a whole, because all its phrases are nodes of one role or none at all. The
legend has nodes of every role, but a sample has neither the frame nor the number of a module. -/
lemma filter_isNodeOf_picture :
    (picture g options).filter (isNodeOf options.theme role) =
      match role with
      | .source => sourcePhrases g options
      | .system => if options.includeSystem then targetPhrases g options .system else []
      | .custom => targetPhrases g options .custom := by
  have hpreamble : (preamble options).filter (isNodeOf options.theme role) = [] := rfl
  have hsources : (sourcePhrases g options).filter (isNodeOf options.theme role) =
      if decide (role = .source) then sourcePhrases g options else [] := by
    refine filter_map_of_const fun name => ?_
    rw [isNodeOf_node]
    cases role <;> rfl
  have htargets : ∀ kind, (targetPhrases g options kind).filter (isNodeOf options.theme role) =
      if decide (role = .ofKind kind) then targetPhrases g options kind else [] := by
    refine fun kind => filter_map_of_const fun e => ?_
    rw [isNodeOf_node]
    cases kind <;> cases role <;> rfl
  have hedges : (edgePhrases g options).filter (isNodeOf options.theme role) = [] :=
    filter_map_of_const (b := false) fun _ => rfl
  have hlegend : (legendPhrases options).filter (isNodeOf options.theme role) = [] := by
    have hnodes : ∀ shown : Role, isNodeOf options.theme role
        (.node (nodeId ("legend_" ++ shown.legend).toList) shown.legend.toList
          ⟨shown.legend, none⟩ (shown.style options.theme false)) = false := by
      intro shown
      rw [isNodeOf_node]
      -- an importing module needs the wide frame, an imported one the number
      cases role <;> simp
    rw [legendPhrases, List.filter_append, List.filter_append, filter_map_of_const hnodes]
    rfl
  have hclosing : [Phrase.closing].filter (isNodeOf options.theme role) = [] := rfl
  simp only [filter_picture, hpreamble, hsources, htargets, hedges, hlegend, hclosing, ite_self,
    List.append_nil, List.nil_append]
  cases role <;> simp [Role.ofKind]

/-- Only nodes of importing modules are left out with the importing modules of some sort.

**Proof sketch.** The drawing is cut into its groups, and each group is filtered for itself. An
importing module is drawn with a wide frame, which no node of another group has. -/
lemma filter_not_isImporter_picture (sort : String → Prop) [DecidablePred sort] :
    (picture g options).filter (!isImporter options.theme sort ·) =
      preamble options ++
        ((sourcePhrases g options).filter (!isImporter options.theme sort ·) ++
          (if options.includeSystem then targetPhrases g options .system else []) ++
          targetPhrases g options .custom ++ edgePhrases g options) ++
        (if options.legend then legendPhrases options else []) ++ [.closing] := by
  have hpreamble : (preamble options).filter (!isImporter options.theme sort ·) =
    preamble options := rfl
  have hnode : ∀ (shown : Role) (id written : List Char) (label : Label),
      (!isImporter options.theme sort
        (.node id written label (shown.style options.theme false))) = true := by
    intro shown id written label
    rw [isImporter, isNodeOf_node]
    simp
  have htargets : ∀ kind, (targetPhrases g options kind).filter
      (!isImporter options.theme sort ·) = targetPhrases g options kind :=
    fun kind => filter_map_of_const (b := true) fun e => hnode _ _ _ _
  have hedges : (edgePhrases g options).filter (!isImporter options.theme sort ·) =
      edgePhrases g options := filter_map_of_const (b := true) fun _ => rfl
  have hlegend : (legendPhrases options).filter (!isImporter options.theme sort ·) =
      legendPhrases options := by
    rw [legendPhrases, List.filter_append, List.filter_append,
      filter_map_of_const (b := true) fun role => hnode role _ _ _]
    rfl
  have hclosing : [Phrase.closing].filter (!isImporter options.theme sort ·) =
    [.closing] := rfl
  simp only [filter_picture, hpreamble, htargets, hedges, hlegend, hclosing]

end Drawing

/-! ### Scans -/

open Drawing Dot

namespace ScanOutcome

variable {o off on : ScanOutcome} {rules : RuleSet} {options : Options}

/-- **The edges in the drawing of a scan**, without the kinds that the graph has recorded: the kind
of a target is that of its name. -/
lemma Consistent.edgePhrases_eq (h : o.Consistent rules)
    (hoptions : options.includeSystem = false) :
    edgePhrases o.graph options =
      (o.graph.edges.toList.filter fun e => ModuleKind.classify e.target ≠ .system).map fun e =>
        .edge (nodeId e.source.toList) (nodeId e.target.toList) := by
  refine congrArg (List.map _) (List.filter_congr fun e he => ?_)
  obtain ⟨⟨_, info⟩, hentry, rfl⟩ := List.mem_map.1 ((h.targets e.target).2 ⟨e, he, rfl⟩)
  have hinfo := SortedMap.find?_eq_some_iff.2 hentry
  rw [showsEdge_eq, decide_eq_decide, hinfo, Option.map_some, h.kinds _ info hinfo, hoptions]
  simp [h.loopless e he]

section WithoutPlatform

variable (h : off.WithoutPlatform on)
include h

/-- The same nodes for the imported modules of the project. -/
lemma WithoutPlatform.customPhrases_eq (options : Options) :
    targetPhrases off.graph options .custom = targetPhrases on.graph options .custom := by
  have hentries : off.graph.targets.entries =
      on.graph.targets.entries.filter fun e => e.2.kind = .custom := by
    rw [h.targets]
    rfl
  rw [targetPhrases, targetPhrases, hentries, List.filter_filter]
  simp [beq_eq_decide]

/-- The same edges. -/
lemma WithoutPlatform.edgePhrases_eq (hoff : off.Consistent rules) (hon : on.Consistent rules)
    (hoptions : options.includeSystem = false) :
    edgePhrases off.graph options = edgePhrases on.graph options := by
  rw [hoff.edgePhrases_eq hoptions, hon.edgePhrases_eq hoptions,
    SortedSet.toList_eq_filter h.edges, List.filter_filter]
  simp

/-- The same nodes for the importing modules, without those whose imports are all platform
modules. -/
lemma WithoutPlatform.sourcePhrases_eq (hon : on.Consistent rules) (options : Options) :
    sourcePhrases off.graph options = (sourcePhrases on.graph options).filter
      (!isImporter options.theme on.graph.PlatformOnly ·) := by
  have hsources : ∀ module, module ∈ off.graph.sources ↔
      module ∈ on.graph.sources ∧ ¬on.graph.PlatformOnly module := by
    intro module
    rw [h.sources, ModuleGraph.not_platformOnly_iff, hon.sources]
    -- an import of a project module makes the module a source of both graphs
    constructor
    · rintro ⟨e, he, hkind, hsource⟩
      exact ⟨⟨e, he, hsource⟩, e, he, hkind, hsource⟩
    · exact And.right
  have hnode : ∀ name : String, (!isImporter options.theme on.graph.PlatformOnly
      (.node (nodeId name.toList) (escapeLabel name.toList) ⟨name, none⟩
        (Role.source.style options.theme true))) = decide ¬on.graph.PlatformOnly name := by
    intro name
    rw [isImporter, isNodeOf_node]
    simp
  rw [sourcePhrases, sourcePhrases, SortedSet.toList_eq_filter hsources, List.filter_map]
  exact congrArg (List.map _) (List.filter_congr fun name _ => (hnode name).symm)

end WithoutPlatform

end ScanOutcome

/-- Two graphs are drawn the same without platform modules, up to the modules of the second graph
whose imports are all platform modules: these have no nodes in the drawings of the first graph. -/
def ModuleGraph.DrawnSame (off on : ModuleGraph) : Prop :=
  ∀ options : Options, options.includeSystem = false →
    ∃ drawn drawn', Dot.read (off.draw options).toList = some drawn ∧
      Dot.read (on.draw options).toList = some drawn' ∧
      SameBut options.theme on.PlatformOnly drawn drawn'

/-- An outcome without platform modules is drawn the same as the outcome with them. -/
lemma ScanOutcome.WithoutPlatform.drawnSame {off on : ScanOutcome} {rules : RuleSet}
    (h : off.WithoutPlatform on) (hoff : off.Consistent rules) (hon : on.Consistent rules) :
    off.graph.DrawnSame on.graph := by
  intro options hoptions
  have hcustoms := h.customPhrases_eq options
  have hedges := h.edgePhrases_eq hoff hon hoptions
  have hsources := h.sourcePhrases_eq hon options
  refine ⟨picture off.graph options, picture on.graph options, read_draw _ _, read_draw _ _, ?_⟩
  exact
    { customs := by rw [filter_isNodeOf_picture, filter_isNodeOf_picture, hcustoms]
      edges := by rw [filter_isEdge_picture, filter_isEdge_picture, hedges]
      sources := by rw [filter_isNodeOf_picture, filter_isNodeOf_picture, hsources]
      whole := by
        rw [filter_not_isImporter_picture, ← hsources, ← hcustoms, ← hedges, picture, hoptions]
        rfl }

/-- The imports of a module in the graph of a scan are the kept imports of its files. -/
lemma ModuleGraph.Reports.platformOnly_iff {g : ModuleGraph} {filter : Filter}
    {files : List FoundFile} (h : g.Reports filter files) (module : String) :
    g.PlatformOnly module ↔ ∀ token, filter.Finds files ⟨module, token⟩ →
      ModuleKind.classify token = .system := by
  constructor
  · exact fun honly token hfinds => honly ⟨module, token⟩ ((h.edges _).2 hfinds) rfl
  · rintro hfiles e he rfl
    exact hfiles e.target ((h.edges e).1 he)

/-- **Leaving platform modules out of the scan or out of the drawing**: without platform modules,
the drawings of a scan that has left them out and of one that has not are the same, with the same
nodes for the imported modules of the project and the same edges, but for the nodes of just those
importing modules whose kept imports are all platform modules. This holds of any two schedules of
the same files, and of the two scans of a file tree, whatever the other options of the drawings are.

**Proof sketch.** Of the outcomes, one is the other without platform modules, and both record for
each target the kind of its name. So the drawing of either leaves out the same edges as the scan
does, and an importing module that loses all its edges is no source of the smaller graph. -/
theorem scan_drawings_same :
    (∀ (plan : ScanPlan) (s t : Schedule) (failures : Nat), s.files.Perm t.files →
      let off := (scanFiles { plan with includeSystem := false } s failures).graph
      let on := (scanFiles { plan with includeSystem := true } t failures).graph
      off.DrawnSame on ∧
        ∀ module, on.PlatformOnly module ↔ ∀ token,
          Filter.Finds ⟨plan.rules, true⟩ t.files ⟨module, token⟩ →
            ModuleKind.classify token = .system) ∧
    ∀ (workers : Workers) (tree : FileTree) (plan : ScanPlan),
      match scan workers tree { plan with includeSystem := false },
        scan workers tree { plan with includeSystem := true } with
      | .ok off, .ok on => off.graph.DrawnSame on.graph ∧
        ∀ module, on.graph.PlatformOnly module ↔ ∀ token,
          Filter.Finds ⟨plan.rules, true⟩ (foundFiles tree plan.root plan.noIgnore).1
            ⟨module, token⟩ → ModuleKind.classify token = .system
      | .error e, .error e' => e.cause = e'.cause
      | _, _ => False := by
  have hdrawn : ∀ (plan : ScanPlan) (s t : Schedule) (failures : Nat), s.files.Perm t.files →
      (scanFiles { plan with includeSystem := false } s failures).graph.DrawnSame
        (scanFiles { plan with includeSystem := true } t failures).graph := by
    intro plan s t failures h
    have hpart := scanFiles_withoutPlatform plan t failures
    have hagree : (scanFiles { plan with includeSystem := false } s failures).WithoutPlatform
        (scanFiles { plan with includeSystem := true } t failures) :=
      .of_agrees (scanFiles_agrees _ failures h) hpart
    exact hagree.drawnSame (scanFiles_consistent _ s failures) (scanFiles_consistent _ t failures)
  have honly : ∀ (plan : ScanPlan) (schedule : Schedule) (failures : Nat) (module : String),
      (scanFiles { plan with includeSystem := true } schedule failures).graph.PlatformOnly module ↔
        ∀ token, Filter.Finds ⟨plan.rules, true⟩ schedule.files ⟨module, token⟩ →
          ModuleKind.classify token = .system := by
    intro plan schedule failures
    exact (holds_scanFiles { plan with includeSystem := true } schedule failures).reports
      |>.platformOnly_iff
  refine ⟨fun plan s t failures h => ⟨hdrawn plan s t failures h, honly plan t failures⟩,
    fun workers tree plan => ?_⟩
  have hpair := forall_scan_pair (P := fun off on => off.graph.DrawnSame on.graph)
    (p := { plan with includeSystem := false }) (q := { plan with includeSystem := true }) rfl rfl
    (rfl : _ = ScanPlan.start _ workers) (hdrawn plan) tree
  have hon := forall_scan (P := fun o files => ∀ module, o.graph.PlatformOnly module ↔ ∀ token,
    Filter.Finds ⟨plan.rules, true⟩ files ⟨module, token⟩ → ModuleKind.classify token = .system)
    (honly plan) workers tree
  revert hpair hon
  cases scan workers tree { plan with includeSystem := false } <;>
    cases scan workers tree { plan with includeSystem := true }
  case ok.ok => exact fun hpair hon => ⟨hpair, hon⟩
  all_goals exact fun hpair _ => hpair

/-- One file imports a platform module and another one a module of the project beside it. Without
platform modules the first module has no node in the drawing of the scan that left them out. -/
theorem scan_drawings_same_shared :
    let a : FoundFile := ⟨"A/a.swift", .ok (Utf8.encode "import UIKit".toList)⟩
    let b : FoundFile := ⟨"B/b.swift", .ok (Utf8.encode "import A\nimport UIKit".toList)⟩
    let plan : ScanPlan := ⟨".", .empty, false, false, 2⟩
    let parts : Schedule := .join (.part [b]) (.part [a])
    let off := (scanFiles { plan with includeSystem := false } parts 0).graph
    let on := (scanFiles { plan with includeSystem := true } (.part [a, b]) 0).graph
    let options : Options := { legend := false }
    parts.files.Perm [a, b] ∧ options.includeSystem = false ∧
      on.PlatformOnly "A" ∧ ¬on.PlatformOnly "B" ∧
      ∃ drawn drawn', Dot.read (off.draw options).toList = some drawn ∧
        Dot.read (on.draw options).toList = some drawn' ∧
        SameBut options.theme on.PlatformOnly drawn drawn' := by
  intro a b plan parts off on options
  have hfiles : parts.files.Perm [a, b] := List.reverse_perm [a, b]
  have hdrawn : off.DrawnSame on := (scan_drawings_same.1 plan parts (.part [a, b]) 0 hfiles).1
  exact ⟨hfiles, rfl, by decide +kernel, by decide +kernel, hdrawn options rfl⟩

end ImportAtlas
