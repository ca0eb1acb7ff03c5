import ImportAtlas.Proofs.Drawing.ReadBack
import ImportAtlas.Proofs.Scan.Consistency

/-!
# The ends of drawn edges

Nodes and edges of a drawing are chosen by different rules: a node by the listing that its module
stands in and by the kind of the module, an edge by its two ends and the kind of its target. In the
drawing of a scan the rules agree, so that every edge joins two nodes that are drawn. Which nodes
and edges there are is up to one option only: whether platform modules are shown.

## Main definitions

* `ImportAtlas.Drawing.outline`: the nodes and edges of a drawing that has been read.
* `ImportAtlas.Drawing.outlineOf`: the nodes and edges that a graph calls for.
* `ImportAtlas.Drawing.Anchored`: every edge joins two nodes.

## Main results

* `ImportAtlas.Drawing.outline_picture`: a drawing has the nodes and edges that its graph calls for.
* `ImportAtlas.Drawing.anchored_outlineOf`: the edges of a graph join its nodes, if they lead from
  sources to targets.
* `ImportAtlas.scan_drawing_anchored`: in every drawing of a scan, every edge joins two nodes.
-/

namespace ImportAtlas

namespace Drawing

open Dot

/-! ### Outlines -/

/-- What a statement shows of the modules. Identifiers and labels are as they are written. -/
inductive Shown where
  /-- A node. -/
  | node (id label : List Char)
  /-- An edge. -/
  | edge (source target : List Char)

/-- What a statement shows, if it is a node or an edge. -/
def shown? : Phrase → Option Shown
  | .node id written _ _ => some (.node id written)
  | .edge source target => some (.edge source target)
  | _ => none

/-- The start of the legend. -/
def legendOpening : Phrase := .opening "subgraph" "cluster_legend"

/-- The nodes and edges of a drawing in their order, without the nodes of the legend. -/
def outline (phrases : List Phrase) : List Shown :=
  (phrases.takeWhile (· ≠ legendOpening)).filterMap shown?

/-- The nodes of the imported modules of a kind. -/
def targetOutline (g : ModuleGraph) (kind : ModuleKind) : List Shown :=
  (g.targets.entries.filter fun e => e.2.kind == kind).map fun e =>
    .node (nodeId e.1.toList) (countLabel e.1.toList e.2.count)

/-- The nodes and edges that a graph calls for, with or without the platform modules. -/
def outlineOf (g : ModuleGraph) (includeSystem : Bool) : List Shown :=
  (g.sources.toList.map fun name => .node (nodeId name.toList) (escapeLabel name.toList)) ++
    (if includeSystem then targetOutline g .system else []) ++ targetOutline g .custom ++
    (g.edges.toList.filter fun e => e.source ≠ e.target ∧
      (includeSystem = true ∨ (g.targets.find? e.target).map (·.kind) ≠ some .system)).map fun e =>
        .edge (nodeId e.source.toList) (nodeId e.target.toList)

/-- Every edge joins two nodes. -/
def Anchored (shown : List Shown) : Prop :=
  ∀ source target, .edge source target ∈ shown →
    (∃ label, .node source label ∈ shown) ∧ ∃ label, .node target label ∈ shown

/-- No node and no edge opens the legend. -/
lemma ne_legendOpening {p : Phrase} (h : (shown? p).isSome = true) : p ≠ legendOpening := by
  rintro rfl
  cases h

/-- Statements that are nodes and edges are shown one by one. -/
lemma filterMap_shown_map {α : Type} {items : List α} {phrase : α → Phrase} {shown : α → Shown}
    (h : ∀ x, shown? (phrase x) = some (shown x)) :
    (items.map phrase).filterMap shown? = items.map shown := by
  rw [List.filterMap_map, ← List.filterMap_eq_map]
  exact List.filterMap_congr fun x _ => h x

/-- The statements of the modules have the nodes and edges that the graph calls for. -/
lemma filterMap_shown_body (g : ModuleGraph) (options : Options) :
    (sourcePhrases g options ++
      (if options.includeSystem then targetPhrases g options .system else []) ++
      targetPhrases g options .custom ++ edgePhrases g options).filterMap shown? =
    outlineOf g options.includeSystem := by
  have hedges : showsEdge g options = fun e => decide (e.source ≠ e.target ∧
      (options.includeSystem = true ∨
        (g.targets.find? e.target).map (·.kind) ≠ some .system)) :=
    funext (showsEdge_eq g options)
  have htargets : ∀ kind, (targetPhrases g options kind).filterMap shown? =
      targetOutline g kind := fun kind => filterMap_shown_map fun _ => rfl
  have hsystem : (if options.includeSystem then targetPhrases g options .system else []).filterMap
      shown? = if options.includeSystem then targetOutline g .system else [] := by
    split
    · exact htargets .system
    · rfl
  rw [List.filterMap_append, List.filterMap_append, List.filterMap_append, htargets, hsystem,
    sourcePhrases, edgePhrases, hedges, outlineOf, filterMap_shown_map fun _ => rfl,
    filterMap_shown_map fun _ => rfl]

/-- **A drawing has the nodes and edges that its graph calls for**, whatever the other options.

**Proof sketch.** None of the phrases in front of the legend opens it, so that the outline ends just
behind them. The phrases in front of the modules show nothing, and the others show what they stand
for. -/
lemma outline_picture (g : ModuleGraph) (options : Options) :
    outline (picture g options) = outlineOf g options.includeSystem := by
  set body := sourcePhrases g options ++
    (if options.includeSystem then targetPhrases g options .system else []) ++
    targetPhrases g options .custom ++ edgePhrases g options with hbody
  have hpreamble : ∀ p ∈ preamble options, p ≠ legendOpening := by
    simp [preamble, legendOpening]
  have hmap : ∀ {α : Type} {items : List α} {phrase : α → Phrase},
      (∀ x, (shown? (phrase x)).isSome = true) → ∀ p ∈ items.map phrase, p ≠ legendOpening := by
    intro α items phrase h p hp
    obtain ⟨x, -, rfl⟩ := List.mem_map.1 hp
    exact ne_legendOpening (h x)
  have hmodules : ∀ p ∈ body, p ≠ legendOpening := by
    intro p hp
    simp only [hbody, List.mem_append] at hp
    obtain ((hp | hp) | hp) | hp := hp
    · exact hmap (fun _ => rfl) p hp
    · split at hp
      · exact hmap (fun _ => rfl) p hp
      · cases hp
    · exact hmap (fun _ => rfl) p hp
    · exact hmap (fun _ => rfl) p hp
  have hfront : ∀ p ∈ preamble options ++ body, decide (p ≠ legendOpening) = true :=
    fun p hp => decide_eq_true ((List.mem_append.1 hp).elim (hpreamble p) (hmodules p))
  -- the legend is cut off with all that follows it
  have hend : (((if options.legend then legendPhrases options else []) ++
      [Phrase.closing]).takeWhile (· ≠ legendOpening)).filterMap shown? = [] := by
    cases options.legend <;> rfl
  have hnone : (preamble options).filterMap shown? = [] := rfl
  rw [outline, picture, ← hbody, List.append_assoc, List.takeWhile_append_of_pos hfront,
    List.filterMap_append, List.filterMap_append, hend, hnone, hbody, filterMap_shown_body,
    List.nil_append, List.append_nil]

/-! ### Ends -/

section Graph

variable {g : ModuleGraph} {includeSystem : Bool}

/-- A source has a node. -/
lemma exists_node_of_mem_sources {module : String} (h : module ∈ g.sources) :
    ∃ label, .node (nodeId module.toList) label ∈ outlineOf g includeSystem := by
  refine ⟨escapeLabel module.toList, ?_⟩
  simp only [outlineOf, List.mem_append, List.mem_map]
  exact .inl (.inl (.inl ⟨module, h, rfl⟩))

/-- A target has a node, if it is of a kind that is shown. -/
lemma exists_node_of_find? {token : String} {info : ModuleInfo}
    (h : g.targets.find? token = some info) (hshown : includeSystem = true ∨ info.kind ≠ .system) :
    ∃ label, .node (nodeId token.toList) label ∈ outlineOf g includeSystem := by
  have hnode : .node (nodeId token.toList) (countLabel token.toList info.count) ∈
      targetOutline g info.kind :=
    List.mem_map.2 ⟨(token, info), List.mem_filter.2
      ⟨SortedMap.find?_eq_some_iff.1 h, beq_self_eq_true _⟩, rfl⟩
  refine ⟨countLabel token.toList info.count, ?_⟩
  simp only [outlineOf, List.mem_append]
  cases hkind : info.kind with
  | custom => exact .inl (.inr (hkind ▸ hnode))
  | system =>
    have hincluded : includeSystem = true := hshown.resolve_right (not_not_intro hkind)
    rw [hincluded, if_pos rfl]
    exact .inl (.inl (.inr (hkind ▸ hnode)))

/-- A drawn edge is one of the graph, and the kind of its target is shown. -/
lemma exists_edge_of_mem_outlineOf {source target : List Char}
    (h : .edge source target ∈ outlineOf g includeSystem) :
    ∃ e ∈ g.edges, (includeSystem = true ∨
      (g.targets.find? e.target).map (·.kind) ≠ some .system) ∧
      nodeId e.source.toList = source ∧ nodeId e.target.toList = target := by
  have hnode : ∀ {α : Type} {items : List α} {id label : α → List Char},
      .edge source target ∉ items.map fun x => Shown.node (id x) (label x) := by
    intro α items id label hmem
    obtain ⟨_, -, ⟨⟩⟩ := List.mem_map.1 hmem
  simp only [outlineOf, List.mem_append] at h
  obtain ((h | h) | h) | h := h
  · exact absurd h hnode
  · split at h
    · exact absurd h hnode
    · cases h
  · exact absurd h hnode
  · obtain ⟨e, hmem, hedge⟩ := List.mem_map.1 h
    obtain ⟨he, hshown⟩ := List.mem_filter.1 hmem
    obtain ⟨hsource, htarget⟩ := Shown.edge.inj hedge
    exact ⟨e, he, (of_decide_eq_true hshown).2, hsource, htarget⟩

/-- **The edges of a graph join its nodes**, if they lead from sources to targets. An edge to a
platform module is drawn only if the node of the module is. -/
lemma anchored_outlineOf (hsources : ∀ e ∈ g.edges, e.source ∈ g.sources)
    (htargets : ∀ e ∈ g.edges, e.target ∈ g.targets.keys) :
    Anchored (outlineOf g includeSystem) := by
  intro source target h
  obtain ⟨e, he, hshown, rfl, rfl⟩ := exists_edge_of_mem_outlineOf h
  obtain ⟨⟨_, info⟩, hinfo, rfl⟩ := List.mem_map.1 (htargets e he)
  have hfind := SortedMap.find?_eq_some_iff.2 hinfo
  rw [hfind, Option.map_some, ne_eq, Option.some.injEq] at hshown
  exact ⟨exists_node_of_mem_sources (hsources e he), exists_node_of_find? hfind hshown⟩

end Graph

end Drawing

/-! ### Scans -/

open Drawing Dot

/-- The drawings of a graph: each has just the nodes and edges that the graph calls for with or
without the platform modules, and every edge joins two of the nodes. -/
def ModuleGraph.DrawnAnchored (g : ModuleGraph) : Prop :=
  ∀ options : Options, ∃ phrases, Dot.read (g.draw options).toList = some phrases ∧
    outline phrases = outlineOf g options.includeSystem ∧ Anchored (outline phrases)

/-- The graph of a schedule is drawn with both ends of every edge. -/
lemma scanFiles_drawnAnchored (plan : ScanPlan) (schedule : Schedule) (failures : Nat) :
    (scanFiles plan schedule failures).graph.DrawnAnchored := by
  intro options
  have hconsistent := scanFiles_consistent plan schedule failures
  set g := (scanFiles plan schedule failures).graph
  refine ⟨picture g options, read_draw g options, outline_picture g options, ?_⟩
  rw [outline_picture]
  refine anchored_outlineOf (fun e he => ?_) fun e he => ?_
  · exact (hconsistent.sources e.source).2 ⟨e, he, rfl⟩
  · exact (hconsistent.targets e.target).2 ⟨e, he, rfl⟩

/-- **In every drawing of a scan, every edge joins two nodes**: in those of the outcome of any
schedule, and of the scan of a file tree, whether the scan or the drawing or both include platform
modules. Which nodes and edges there are, with which labels and in which order, depends on no other
option. -/
theorem scan_drawing_anchored :
    (∀ (plan : ScanPlan) (schedule : Schedule) (failures : Nat),
      (scanFiles plan schedule failures).graph.DrawnAnchored) ∧
    ∀ (workers : Workers) (tree : FileTree) (plan : ScanPlan),
      match scan workers tree plan with
      | .ok outcome => outcome.graph.DrawnAnchored
      | .error e => plan.Fails workers tree e.cause :=
  ⟨scanFiles_drawnAnchored, fun workers tree plan =>
    forall_scan (P := fun o _ => o.graph.DrawnAnchored) (scanFiles_drawnAnchored plan) workers tree⟩

end ImportAtlas
