import ImportAtlas.Proofs.Drawing.ReadBack
import ImportAtlas.Proofs.Sorted.Map
import ImportAtlas.Proofs.Sorted.Set
import Mathlib.Data.List.Forall2
import Mathlib.Data.List.Nodup

/-!
# Which modules a drawing keeps apart

The identifier of a node keeps the letters, digits and underscores of a name and has an underscore
for every other character. So two modules share a node exactly when their names look alike in this
sense, and a drawing shows the graph as it is exactly when no two names in the graph do.

## Main definitions

* `ImportAtlas.Drawing.Alike`: two names that the identifiers do not tell apart.
* `ImportAtlas.ModuleGraph.Mentions`: a module occurs in a graph.
* `ImportAtlas.Drawing.KeepsApart`: no two modules of a graph look alike.

## Main results

* `ImportAtlas.Drawing.nodeId_eq_iff`: identifiers are equal just for names that look alike.
* `ImportAtlas.Drawing.keepsApart_of_isIdChar`: names of letters, digits and underscores do not
  look alike.
* `ImportAtlas.Drawing.drawn_edges_apart`: the edges in a drawing are apart, and go from one node to
  another, as far as the identifiers tell the modules apart.
-/

namespace ImportAtlas

/-- A module occurs in a graph: as an importer, as an import, or at the end of an edge. -/
def ModuleGraph.Mentions (g : ModuleGraph) (module : String) : Prop :=
  module ∈ g.sources ∨ (g.targets.find? module).isSome = true ∨
    ∃ e ∈ g.edges, e.source = module ∨ e.target = module

namespace Drawing

open Dot

/-! ### Names that look alike -/

/-- Two names look alike: they are of one length, and where they differ, neither has an ASCII letter
or digit. -/
def Alike (a b : String) : Prop :=
  List.Forall₂ (fun c d => c = d ∨ c.isAlphanum = false ∧ d.isAlphanum = false) a.toList b.toList

/-- No two modules of a graph look alike. -/
def KeepsApart (g : ModuleGraph) : Prop :=
  ∀ a b, g.Mentions a → g.Mentions b → Alike a b → a = b

/-- The identifier does not tell two characters apart if neither is a letter or a digit. -/
lemma idChar_eq_iff (c d : Char) :
    ((if isIdChar c then c else '_') = if isIdChar d then d else '_') ↔
      c = d ∨ c.isAlphanum = false ∧ d.isAlphanum = false := by
  -- the underscore stays, and so it is replaced by itself
  have hspelled : ∀ c : Char,
      (if isIdChar c then c else '_') = if c.isAlphanum then c else '_' := by
    intro c
    by_cases hunderscore : c = '_'
    · subst hunderscore
      rfl
    · simp [isIdChar, hunderscore]
  have hne : ∀ {c d : Char}, c.isAlphanum = true → ¬d.isAlphanum = true → c ≠ d := by
    rintro c d hc hd rfl
    exact hd hc
  rw [hspelled, hspelled]
  by_cases hc : c.isAlphanum = true <;> by_cases hd : d.isAlphanum = true
  · simp [hc, hd]
  · simp [hc, hd, hne hc hd, hne hc (d := '_') (by decide)]
  · simp [hc, hd, (hne hd hc).symm, (hne hd (d := '_') (by decide)).symm]
  · simp [hc, hd]

/-- **Identifiers are equal just for names that look alike.** -/
lemma nodeId_eq_iff (a b : String) : nodeId a.toList = nodeId b.toList ↔ Alike a b := by
  rw [nodeId, nodeId, ← List.forall₂_eq_eq_eq, List.forall₂_map_left_iff,
    List.forall₂_map_right_iff]
  simp only [idChar_eq_iff]
  rfl

/-- **Names of letters, digits and underscores do not look alike.** -/
lemma keepsApart_of_isIdChar {g : ModuleGraph}
    (h : ∀ name, g.Mentions name → ∀ c ∈ name.toList, isIdChar c = true) : KeepsApart g := by
  have hself : ∀ name, g.Mentions name → nodeId name.toList = name.toList := fun name hname => by
    refine (List.map_congr_left fun c hc => ?_).trans (List.map_id _)
    exact if_pos (h name hname c hc)
  intro a b ha hb halike
  have hids := (nodeId_eq_iff a b).2 halike
  rw [hself a ha, hself b hb] at hids
  exact String.toList_inj.1 hids

/-! ### Edges -/

/-- Whether a statement is an edge. -/
def isEdge : Phrase → Bool
  | .edge _ _ => true
  | _ => false

/-- A filter that all statements of a listing pass or none. -/
lemma filter_map_of_const {α : Type} {items : List α} {phrase : α → Phrase} {p : Phrase → Bool}
    {b : Bool} (h : ∀ x, p (phrase x) = b) :
    (items.map phrase).filter p = if b then items.map phrase else [] := by
  have hconst : p ∘ phrase = fun _ => b := funext h
  rw [List.filter_map, hconst]
  cases b <;> simp

/-- A filter goes through a drawing group by group. -/
lemma filter_picture (g : ModuleGraph) (options : Options) (p : Phrase → Bool) :
    (picture g options).filter p =
      (preamble options).filter p ++
        ((sourcePhrases g options).filter p ++
          (if options.includeSystem then (targetPhrases g options .system).filter p else []) ++
          (targetPhrases g options .custom).filter p ++ (edgePhrases g options).filter p) ++
        (if options.legend then (legendPhrases options).filter p else []) ++
        [Phrase.closing].filter p := by
  simp only [picture, List.filter_append, apply_ite (List.filter p), List.filter_nil]

/-- The edge statements of a drawing are those of the edges that are drawn. -/
lemma filter_isEdge_picture (g : ModuleGraph) (options : Options) :
    (picture g options).filter isEdge = edgePhrases g options := by
  have hsources : (sourcePhrases g options).filter isEdge = [] :=
    filter_map_of_const (b := false) fun _ => rfl
  have htargets : ∀ kind, (targetPhrases g options kind).filter isEdge = [] :=
    fun kind => filter_map_of_const (b := false) fun _ => rfl
  have hedges : (edgePhrases g options).filter isEdge = edgePhrases g options :=
    filter_map_of_const (b := true) fun _ => rfl
  have hpreamble : (preamble options).filter isEdge = [] := rfl
  have hlegend : (legendPhrases options).filter isEdge = [] := by
    rw [legendPhrases, List.filter_append, List.filter_append,
      filter_map_of_const (b := false) fun _ => rfl]
    rfl
  have hclosing : [Phrase.closing].filter isEdge = [] := rfl
  simp only [filter_picture, hpreamble, hsources, htargets, hedges, hlegend, hclosing, ite_self,
    List.append_nil, List.nil_append]

/-- The edge statements of a drawing, one by one. -/
lemma edge_mem_picture_iff {g : ModuleGraph} {options : Options} {source target : List Char} :
    .edge source target ∈ picture g options ↔ ∃ e ∈ g.edges, showsEdge g options e = true ∧
      nodeId e.source.toList = source ∧ nodeId e.target.toList = target := by
  have hfilter : .edge source target ∈ picture g options ↔
      .edge source target ∈ (picture g options).filter isEdge := by
    rw [List.mem_filter]
    exact (and_iff_left rfl).symm
  rw [hfilter, filter_isEdge_picture, edgePhrases, List.mem_map]
  simp only [List.mem_filter, Phrase.edge.injEq, and_assoc]
  rfl

section KeepsApart

variable {g : ModuleGraph} (h : KeepsApart g)
include h

/-- The modules of such a graph have identifiers of their own. -/
lemma KeepsApart.eq_of_nodeId_eq {a b : String} (ha : g.Mentions a) (hb : g.Mentions b)
    (hid : nodeId a.toList = nodeId b.toList) : a = b :=
  h a b ha hb ((nodeId_eq_iff a b).1 hid)

/-- No edge of such a drawing goes from a node to itself: its ends are different modules. -/
lemma KeepsApart.edge_not_mem (options : Options) (id : List Char) :
    .edge id id ∉ picture g options := by
  intro hmem
  obtain ⟨e, he, hshows, hsource, htarget⟩ := edge_mem_picture_iff.1 hmem
  rw [showsEdge_eq] at hshows
  refine (of_decide_eq_true hshows).1 (h.eq_of_nodeId_eq ?_ ?_ (hsource.trans htarget.symm))
  · exact .inr (.inr ⟨e, he, .inl rfl⟩)
  · exact .inr (.inr ⟨e, he, .inr rfl⟩)

/-- No two edges of such a drawing are the same. -/
lemma KeepsApart.nodup_edgePhrases (options : Options) : (edgePhrases g options).Nodup := by
  refine (g.edges.nodup_toList.filter _).map_on fun e he e' he' heq => ?_
  have hmem : e ∈ g.edges := List.mem_of_mem_filter he
  have hmem' : e' ∈ g.edges := List.mem_of_mem_filter he'
  obtain ⟨hsource, htarget⟩ := Phrase.edge.inj heq
  have hsame : e.source = e'.source := h.eq_of_nodeId_eq (.inr (.inr ⟨e, hmem, .inl rfl⟩))
    (.inr (.inr ⟨e', hmem', .inl rfl⟩)) hsource
  have hsame' : e.target = e'.target := h.eq_of_nodeId_eq (.inr (.inr ⟨e, hmem, .inr rfl⟩))
    (.inr (.inr ⟨e', hmem', .inr rfl⟩)) htarget
  cases e
  cases e'
  simp_all

end KeepsApart

/-- **The modules and edges of a drawing are apart as far as the identifiers tell them apart.** Two
modules share a node just if their names look alike, and an edge goes from a node to itself just if
the names of its ends do. In the drawing of a graph without such names, as of one whose names have
letters, digits and underscores only, every module has an identifier of its own, every edge that is
drawn has a statement of its own, and none goes from a node to itself. -/
theorem drawn_edges_apart (g : ModuleGraph) (options : Options) :
    (∀ a b : String, nodeId a.toList = nodeId b.toList ↔ Alike a b) ∧
    ∃ phrases, Dot.read (g.draw options).toList = some phrases ∧
      phrases.filter isEdge = ((g.edges.toList.filter (showsEdge g options)).map fun e =>
        .edge (nodeId e.source.toList) (nodeId e.target.toList)) ∧
      (∀ id, .edge id id ∈ phrases ↔ ∃ e ∈ g.edges, showsEdge g options e = true ∧
        Alike e.source e.target ∧ nodeId e.source.toList = id) ∧
      ((∀ name, g.Mentions name → ∀ c ∈ name.toList, isIdChar c = true) → KeepsApart g) ∧
      (KeepsApart g →
        (∀ a b, g.Mentions a → g.Mentions b → nodeId a.toList = nodeId b.toList → a = b) ∧
          (phrases.filter isEdge).Nodup ∧ ∀ id, .edge id id ∉ phrases) := by
  refine ⟨nodeId_eq_iff, picture g options, read_draw g options, filter_isEdge_picture g options,
    fun id => ?_, keepsApart_of_isIdChar,
    fun h => ⟨fun a b => h.eq_of_nodeId_eq, ?_, h.edge_not_mem options⟩⟩
  · rw [edge_mem_picture_iff]
    refine exists_congr fun e => and_congr_right fun _ => and_congr_right fun _ => ?_
    rw [← nodeId_eq_iff]
    constructor
    · rintro ⟨rfl, htarget⟩
      exact ⟨htarget.symm, rfl⟩
    · rintro ⟨hsame, rfl⟩
      exact ⟨rfl, hsame.symm⟩
  · rw [filter_isEdge_picture]
    exact h.nodup_edgePhrases options

/-- A graph with dotted and plain names, in which no two names look alike. -/
def dotted : ModuleGraph where
  sources := .ofList ["App"]
  targets := .ofList [("Core.Kit", ⟨.custom, 3⟩), ("UIKit", ⟨.system, 1⟩)]
  edges := .ofList [⟨"App", "Core.Kit"⟩, ⟨"App", "UIKit"⟩]

/-- Its drawing has an edge for each import, and none from a node to itself.

**Proof sketch.** The graph mentions three modules, whose identifiers are different by evaluation.
So it keeps its modules apart, and the law of all graphs says the rest. -/
theorem drawn_edges_apart_dotted :
    KeepsApart dotted ∧ ∃ phrases, Dot.read (dotted.draw {}).toList = some phrases ∧
      (phrases.filter isEdge).Nodup ∧ ∀ id, .edge id id ∉ phrases := by
  have hsources : dotted.sources.toList = ["App"] := by decide +kernel
  have htargets : dotted.targets.entries =
      [("Core.Kit", ⟨.custom, 3⟩), ("UIKit", ⟨.system, 1⟩)] := by decide +kernel
  have hedges : dotted.edges.toList = [⟨"App", "Core.Kit"⟩, ⟨"App", "UIKit"⟩] := by
    decide +kernel
  have hmentions : ∀ name, dotted.Mentions name → name ∈ ["App", "Core.Kit", "UIKit"] := by
    rintro name (hname | hname | ⟨e, he, hname⟩)
    · have hmem : name ∈ dotted.sources.toList := hname
      rw [hsources] at hmem
      simp_all
    · obtain ⟨info, hinfo⟩ := Option.isSome_iff_exists.1 hname
      have hmem := SortedMap.find?_eq_some_iff.1 hinfo
      rw [htargets] at hmem
      simp only [List.mem_cons, Prod.mk.injEq, List.not_mem_nil, or_false] at hmem
      obtain ⟨rfl, -⟩ | ⟨rfl, -⟩ := hmem <;> decide
    · have hmem : e ∈ dotted.edges.toList := he
      rw [hedges] at hmem
      simp only [List.mem_cons, List.not_mem_nil, or_false] at hmem
      obtain rfl | rfl := hmem <;> obtain rfl | rfl := hname <;> decide
  have happart : ∀ a ∈ ["App", "Core.Kit", "UIKit"], ∀ b ∈ ["App", "Core.Kit", "UIKit"],
      nodeId a.toList = nodeId b.toList → a = b := by decide +kernel
  have hkeeps : KeepsApart dotted := fun a b ha hb halike =>
    happart a (hmentions a ha) b (hmentions b hb) ((nodeId_eq_iff a b).2 halike)
  obtain ⟨-, phrases, hread, -, -, -, hapart⟩ := drawn_edges_apart dotted {}
  exact ⟨hkeeps, phrases, hread, (hapart hkeeps).2⟩

/-- A graph with an import of one module by another whose name looks alike. -/
def dashed : ModuleGraph where
  sources := .ofList ["my-module"]
  targets := .ofList [("my_module", ⟨.custom, 1⟩)]
  edges := .ofList [⟨"my-module", "my_module"⟩]

/-- In its drawing the two modules share a node, and the edge goes from this node to itself. -/
theorem dashed_not_apart :
    dashed.Mentions "my-module" ∧ dashed.Mentions "my_module" ∧ "my-module" ≠ "my_module" ∧
      nodeId "my-module".toList = nodeId "my_module".toList ∧
      ∃ phrases, Dot.read (dashed.draw {}).toList = some phrases ∧
        .edge "my_module".toList "my_module".toList ∈ phrases := by
  have hsource : "my-module" ∈ dashed.sources.toList := by decide +kernel
  have htarget : (dashed.targets.find? "my_module").isSome = true := by decide +kernel
  refine ⟨.inl hsource, .inr (.inl htarget), by decide, by decide +kernel, picture dashed {},
    read_draw dashed {}, by decide +kernel⟩

end Drawing

end ImportAtlas
