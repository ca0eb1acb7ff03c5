import ImportAtlas.Graph.File
import ImportAtlas.Proofs.FileTree.Writing
import ImportAtlas.Proofs.Json.Decode
import ImportAtlas.Proofs.Json.RoundTrip
import ImportAtlas.Proofs.Sorted.Map
import ImportAtlas.Proofs.Sorted.Set

/-!
# Reading a graph back

A graph that was saved is loaded again, whatever its names hold and whether or not its parts agree.

## Main results

* `ImportAtlas.ModuleGraph.ofJson_toJson`: a graph is decoded from its value.
* `ImportAtlas.ModuleGraph.plain_toJson`: the value of a graph is plain, so that its text spells it.
* `ImportAtlas.ModuleGraph.load_save`: a graph is loaded from its document and from every file that
  it was saved in.
-/

namespace ImportAtlas

open Json

/-! ### Values -/

/-- A kind is decoded from its name. -/
lemma ModuleKind.ofJson_name (kind : ModuleKind) :
    ModuleKind.ofJson (.text kind.name) = .ok kind := by
  cases kind <;> rfl

/-- A count of at most 64 bits is decoded. -/
lemma Json.Value.asCount_count {n : Nat} (h : n ≤ Numeral.maxWord) : (count n).asCount = .ok n :=
  if_pos h

/-- What is known of a module is decoded from its value. -/
lemma ModuleInfo.ofJson_toJson {info : ModuleInfo} (h : info.count ≤ Numeral.maxWord) :
    ModuleInfo.ofJson info.toJson = .ok info := by
  have hrecord : info.toJson.asRecord ["kind", "count"] =
      .ok [.text info.kind.name, .count info.count] :=
    Value.asRecord_record [("kind", .text info.kind.name), ("count", .count info.count)] (by simp)
  simp only [ModuleInfo.ofJson, hrecord, ModuleKind.ofJson_name, Value.asCount_count h, bind,
    Except.bind, pure, Except.pure]

/-- An edge is decoded from its value. -/
lemma Edge.ofJson_toJson (e : Edge) : Edge.ofJson e.toJson = .ok e := by
  have hrecord : e.toJson.asRecord ["from", "to"] = .ok [.text e.source, .text e.target] :=
    Value.asRecord_record [("from", .text e.source), ("to", .text e.target)] (by simp)
  simp only [Edge.ofJson, hrecord, Value.asText, Value.text, bind, Except.bind, pure, Except.pure]

namespace ModuleGraph

variable {g : ModuleGraph}

/-- **A graph is decoded from its value** if its counts have at most 64 bits. -/
lemma ofJson_toJson (h : ∀ e ∈ g.targets.entries, e.2.count ≤ Numeral.maxWord) :
    ofJson g.toJson = .ok g := by
  have hrecord : ∀ sources targets edges : Value,
      (Value.record [("sources", sources), ("targets", targets), ("edges", edges)]).asRecord
        ["sources", "targets", "edges"] = .ok [sources, targets, edges] :=
    fun sources targets edges => Value.asRecord_record
      [("sources", sources), ("targets", targets), ("edges", edges)] (by simp)
  have hsources : (Value.texts g.sources.toList).asList Value.asText = .ok g.sources.toList :=
    Value.asList_array fun _ _ => rfl
  have htargets : (Value.record (g.targets.entries.map fun e => (e.1, e.2.toJson))).asBindings
      ModuleInfo.ofJson = .ok g.targets.entries :=
    Value.asBindings_record fun e he => ModuleInfo.ofJson_toJson (h e he)
  have hedges : (Value.array (g.edges.toList.map Edge.toJson)).asList Edge.ofJson =
      .ok g.edges.toList :=
    Value.asList_array fun e _ => e.ofJson_toJson
  simp only [ofJson, toJson, hrecord, hsources, htargets, hedges, SortedSet.ofList_toList,
    SortedMap.ofList_entries, bind, Except.bind, pure, Except.pure]

/-! ### Texts -/

/-- A record of plain values is plain. -/
lemma plain_record {fields : List (String × Value)} (h : ∀ f ∈ fields, f.2.Plain) :
    (Value.record fields).Plain := by
  refine .object (fun f hf => ?_) fun f hf => ?_
  · obtain ⟨g, -, rfl⟩ := List.mem_map.1 hf
    rfl
  · obtain ⟨g, hg, rfl⟩ := List.mem_map.1 hf
    exact h g hg

/-- The value of a graph is plain. -/
lemma plain_toJson (g : ModuleGraph) : g.toJson.Plain := by
  have hsources : (Value.texts g.sources.toList).Plain := by
    refine .array fun v hv => ?_
    obtain ⟨name, -, rfl⟩ := List.mem_map.1 hv
    exact .string name
  have htargets :
      (Value.record (g.targets.entries.map fun e => (e.1, e.2.toJson))).Plain := by
    refine plain_record fun f hf => ?_
    obtain ⟨e, -, rfl⟩ := List.mem_map.1 hf
    refine plain_record ?_
    simpa using ⟨.string e.2.kind.name, .number e.2.count⟩
  have hedges : (Value.array (g.edges.toList.map Edge.toJson)).Plain := by
    refine .array fun v hv => ?_
    obtain ⟨e, -, rfl⟩ := List.mem_map.1 hv
    refine plain_record ?_
    simpa using ⟨.string e.source, .string e.target⟩
  refine plain_record ?_
  simpa using ⟨hsources, htargets, hedges⟩

/-- **A graph is read from its document.** -/
lemma parse_render (h : ∀ e ∈ g.targets.entries, e.2.count ≤ Numeral.maxWord) :
    parse g.render = .ok g := by
  have hvalue : Value.parse g.render = .ok g.toJson := by
    rw [Value.parse, render, g.plain_toJson.read?_pretty]
  rw [parse, hvalue]
  exact ofJson_toJson h

/-! ### Files -/

/-- **A graph is loaded from the text that it was saved as, and from every file that it was saved
in.** The counts have at most 64 bits; nothing else is asked of the graph.

**Proof sketch.** The document is the text of a plain value, which is read back, and each part of
the graph is decoded from its part of the value. A file that was written is read back as it was
written. -/
theorem load_save (h : ∀ e ∈ g.targets.entries, e.2.count ≤ Numeral.maxWord) :
    parse g.render = .ok g ∧
      ∀ (t t' : FileTree) (path : Path), g.save t path = .ok t' → load t' path = .ok g := by
  refine ⟨parse_render h, fun t t' path hsave => ?_⟩
  have hwrite : t.writeText path g.render = .ok t' := by
    rw [save] at hsave
    cases hw : t.writeText path g.render with
    | error e => simp [hw, Except.mapError] at hsave
    | ok written => simpa [hw, Except.mapError] using hsave
  rw [load, FileTree.readText_writeText hwrite]
  simp only [parse_render h, Except.mapError]

/-- A graph whose parts do not agree, with a name without letters, names that need every sort of
escape, and a count of 64 bits. -/
def disjointed : ModuleGraph where
  sources := .ofList ["", "\x00\x1f\x7f", "a\\\"b"]
  targets := .ofList [("line\nend\t\r\x08\x0c", ⟨.custom, Numeral.maxWord⟩), ("😀é", ⟨.system, 0⟩)]
  edges := .ofList [⟨"\x7b\"from\": null\x7d", ""⟩, ⟨"", ""⟩]

/-- Such a graph is saved in a file, and loaded from it. -/
theorem load_save_disjointed :
    (∀ e ∈ disjointed.targets.entries, e.2.count ≤ Numeral.maxWord) ∧
      parse disjointed.render = .ok disjointed ∧
      ∃ t', disjointed.save (.bare []) "graph.json" = .ok t' ∧
        load t' "graph.json" = .ok disjointed := by
  have hcounts : ∀ e ∈ disjointed.targets.entries, e.2.count ≤ Numeral.maxWord := by decide
  have hlocate : (FileTree.bare []).locate true "graph.json" = .ok (.vacant ["graph.json"]) := by
    have hsteps : FileTree.steps "graph.json" = ["graph.json"] := by decide +kernel
    have hrefusal : FileTree.refusal? "graph.json" = none := by decide +kernel
    have hroot : (FileTree.bare []).node? [] = some .directory := rfl
    have hfree : (FileTree.bare []).node? ["graph.json"] = none := rfl
    have hlength : ¬FileTree.maxNameBytes < "graph.json".utf8ByteSize := by decide
    have horigin : (FileTree.bare []).origin "graph.json" = [] := by decide +kernel
    rw [FileTree.locate, hrefusal, hsteps, horigin]
    simp only
    rw [FileTree.walk.eq_def, hroot]
    simp [hlength, hfree]
  have hsave : ∃ t', disjointed.save (.bare []) "graph.json" = .ok t' := by
    have hslash : FileTree.endsInSlash "graph.json" = false := by decide +kernel
    rw [save, FileTree.writeText, FileTree.write, if_neg (by simp [hslash]), hlocate]
    exact ⟨_, rfl⟩
  obtain ⟨t', hsave⟩ := hsave
  exact ⟨hcounts, (load_save hcounts).1, t', hsave, (load_save hcounts).2 _ _ _ hsave⟩

end ModuleGraph

end ImportAtlas
