import ImportAtlas.Drawing.Writer
import ImportAtlas.Proofs.Drawing.Dot
import ImportAtlas.Proofs.Text.Numeral

/-!
# Reading a drawing back

The text of a drawing, read as DOT, has just the statements that the graph and the options call for.
No name can close its own quotes, start a statement or change one.

## Main definitions

* `ImportAtlas.Drawing.picture`: the statements of a drawing.

## Main results

* `ImportAtlas.Drawing.read_escapeLabel`, `ImportAtlas.Drawing.read_countLabel`: names and counts
  are read back from labels.
* `ImportAtlas.Drawing.read_nodeText`, `ImportAtlas.Drawing.read_edge`: nodes and edges are read
  back from their lines.
* `ImportAtlas.Drawing.read_draw`, `ImportAtlas.Drawing.read_draw_statements`: a drawing is read as
  its statements.

## Design

Names stand in quoted texts only. That a name is sealed there is proved once for identifiers and
once for labels; all other text of a line is the same for every graph.
-/

namespace ImportAtlas.Drawing

open Dot

variable {theme : Theme} {role : Role} {options : Options} {id label : List Char}

/-! ### Quoted texts -/

/-- A name is closed by no quote of its own. -/
lemma sealed_escapeLabel (name : List Char) : Sealed (escapeLabel name) := by
  refine .flatMap fun c _ => ?_
  rw [escapeLabelChar]
  split_ifs with hbackslash hquote
  · exact .protected '\\'
  · exact .protected '"'
  · exact .single hquote hbackslash

/-- An identifier has letters, digits and underscores only. -/
lemma isIdChar_of_mem_nodeId {name : List Char} {c : Char} (h : c ∈ nodeId name) :
    isIdChar c = true := by
  obtain ⟨d, -, rfl⟩ := List.mem_map.1 h
  split
  · assumption
  · rfl

/-- An identifier is closed by no quote of its own. -/
lemma sealed_nodeId (name : List Char) : Sealed (nodeId name) := by
  refine .plain fun c hc => ⟨?_, ?_⟩ <;> rintro rfl <;>
    exact absurd (isIdChar_of_mem_nodeId hc) (by decide)

/-- A label with a count is closed by no quote of its own. -/
lemma sealed_countLabel (name : List Char) (n : Nat) : Sealed (countLabel name n) := by
  have hdigits : Sealed (Nat.toDigits 10 n) := by
    refine .plain fun c hc => ⟨?_, ?_⟩ <;> rintro rfl <;>
      exact absurd (Numeral.isDecimal_of_mem_toDigits hc) (by decide)
  have hbreak : Sealed ['\\', 'n', '('] := (Sealed.protected 'n').append (.literal (by decide))
  refine (((sealed_escapeLabel name).append hbreak).append hdigits).append (.literal ?_)
  split <;> decide

/-! ### Labels -/

/-- A protected backslash or quote stands for itself. -/
lemma firstLine_protected {c : Char} (h : c = '\\' ∨ c = '"') (rest : List Char) :
    firstLine ('\\' :: c :: rest) =
      (firstLine rest).map fun (line, below) => (c :: line, below) := by
  have hbreak : c ≠ 'n' := by rcases h with rfl | rfl <;> decide
  rw [firstLine, if_neg hbreak, if_pos h]

/-- Any other character stands for itself. -/
lemma firstLine_cons {c : Char} (h : ¬(c = '\\' ∨ c = '"')) (rest : List Char) :
    firstLine (c :: rest) = (firstLine rest).map fun (line, below) => (c :: line, below) := by
  rw [firstLine.eq_3 _ _ (by simp_all), if_neg h]

/-- The first line of a label with a name is the name. -/
lemma firstLine_escapeLabel (name rest : List Char) :
    firstLine (escapeLabel name ++ rest) =
      (firstLine rest).map fun (line, below) => (name ++ line, below) := by
  induction name with
  | nil =>
    show firstLine rest = _
    cases firstLine rest <;> rfl
  | cons c name ih =>
    have hcons : escapeLabel (c :: name) = escapeLabelChar c ++ escapeLabel name := rfl
    rw [hcons, List.append_assoc, escapeLabelChar]
    split_ifs with hbackslash hquote
    · subst hbackslash
      simp only [List.cons_append, List.nil_append]
      rw [firstLine_protected (.inl rfl), ih]
      cases firstLine rest <;> rfl
    · subst hquote
      simp only [List.cons_append, List.nil_append]
      rw [firstLine_protected (.inr rfl), ih]
      cases firstLine rest <;> rfl
    · simp only [List.cons_append, List.nil_append]
      rw [firstLine_cons (not_or.2 ⟨hbackslash, hquote⟩), ih]
      cases firstLine rest <;> rfl

/-- **A name is read back from its label.** -/
lemma read_escapeLabel (name : String) :
    Label.read (escapeLabel name.toList) = some ⟨name, none⟩ := by
  have hline := firstLine_escapeLabel name.toList []
  rw [List.append_nil, firstLine, Option.map_some] at hline
  rw [Label.read, hline]
  simp

/-- A count is read back from the second line of its label. -/
lemma readCount_toDigits (n : Nat) :
    readCount ('(' :: (Nat.toDigits 10 n ++ unit n)) = some n := by
  have hspan : (Nat.toDigits 10 n ++ unit n).span Numeral.isDecimal =
      (Nat.toDigits 10 n, unit n) := by
    refine Numeral.span_toDigits_append fun c hc => ?_
    rw [unit] at hc
    split at hc <;> (obtain rfl := Option.some.inj hc; rfl)
  rw [readCount, hspan]
  simp [Numeral.decimal?_toDigits]

/-- **A name and a count are read back from their label.** -/
lemma read_countLabel (name : String) (n : Nat) :
    Label.read (countLabel name.toList n) = some ⟨name, some n⟩ := by
  have hlabel : countLabel name.toList n =
      escapeLabel name.toList ++ '\\' :: 'n' :: '(' :: (Nat.toDigits 10 n ++ unit n) := by
    simp [countLabel, unit]
  rw [hlabel, Label.read, firstLine_escapeLabel, firstLine, if_pos rfl]
  simp [readCount_toDigits]

/-! ### Lines -/

/-- The attributes of a node besides its label. The frame may be twice as wide. -/
def Role.style (theme : Theme) (role : Role) (wide : Bool) : List (String × String) :=
  [("fillcolor", role.fill theme), ("shape", role.shape)] ++
    if wide then [("penwidth", "2")] else []

/-- No colour holds a quote or a backslash. -/
lemma sealed_fill (theme : Theme) (role : Role) : Sealed (role.fill theme).toList :=
  .literal (by cases theme <;> cases role <;> decide)

/-- No shape holds a quote or a backslash. -/
lemma sealed_shape (role : Role) : Sealed role.shape.toList :=
  .literal (by cases role <;> decide)

/-- A field spells its name and its value. -/
lemma spells_quotedField {name : String} {value : List Char}
    (hname : name.toList.all isWordChar = true) (hnil : name.toList ≠ [])
    (hvalue : Sealed value) :
    Spells (quotedField name value) [.word name.toList, .sign '=', .quoted value] := by
  have htext : quotedField name value = (name.toList ++ ['=']) ++ ('"' :: (value ++ ['"'])) := by
    simp [quotedField]
  rw [htext]
  exact (Spells.word hname hnil (by decide +kernel) (by decide +kernel)).append (.quoted hvalue)

/-- A comma and a blank spell a comma. -/
lemma spells_comma : Spells ", ".toList [.sign ','] := fun _ _ => rfl

/-- The end of the attributes, behind the width of the frame if it is given. -/
lemma spells_frame (wide : Bool) :
    Spells ((if wide then ", penwidth=2" else "").toList ++ "]".toList)
      ((if wide then [.sign ',', .word "penwidth".toList, .sign '=', .word "2".toList] else []) ++
        [.sign ']']) := by
  cases wide with
  | false => exact fun _ _ => rfl
  | true =>
    have hname : Spells ("penwidth".toList ++ ['=']) [.word "penwidth".toList, .sign '='] :=
      .word (by decide) (by decide) (by decide) (by decide)
    have hvalue : Spells ("2".toList ++ [']']) [.word "2".toList, .sign ']'] :=
      .word (by decide) (by decide) (by decide) (by decide)
    exact (spells_comma.append hname).append hvalue

/-- **A node is read from its line.**

**Proof sketch.** The line spells an identifier and three or four fields between brackets, each of
which is read for itself. Put together, they are the node of the role. -/
lemma read_nodeText {indent : List Char} {l : Label} (hindent : Spells indent []) (hid : Sealed id)
    (hlabel : Sealed label) (hread : Label.read label = some l) (wide : Bool) :
    Dot.read (indent ++ nodeText theme id label role (if wide then ", penwidth=2" else "")) =
      some [.node id label l (role.style theme wide)] := by
  have hopen : Spells " [".toList [.sign '['] := fun _ _ => rfl
  have hlabelled : Spells (quotedField "label" label)
      [.word "label".toList, .sign '=', .quoted label] :=
    spells_quotedField (by decide) (by decide) hlabel
  have hfilled : Spells (quotedField "fillcolor" (role.fill theme).toList)
      [.word "fillcolor".toList, .sign '=', .quoted (role.fill theme).toList] :=
    spells_quotedField (by decide) (by decide) (sealed_fill theme role)
  have hshaped : Spells (quotedField "shape" role.shape.toList)
      [.word "shape".toList, .sign '=', .quoted role.shape.toList] :=
    spells_quotedField (by decide) (by decide) (sealed_shape role)
  have hspells := hindent.append <| (Spells.quoted hid).append <| hopen.append <|
    hlabelled.append <| spells_comma.append <| hfilled.append <| spells_comma.append <|
    hshaped.append <| spells_frame wide
  have htext : indent ++ nodeText theme id label role (if wide then ", penwidth=2" else "") =
      (indent ++ ('"' :: (id ++ ['"']) ++ (" [".toList ++ (quotedField "label" label ++
        (", ".toList ++ (quotedField "fillcolor" (role.fill theme).toList ++ (", ".toList ++
        (quotedField "shape" role.shape.toList ++
        ((if wide then ", penwidth=2" else "").toList ++ "]".toList))))))))) ++ ";\n".toList := by
    have hquote : "\" [".toList = '"' :: " [".toList := rfl
    have hend : "];\n".toList = "]".toList ++ ";\n".toList := rfl
    rw [nodeText, hquote, hend]
    simp only [List.append_assoc, List.cons_append, List.nil_append]
  have hphrase : nodeOf id (("label".toList, label) ::
      ("fillcolor".toList, (role.fill theme).toList) :: ("shape".toList, role.shape.toList) ::
        if wide then [("penwidth".toList, "2".toList)] else []) =
      some (.node id label l (role.style theme wide)) := by
    rw [nodeOf, if_pos String.ofList_toList, hread, Option.map_some]
    cases wide <;> simp only [spelled, List.map_cons, List.map_nil, String.ofList_toList,
      Role.style, if_true, if_false, Bool.false_eq_true, List.cons_append, List.nil_append]
  rw [htext]
  refine read_statement hspells ?_
  cases wide <;> exact hphrase

/-- The indentation of a line. -/
lemma spells_indent : Spells "  ".toList [] := fun _ _ => by
  rw [List.append_nil]
  rfl

/-- **An edge is read from its line.** -/
lemma read_edge {source target : List Char} (hsource : Sealed source) (htarget : Sealed target) :
    Dot.read ((Statement.edge source target).line theme) = some [.edge source target] := by
  have hdash : Spells " -".toList [.sign '-'] := fun _ _ => rfl
  have hhead : Spells "> ".toList [.sign '>'] := fun _ _ => rfl
  have hspells := spells_indent.append <| (Spells.quoted hsource).append <| hdash.append <|
    hhead.append <| Spells.quoted htarget
  have htext : (Statement.edge source target).line theme =
      ("  ".toList ++ ('"' :: (source ++ ['"']) ++ (" -".toList ++ ("> ".toList ++
        ('"' :: (target ++ ['"'])))))) ++ ";\n".toList := by
    have hopen : "  \"".toList = "  ".toList ++ ['"'] := rfl
    have harrow : "\" -> \"".toList = '"' :: (" -".toList ++ ("> ".toList ++ ['"'])) := rfl
    have hend : "\";\n".toList = '"' :: ";\n".toList := rfl
    show "  \"".toList ++ source ++ "\" -> \"".toList ++ target ++ "\";\n".toList = _
    rw [hopen, harrow, hend]
    simp only [List.append_assoc, List.cons_append, List.nil_append]
  rw [htext]
  exact read_statement hspells rfl

/-! ### Groups -/

/-- A group is read as its statements, if its title is the text of a comment. -/
lemma read_group (title : String) {statements : List Statement} {phrases : List Phrase}
    (htitle : Dot.read ("\n  // ".toList ++ title.toList ++ ['\n']) = some [])
    (hlines : Dot.read (statements.flatMap (Statement.line theme)) = some phrases) :
    Dot.read (group theme title statements) = some phrases := by
  have htext : group theme title statements = ("\n  // ".toList ++ title.toList ++ ['\n']) ++
      statements.flatMap (Statement.line theme) := List.append_cons _ _ _
  rw [htext]
  exact read_append htitle hlines

/-- The statements before those of the modules. -/
def preamble (options : Options) : List Phrase :=
  [.opening "digraph" "ModuleDependencies",
   .setting "rankdir" options.direction.name,
   .defaults "graph" [("fontname", "Helvetica"), ("splines", options.edgeShape.name),
     ("bgcolor", options.theme.background), ("nodesep", "0.4"), ("ranksep", "0.9")],
   .defaults "node" [("shape", "box"), ("fontname", "Helvetica"), ("fontsize", "10"),
     ("style", "filled,rounded"), ("fontcolor", options.theme.fontColor)],
   .defaults "edge" [("color", options.theme.edgeColor), ("arrowsize", "0.7")]]

/-- The header is read, line by line.

**Proof sketch.** Each line is read by evaluation for each of the settings it depends on, and the
lines are put together. -/
lemma read_header (options : Options) : Dot.read (header options) = some (preamble options) := by
  obtain ⟨theme, direction, shape, legend, system⟩ := options
  have hopen : Dot.read "digraph ModuleDependencies \x7b\n".toList =
      some [.opening "digraph" "ModuleDependencies"] := by decide +kernel
  have hdirection : Dot.read ("  rankdir=".toList ++ (direction.name.toList ++ ";\n".toList)) =
      some [.setting "rankdir" direction.name] := by
    cases direction <;> decide +kernel
  have hgraph : Dot.read ("  graph [fontname=Helvetica, splines=".toList ++ (shape.name.toList ++
      (", bgcolor=\"".toList ++ (theme.background.toList ++
        "\", nodesep=0.4, ranksep=0.9];\n".toList)))) =
      some [.defaults "graph" [("fontname", "Helvetica"), ("splines", shape.name),
        ("bgcolor", theme.background), ("nodesep", "0.4"), ("ranksep", "0.9")]] := by
    cases shape <;> cases theme <;> decide +kernel
  have hnode : Dot.read (String.toList
    "  node [shape=box, fontname=Helvetica, fontsize=10, style=\"filled,rounded\", fontcolor=\"" ++
        (theme.fontColor.toList ++ "\"];\n".toList)) =
      some [.defaults "node" [("shape", "box"), ("fontname", "Helvetica"), ("fontsize", "10"),
        ("style", "filled,rounded"), ("fontcolor", theme.fontColor)]] := by
    cases theme <;> decide +kernel
  have hedge : Dot.read ("  edge [color=\"".toList ++ (theme.edgeColor.toList ++
      "\", arrowsize=0.7];\n".toList)) =
      some [.defaults "edge" [("color", theme.edgeColor), ("arrowsize", "0.7")]] := by
    cases theme <;> decide +kernel
  have hread := read_append hopen <| read_append hdirection <| read_append hgraph <|
    read_append hnode hedge
  refine .trans (congrArg Dot.read ?_) hread
  simp only [header, String.toList_append, List.append_assoc]

/-- The nodes of the modules that import. -/
def sourcePhrases (g : ModuleGraph) (options : Options) : List Phrase :=
  g.sources.toList.map fun name =>
    .node (nodeId name.toList) (escapeLabel name.toList) ⟨name, none⟩
      (Role.source.style options.theme true)

/-- The nodes of the imported modules of a kind, with how often each is imported. -/
def targetPhrases (g : ModuleGraph) (options : Options) (kind : ModuleKind) : List Phrase :=
  (g.targets.entries.filter fun e => e.2.kind == kind).map fun e =>
    .node (nodeId e.1.toList) (countLabel e.1.toList e.2.count) ⟨e.1, some e.2.count⟩
      ((Role.ofKind kind).style options.theme false)

/-- The edges that are drawn. -/
def edgePhrases (g : ModuleGraph) (options : Options) : List Phrase :=
  (g.edges.toList.filter (showsEdge g options)).map fun e =>
    .edge (nodeId e.source.toList) (nodeId e.target.toList)

/-- The legend: a block with a node for each role. -/
def legendPhrases (options : Options) : List Phrase :=
  [.opening "subgraph" "cluster_legend", .setting "label" "Legend", .setting "color" "grey"] ++
    ((legendRoles options).map fun role =>
      .node (nodeId ("legend_" ++ role.legend).toList) role.legend.toList ⟨role.legend, none⟩
        (role.style options.theme false)) ++
    [.closing]

/-- The importing modules are read from their lines. -/
lemma read_sourceNodes (g : ModuleGraph) (options : Options) :
    Dot.read ((sourceNodes g).flatMap (Statement.line options.theme)) =
      some (sourcePhrases g options) := by
  rw [sourceNodes, List.flatMap_map]
  exact read_flatMap fun name _ => read_nodeText spells_indent (sealed_nodeId _)
    (sealed_escapeLabel _) (read_escapeLabel name) true

/-- The imported modules of a kind are read from their lines. -/
lemma read_targetNodes (g : ModuleGraph) (options : Options) (kind : ModuleKind) :
    Dot.read ((targetNodes g kind).flatMap (Statement.line options.theme)) =
      some (targetPhrases g options kind) := by
  rw [targetNodes, List.flatMap_map]
  refine read_flatMap fun e _ => ?_
  have hid : Sealed (nodeId e.1.toList) := sealed_nodeId _
  have hlabel : Sealed (countLabel e.1.toList e.2.count) := sealed_countLabel _ _
  have hread := read_countLabel e.1 e.2.count
  -- only the line of an importing module has a wide frame
  cases kind with
  | system => exact read_nodeText spells_indent hid hlabel hread false
  | custom => exact read_nodeText spells_indent hid hlabel hread false

/-- The edges are read from their lines. -/
lemma read_edges (g : ModuleGraph) (options : Options) :
    Dot.read ((edgeStatements g options).flatMap (Statement.line options.theme)) =
      some (edgePhrases g options) := by
  rw [edgeStatements, List.flatMap_map]
  exact read_flatMap fun e _ => read_edge (sealed_nodeId _) (sealed_nodeId _)

/-- The legend is read. -/
lemma read_legend (options : Options) :
    Dot.read (legend options) = some (legendPhrases options) := by
  have hopen : Dot.read
      "\n  subgraph cluster_legend \x7b\n    label=\"Legend\";\n    color=grey;\n".toList =
      some [.opening "subgraph" "cluster_legend", .setting "label" "Legend",
        .setting "color" "grey"] := by decide +kernel
  have hclose : Dot.read "  \x7d\n".toList = some [.closing] := by decide +kernel
  have hindent : Spells "    ".toList [] := spells_indent.append spells_indent
  have hline : ∀ role ∈ legendRoles options,
      Dot.read ("    ".toList ++ nodeText options.theme (nodeId ("legend_" ++ role.legend).toList)
        role.legend.toList role "") =
      some [.node (nodeId ("legend_" ++ role.legend).toList) role.legend.toList
        ⟨role.legend, none⟩ (role.style options.theme false)] := by
    intro role _
    have hsealed : Sealed role.legend.toList := .literal (by cases role <;> decide)
    have hread : Label.read role.legend.toList = some ⟨role.legend, none⟩ := by
      cases role <;> decide +kernel
    exact read_nodeText hindent (sealed_nodeId _) hsealed hread false
  exact read_append (read_append hopen (read_flatMap hline)) hclose

/-! ### The whole text -/

/-- The statements of a drawing. -/
def picture (g : ModuleGraph) (options : Options) : List Phrase :=
  preamble options ++
    (sourcePhrases g options ++
      (if options.includeSystem then targetPhrases g options .system else []) ++
      targetPhrases g options .custom ++ edgePhrases g options) ++
    (if options.legend then legendPhrases options else []) ++ [.closing]

/-- **A drawing is read as its statements.** -/
lemma read_draw (g : ModuleGraph) (options : Options) :
    Dot.read (g.draw options).toList = some (picture g options) := by
  have hsources := read_group "source modules" (by decide +kernel) (read_sourceNodes g options)
  have hsystem : Dot.read (if options.includeSystem then
        group options.theme "system modules" (targetNodes g .system) else []) =
      some (if options.includeSystem then targetPhrases g options .system else []) := by
    split
    · exact read_group _ (by decide +kernel) (read_targetNodes g options .system)
    · rfl
  have hcustom := read_group "custom modules" (by decide +kernel)
    (read_targetNodes g options .custom)
  have hedges := read_group "dependencies" (by decide +kernel) (read_edges g options)
  have hbody := read_append (read_append (read_append hsources hsystem) hcustom) hedges
  have hlegend : Dot.read (if options.legend then legend options else []) =
      some (if options.legend then legendPhrases options else []) := by
    split
    · exact read_legend options
    · rfl
  have hclose : Dot.read ['\x7d', '\n'] = some [.closing] := rfl
  rw [ModuleGraph.draw, String.toList_ofList, picture]
  exact read_append (read_append (read_append (read_header options) hbody) hlegend) hclose

/-- An edge is drawn if its ends differ and its target is no platform module that is left out. -/
lemma showsEdge_eq (g : ModuleGraph) (options : Options) (e : Edge) :
    showsEdge g options e = decide (e.source ≠ e.target ∧ (options.includeSystem = true ∨
      (g.targets.find? e.target).map (·.kind) ≠ some .system)) := by
  rw [showsEdge, Bool.decide_and, Bool.decide_or]
  cases g.targets.find? e.target with
  | none => simp [bne, beq_eq_decide]
  | some info => simp [bne, beq_eq_decide]

/-- **A drawing says what the graph says, and nothing else.** Read as DOT, the drawing of any graph
is the header, one node for each importing module, one for each imported platform module if these
are shown, one for each other imported module, one edge for each import of another module that does
not lead to a known platform module that is left out, the legend if it is asked for, and the end of
the graph. The listings ascend, every label is the escaped name, behind it for an imported module
the number of imports, and the name and the number are read from it.

**Proof sketch.** Every line is read by itself: a name cannot close its quotes, because quotes and
backslashes in it are protected, and an identifier holds neither. -/
theorem read_draw_statements (g : ModuleGraph) (options : Options) :
    Dot.read (g.draw options).toList = some (
      preamble options ++
      (g.sources.toList.map fun name =>
        .node (nodeId name.toList) (escapeLabel name.toList) ⟨name, none⟩
          (Role.source.style options.theme true)) ++
      (if options.includeSystem then
        (g.targets.entries.filter fun e => e.2.kind = .system).map fun e =>
          .node (nodeId e.1.toList) (countLabel e.1.toList e.2.count) ⟨e.1, some e.2.count⟩
            (Role.system.style options.theme false)
      else []) ++
      ((g.targets.entries.filter fun e => e.2.kind = .custom).map fun e =>
        .node (nodeId e.1.toList) (countLabel e.1.toList e.2.count) ⟨e.1, some e.2.count⟩
          (Role.custom.style options.theme false)) ++
      ((g.edges.toList.filter fun e => e.source ≠ e.target ∧
          (options.includeSystem = true ∨
            (g.targets.find? e.target).map (·.kind) ≠ some .system)).map fun e =>
        .edge (nodeId e.source.toList) (nodeId e.target.toList)) ++
      (if options.legend then legendPhrases options else []) ++
      [.closing]) ∧
    SortedSet.Ascending g.sources.toList ∧ SortedMap.Ascending g.targets.entries ∧
      SortedSet.Ascending g.edges.toList := by
  refine ⟨?_, g.sources.ascending, g.targets.ascending, g.edges.ascending⟩
  have hedges : showsEdge g options = fun e => decide (e.source ≠ e.target ∧
      (options.includeSystem = true ∨
        (g.targets.find? e.target).map (·.kind) ≠ some .system)) :=
    funext (showsEdge_eq g options)
  rw [read_draw, picture, sourcePhrases, targetPhrases, targetPhrases, edgePhrases, hedges]
  simp only [List.append_assoc, beq_eq_decide, Role.ofKind]

end ImportAtlas.Drawing
