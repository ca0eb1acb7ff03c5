import ImportAtlas.Drawing.Options
import ImportAtlas.Graph.Basic

/-!
# Drawings of a graph

A module graph as a text in the DOT language: a header, the nodes in three groups, the edges, and
perhaps a legend. The order of the statements is that of the graph's listings.

## Main definitions

* `ImportAtlas.Drawing.nodeId`: the identifier of a module's node.
* `ImportAtlas.Drawing.escapeLabel`: a name inside a quoted label.
* `ImportAtlas.Drawing.Statement`: the statements of the body.
* `ImportAtlas.Drawing.statements`: those of a graph.
* `ImportAtlas.ModuleGraph.draw`: the whole text.
-/

namespace ImportAtlas.Drawing

/-! ### Names -/

/-- Whether a character may stand in a node's identifier. -/
def isIdChar (c : Char) : Bool := c.isAlphanum || c == '_'

/-- The identifier of a module's node: its name with an underscore for every character that is no
ASCII letter, digit or underscore. -/
def nodeId (name : List Char) : List Char := name.map fun c => if isIdChar c then c else '_'

/-- A character of a name inside a quoted label: a backslash and a quote get a backslash before
them. -/
def escapeLabelChar (c : Char) : List Char :=
  if c = '\\' then ['\\', '\\'] else if c = '"' then ['\\', '"'] else [c]

/-- A name inside a quoted label. -/
def escapeLabel (name : List Char) : List Char := name.flatMap escapeLabelChar

/-- The label of an imported module: its name, and below it how often it is imported. -/
def countLabel (name : List Char) (count : Nat) : List Char :=
  escapeLabel name ++ ['\\', 'n', '('] ++ Nat.toDigits 10 count ++
    (if count = 1 then [' ', 'r', 'e', 'f', ')'] else [' ', 'r', 'e', 'f', 's', ')'])

/-! ### Styles -/

/-- What a node stands for. -/
inductive Role where
  /-- A module that imports. -/
  | source
  /-- An imported platform module. -/
  | system
  /-- An imported module of the project. -/
  | custom
  deriving Repr, DecidableEq

/-- The role of an imported module of a kind. -/
def Role.ofKind : ModuleKind → Role
  | .system => .system
  | .custom => .custom

/-- The fill colour of a node. -/
def Role.fill : Theme → Role → String
  | .light, .source => "#e0f3ff"
  | .light, .system => "#eeeeee"
  | .light, .custom => "#fff4e0"
  | .dark, .source => "#124559"
  | .dark, .system => "#3a3a3a"
  | .dark, .custom => "#7a4c00"

/-- The shape of a node. -/
def Role.shape : Role → String
  | .source => "component"
  | .system => "ellipse"
  | .custom => "box"

/-- The line of a role in the legend. -/
def Role.legend : Role → String
  | .source => "Source module"
  | .system => "System framework"
  | .custom => "Project module"

/-- The background colour of a theme. -/
def Theme.background : Theme → String
  | .light => "white"
  | .dark => "#1e1e1e"

/-- The colour of the edges in a theme. -/
def Theme.edgeColor : Theme → String
  | .light => "#7f7f7f"
  | .dark => "#a0a0a0"

/-- The colour of the text in a theme. -/
def Theme.fontColor : Theme → String
  | .light => "black"
  | .dark => "white"

/-! ### Statements -/

/-- A statement in the body of a drawing. Identifiers and labels are as they are written. -/
inductive Statement where
  /-- A node. -/
  | node (id label : List Char) (role : Role)
  /-- An edge. -/
  | edge (source target : List Char)
  deriving Repr, DecidableEq

/-- The nodes of the modules that import. -/
def sourceNodes (g : ModuleGraph) : List Statement :=
  g.sources.toList.map fun name => .node (nodeId name.toList) (escapeLabel name.toList) .source

/-- The nodes of the imported modules of a kind. -/
def targetNodes (g : ModuleGraph) (kind : ModuleKind) : List Statement :=
  (g.targets.entries.filter fun e => e.2.kind == kind).map fun e =>
    .node (nodeId e.1.toList) (countLabel e.1.toList e.2.count) (.ofKind kind)

/-- Whether an edge is drawn: its ends differ, and its target is not a platform module that the
drawing leaves out. -/
def showsEdge (g : ModuleGraph) (options : Options) (e : Edge) : Bool :=
  e.source != e.target &&
    (options.includeSystem ||
      match g.targets.find? e.target with
      | some info => info.kind != .system
      | none => true)

/-- The edges that are drawn. -/
def edgeStatements (g : ModuleGraph) (options : Options) : List Statement :=
  (g.edges.toList.filter (showsEdge g options)).map fun e =>
    .edge (nodeId e.source.toList) (nodeId e.target.toList)

/-- A field of a statement with its quoted value. -/
def quotedField (name : String) (value : List Char) : List Char :=
  name.toList ++ ['=', '"'] ++ value ++ ['"']

/-- The text of a node without its indentation. -/
def nodeText (theme : Theme) (id label : List Char) (role : Role) (extra : String) : List Char :=
  '"' :: id ++ "\" [".toList ++ quotedField "label" label ++ ", ".toList ++
    quotedField "fillcolor" (role.fill theme).toList ++ ", ".toList ++
    quotedField "shape" role.shape.toList ++ extra.toList ++ "];\n".toList

/-- The line of a statement. The frame of an importing module is drawn twice as wide. -/
def Statement.line (theme : Theme) : Statement → List Char
  | .node id label role =>
    "  ".toList ++ nodeText theme id label role (if role = .source then ", penwidth=2" else "")
  | .edge source target => "  \"".toList ++ source ++ "\" -> \"".toList ++ target ++ "\";\n".toList

/-- A group of statements under a comment line. -/
def group (theme : Theme) (title : String) (statements : List Statement) : List Char :=
  "\n  // ".toList ++ title.toList ++ '\n' :: statements.flatMap (Statement.line theme)

/-! ### The text -/

/-- The opening lines: direction, and the defaults of graph, nodes and edges. -/
def header (options : Options) : List Char :=
  ("digraph ModuleDependencies \x7b\n" ++
    "  rankdir=" ++ options.direction.name ++ ";\n" ++
    "  graph [fontname=Helvetica, splines=" ++ options.edgeShape.name ++ ", bgcolor=\"" ++
      options.theme.background ++ "\", nodesep=0.4, ranksep=0.9];\n" ++
    "  node [shape=box, fontname=Helvetica, fontsize=10, style=\"filled,rounded\", fontcolor=\"" ++
      options.theme.fontColor ++ "\"];\n" ++
    "  edge [color=\"" ++ options.theme.edgeColor ++ "\", arrowsize=0.7];\n").toList

/-- The roles that the legend explains. -/
def legendRoles (options : Options) : List Role :=
  if options.includeSystem then [.source, .system, .custom] else [.source, .custom]

/-- The legend: one node for each role. -/
def legend (options : Options) : List Char :=
  "\n  subgraph cluster_legend \x7b\n    label=\"Legend\";\n    color=grey;\n".toList ++
    (legendRoles options).flatMap (fun role =>
      "    ".toList ++ nodeText options.theme (nodeId ("legend_" ++ role.legend).toList)
        role.legend.toList role "") ++
    "  \x7d\n".toList

/-- The nodes and edges of a graph in their groups. -/
def body (g : ModuleGraph) (options : Options) : List Char :=
  group options.theme "source modules" (sourceNodes g) ++
    (if options.includeSystem then
      group options.theme "system modules" (targetNodes g .system) else []) ++
    group options.theme "custom modules" (targetNodes g .custom) ++
    group options.theme "dependencies" (edgeStatements g options)

/-- The statements of the body in their order. -/
def statements (g : ModuleGraph) (options : Options) : List Statement :=
  sourceNodes g ++ (if options.includeSystem then targetNodes g .system else []) ++
    targetNodes g .custom ++ edgeStatements g options

end ImportAtlas.Drawing

namespace ImportAtlas

open Drawing in
/-- The drawing of a graph. -/
def ModuleGraph.draw (g : ModuleGraph) (options : Drawing.Options) : String :=
  String.ofList (header options ++ body g options ++
    (if options.legend then legend options else []) ++ ['\x7d', '\n'])

end ImportAtlas
