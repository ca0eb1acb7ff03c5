/-!
# Drawing options

How a module graph is drawn: colours, direction, shape of the edges, the legend, and whether
platform modules are shown.

## Main definitions

* `ImportAtlas.Drawing.Options`: the options, with their defaults.
* `ImportAtlas.Drawing.Theme.ofName?`, `ImportAtlas.Drawing.Direction.ofName?`,
  `ImportAtlas.Drawing.EdgeShape.ofName?`: the spellings that settings and commands use.
-/

namespace ImportAtlas.Drawing

/-- The colours of a drawing. -/
inductive Theme where
  /-- Dark on white. -/
  | light
  /-- White on dark. -/
  | dark
  deriving Repr, DecidableEq

/-- The direction in which a drawing grows. -/
inductive Direction where
  /-- From left to right. -/
  | leftToRight
  /-- From top to bottom. -/
  | topToBottom
  deriving Repr, DecidableEq

/-- The shape of the edges. -/
inductive EdgeShape where
  /-- Curves. -/
  | curved
  /-- Horizontal and vertical pieces. -/
  | ortho
  /-- Straight pieces. -/
  | polyline
  deriving Repr, DecidableEq

/-- The theme of a name. -/
def Theme.ofName? : String → Option Theme
  | "light" => some .light
  | "dark" => some .dark
  | _ => none

/-- The name of a direction in a drawing. -/
def Direction.name : Direction → String
  | .leftToRight => "LR"
  | .topToBottom => "TB"

/-- The direction of a name. -/
def Direction.ofName? : String → Option Direction
  | "LR" => some .leftToRight
  | "TB" => some .topToBottom
  | _ => none

/-- The name of an edge shape in a drawing. -/
def EdgeShape.name : EdgeShape → String
  | .curved => "curved"
  | .ortho => "ortho"
  | .polyline => "polyline"

/-- The edge shape of a name. -/
def EdgeShape.ofName? : String → Option EdgeShape
  | "curved" => some .curved
  | "ortho" => some .ortho
  | "polyline" => some .polyline
  | _ => none

/-- How a graph is drawn. -/
structure Options where
  /-- The colours. -/
  theme : Theme := .light
  /-- The direction. -/
  direction : Direction := .leftToRight
  /-- The shape of the edges. -/
  edgeShape : EdgeShape := .curved
  /-- Whether a legend explains the nodes. -/
  legend : Bool := true
  /-- Whether platform modules are drawn. -/
  includeSystem : Bool := false
  deriving Repr, DecidableEq

end ImportAtlas.Drawing
