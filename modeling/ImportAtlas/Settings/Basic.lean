/-!
# Settings

What a settings file may say about scans and drawings. Every entry is optional.

## Main definitions

* `ImportAtlas.Settings`: the two sections of a settings file.
* `ImportAtlas.Settings.scanOrDefault`, `ImportAtlas.Settings.drawOrDefault`: a section, or the
  empty one if the file has none.
-/

namespace ImportAtlas

/-- The section on scans. -/
structure ScanSettings where
  /-- Module patterns. -/
  modulePatterns : List String := []
  /-- Exclude patterns. -/
  excludes : List String := []
  /-- Whether platform modules are wanted. -/
  includeSystem : Option Bool := none
  /-- Whether ignore files and hidden names do not count. -/
  noIgnore : Option Bool := none
  /-- Where the drawing is written. -/
  output : Option String := none
  /-- How many modules the ranking shows. -/
  top : Option Nat := none
  /-- How many workers share the files. -/
  jobs : Option Nat := none
  deriving Repr, DecidableEq

/-- The section on drawings. -/
structure DrawSettings where
  /-- The name of a theme. -/
  theme : Option String := none
  /-- The name of a direction. -/
  direction : Option String := none
  /-- The name of an edge shape. -/
  edgeShape : Option String := none
  /-- Whether a legend explains the nodes. -/
  legend : Option Bool := none
  deriving Repr, DecidableEq

/-- The content of a settings file. -/
structure Settings where
  /-- The section on scans, if there is one. -/
  scan : Option ScanSettings := none
  /-- The section on drawings, if there is one. -/
  draw : Option DrawSettings := none
  deriving Repr, DecidableEq

namespace Settings

/-- The section on scans, or the empty one. -/
def scanOrDefault (s : Settings) : ScanSettings := s.scan.getD {}

/-- The section on drawings, or the empty one. -/
def drawOrDefault (s : Settings) : DrawSettings := s.draw.getD {}

end Settings

end ImportAtlas
