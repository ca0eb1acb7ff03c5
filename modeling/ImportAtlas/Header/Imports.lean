import ImportAtlas.Header.Line
import ImportAtlas.Text.Lines

/-!
# Imports of a file

A file's imports are those of its header: the lines before the first line of code. Imports
further down are not seen.

## Main definitions

* `ImportAtlas.Header.headerLines`: the lines before the first line of code.
* `ImportAtlas.Header.imports`: the modules that they import, in file order with repetitions.
-/

namespace ImportAtlas.Header

open Text

/-- The readings of the lines before the first line of code. -/
def headerLines (content : List Char) : List Line :=
  ((lines (dropByteOrderMark content)).map Line.classify).takeWhile (· ≠ .code)

/-- The modules that a file's header imports, in file order with repetitions. -/
def imports (content : List Char) : List String :=
  (headerLines content).filterMap Line.module?

end ImportAtlas.Header
