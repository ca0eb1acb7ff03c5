/-!
# Paths

A path is a text; what it means is its list of components. Repeated slashes, a slash at the end
and inner dots leave no component, while a dot at the very start of a relative path does.

## Main definitions

* `ImportAtlas.Path.segments`: a text cut at its slashes.
* `ImportAtlas.Path.components`: the components of a path.
* `ImportAtlas.Path.relativeTo`: a path below a root, as its names between single slashes.
* `ImportAtlas.Path.join`: a path appended to another.
* `ImportAtlas.Path.fileName?`, `ImportAtlas.Path.stem?`, `ImportAtlas.Path.extension?`: the last
  name and its two parts.
* `ImportAtlas.Path.withExtension`: the path with another extension.
-/

namespace ImportAtlas

/-- A path is its text. -/
abbrev Path := String

namespace Path

/-- A step of a path. -/
inductive Component where
  /-- The root directory. -/
  | root
  /-- The directory where the path starts, written as a dot. -/
  | here
  /-- The parent directory. -/
  | up
  /-- An entry of the directory. -/
  | name (text : String)
  deriving Repr, DecidableEq

/-- The name of a component that is one. -/
def Component.name? : Component → Option String
  | .name text => some text
  | _ => none

/-- A text cut at its slashes: one segment more than there are slashes. -/
def segments : List Char → List (List Char)
  | [] => [[]]
  | c :: rest =>
    if c = '/' then [] :: segments rest
    else
      match segments rest with
      | [] => [[c]]
      | s :: more => (c :: s) :: more

/-- The component that a segment stands for, wherever in the path it is. -/
def segmentComponent? (segment : List Char) : Option Component :=
  if segment = [] ∨ segment = ['.'] then none
  else if segment = ['.', '.'] then some .up
  else some (.name (String.ofList segment))

/-- The component that only the start of a path can have: the root or a leading dot. -/
def leadingComponents (text : List Char) : List Component :=
  if text.head? = some '/' then [.root]
  else if (segments text).head? = some ['.'] then [.here]
  else []

/-- The components of a path. -/
def components (path : Path) : List Component :=
  leadingComponents path.toList ++ (segments path.toList).filterMap segmentComponent?

/-- What a list leaves after another that it starts with. -/
def dropPrefix? {α : Type} [DecidableEq α] : List α → List α → Option (List α)
  | rest, [] => some rest
  | a :: path, b :: root => if a = b then dropPrefix? path root else none
  | [], _ :: _ => none

/-- The names of `path` below `root`, with a slash between two of them. A path that is not below
the root keeps all its names. -/
def relativeTo (root path : Path) : String :=
  let below := (dropPrefix? path.components root.components).getD path.components
  "/".intercalate (below.filterMap Component.name?)

/-- The path that `rest` is from the directory `base`: `rest` itself if it starts at the root. -/
def join (base rest : Path) : Path :=
  if rest.toList.head? = some '/' then rest
  else if base = "" ∨ base.toList.getLast? = some '/' then base ++ rest
  else base ++ "/" ++ rest

/-- The name that a path ends in, if its last component is one. -/
def fileName? (path : Path) : Option String := path.components.getLast?.bind Component.name?

/-- A name cut at its last dot. A dot at the very start does not count. -/
def splitName (name : List Char) : List Char × Option (List Char) :=
  let after := name.reverse.takeWhile (· ≠ '.')
  match name.reverse.dropWhile (· ≠ '.') with
  | _ :: c :: before => ((c :: before).reverse, some after.reverse)
  | _ => (name, none)

/-- The name that a path ends in, without its extension. -/
def stem? (path : Path) : Option String :=
  path.fileName?.map fun name => String.ofList (splitName name.toList).1

/-- The text after the last dot of the name that a path ends in. -/
def extension? (path : Path) : Option String :=
  path.fileName?.bind fun name => (splitName name.toList).2.map String.ofList

/-- A reversed path from its last name on: without the slashes and lone dots that follow it. -/
def dropTrailing : List Char → List Char
  | '/' :: rest => dropTrailing rest
  | '.' :: '/' :: rest => dropTrailing rest
  | reversed => reversed

/-- The text of a path up to the end of the name that it ends in. -/
def upToName (text : List Char) : List Char := (dropTrailing text.reverse).reverse

/-- The path with the extension of its last name replaced, or added if there is none. A path that
does not end in a name stays as it is. -/
def withExtension (path : Path) (extension : String) : Path :=
  match path.fileName? with
  | none => path
  | some name =>
    let text := upToName path.toList
    let stem := (splitName name.toList).1
    let kept := text.take (text.length - name.length + stem.length)
    String.ofList kept ++ "." ++ extension

/-- Whether two paths have the same components. -/
def same (a b : Path) : Bool := a.components == b.components

end Path

end ImportAtlas
