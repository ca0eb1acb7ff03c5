import ImportAtlas.Launcher
import ImportAtlas.Text.Blank
import ImportAtlas.Text.Utf8

/-!
# Images

Turning the text of a drawing into an image by the layout program, and showing it in a viewer. The
image lies beside the drawing and differs from it in the extension alone, so a drawing that already
has the extension of the image is refused: it would be overwritten.

## Main definitions

* `ImportAtlas.ImageFormat`: the formats of an image.
* `ImportAtlas.ImageError`: why there is no image, or none to be seen.
* `ImportAtlas.ImageFormat.imagePath?`: where the image of a drawing goes.
* `ImportAtlas.ImageFormat.render`: the image of a drawing.
* `ImportAtlas.viewImage`: an image in the viewer.
-/

namespace ImportAtlas

/-- The formats of an image. -/
inductive ImageFormat where
  /-- Scalable vector graphics. -/
  | svg
  /-- Portable network graphics. -/
  | png
  /-- Portable document format. -/
  | pdf
  deriving Repr, DecidableEq

/-- The name of a format, which is the extension of its files. -/
def ImageFormat.name : ImageFormat → String
  | .svg => "svg"
  | .png => "png"
  | .pdf => "pdf"

/-- The format of a name. -/
def ImageFormat.ofName? : String → Option ImageFormat
  | "svg" => some .svg
  | "png" => some .png
  | "pdf" => some .pdf
  | _ => none

/-- Why there is no image, or none to be seen. -/
inductive ImageError where
  /-- The image would overwrite the drawing. -/
  | ontoItself (drawing : Path)
  /-- The layout program does not start. -/
  | notStarted (program : String) (cause : LaunchError)
  /-- The layout program did not end well. -/
  | failed (program : String) (ending : Ending)
  /-- The viewer does not start. -/
  | notOpened (image : Path) (cause : LaunchError)
  deriving Repr, DecidableEq

/-- The wording of an exit code that may be missing. -/
def Ending.codeText (e : Ending) : String :=
  match e.code with
  | some code => "Some(" ++ toString code ++ ")"
  | none => "None"

/-- What a program wrote to its error output, without the blanks around it. -/
def Ending.errorText (e : Ending) : String :=
  String.ofList (Text.trim (Utf8.decodeLossy e.errors))

/-- The wording of an error. -/
def ImageError.message (e : ImageError) : String :=
  "Visualization error: " ++
    match e with
    | .ontoItself drawing =>
      "Refusing to render " ++ drawing ++
        " onto itself; write the DOT file with a .dot extension"
    | .notStarted program cause =>
      "Failed to run graphviz '" ++ program ++ "': " ++ cause.message
    | .failed program ending =>
      "Graphviz '" ++ program ++ "' failed with code " ++ ending.codeText ++ ": " ++
        ending.errorText
    | .notOpened image cause => "Failed to open " ++ image ++ ": " ++ cause.message

/-- Where the image of a drawing goes, unless it would take the place of the drawing. -/
def ImageFormat.imagePath? (format : ImageFormat) (drawing : Path) : Option Path :=
  let image := Path.withExtension drawing format.name
  if Path.same image drawing then none else some image

/-- The layout program with its arguments for a drawing and an image. -/
def ImageFormat.layout (format : ImageFormat) (program : String) (drawing image : Path) :
    Invocation :=
  ⟨program, ["-T" ++ format.name, drawing, "-o", image]⟩

/-- The name of the layout program. -/
def layoutProgram : String := "dot"

/-- The name of the viewer. -/
def viewerProgram : String := "xdg-open"

/-- The image of a drawing, as its path, and the tree after the layout program. -/
def ImageFormat.render (format : ImageFormat) (launch : Launcher) (program : String)
    (t : FileTree) (drawing : Path) : Except ImageError Path × FileTree :=
  match format.imagePath? drawing with
  | none => (.error (.ontoItself drawing), t)
  | some image =>
    match launch t (format.layout program drawing image) with
    | .error e => (.error (.notStarted program e), t)
    | .ok (ending, after) =>
      (if ending.isSuccess then .ok image else .error (.failed program ending), after)

/-- An image in the viewer, whose end is not awaited: how it ends does not matter. -/
def viewImage (launch : Launcher) (t : FileTree) (image : Path) :
    Except ImageError Unit × FileTree :=
  match launch t ⟨viewerProgram, [image]⟩ with
  | .error e => (.error (.notOpened image e), t)
  | .ok (_, after) => (.ok (), after)

end ImportAtlas
