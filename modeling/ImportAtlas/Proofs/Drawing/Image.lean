import ImportAtlas.Drawing.Image
import ImportAtlas.Proofs.Path.Extension

/-!
# The image of a drawing does not take its place

The image of a drawing lies beside the drawing. Where it would be the drawing itself, whatever the
text of the path looks like, no program is started; otherwise the layout program is started once.

## Main definitions

* `ImportAtlas.ImageFormat.Concludes`: what comes of an image once its program has been started.

## Main results

* `ImportAtlas.ImageFormat.imagePath?_eq_none_iff`: which drawings are refused.
* `ImportAtlas.ImageFormat.render_beside`: what comes of every drawing.
-/

namespace ImportAtlas.ImageFormat

variable {format : ImageFormat} {drawing : Path}

/-- The name of a format can be the extension of a name. -/
lemma name_plain (format : ImageFormat) :
    '.' ∉ format.name.toList ∧ '/' ∉ format.name.toList ∧ format.name ≠ "" := by
  cases format <;> decide

/-- **Which drawings are refused**: those that end in no name, and those whose extension is that of
the image. -/
lemma imagePath?_eq_none_iff : format.imagePath? drawing = none ↔
    drawing.LacksName ∨ drawing.extension? = some format.name := by
  obtain ⟨hdot, hslash, hempty⟩ := format.name_plain
  simp only [imagePath?, ite_eq_left_iff, Bool.not_eq_true, reduceCtorEq, imp_false,
    Bool.not_eq_false, ← Path.fileName?_eq_none_iff]
  cases h : drawing.fileName? with
  | none => simp [Path.withExtension, h, Path.same]
  | some name =>
    rw [Path.same_withExtension_iff h hdot hslash hempty]
    simp

/-- The image of a drawing that is not refused lies beside the drawing. -/
lemma beside_of_imagePath? {image : Path} (h : format.imagePath? drawing = some image) :
    image.Beside drawing format.name := by
  obtain ⟨hdot, hslash, hempty⟩ := format.name_plain
  have hkept : ¬(drawing.LacksName ∨ drawing.extension? = some format.name) := by
    rw [← imagePath?_eq_none_iff, h]
    simp
  rw [not_or, ← Path.fileName?_eq_none_iff, ← ne_eq, Option.ne_none_iff_exists'] at hkept
  obtain ⟨⟨name, hname⟩, hdiffers⟩ := hkept
  obtain ⟨-, rfl⟩ : _ ∧ Path.withExtension drawing format.name = image := by
    simpa [imagePath?] using h
  exact Path.beside_withExtension hname hdot hslash hempty hdiffers

/-- What comes of an image once its program has been started: there is an image just if the program
could be started and ended with exit code zero. If it could not be started the tree stays as it
is, and otherwise it is what the program leaves. -/
def Concludes (program : String) (t : FileTree) (image : Path)
    (started : Except LaunchError (Ending × FileTree))
    (result : Except ImageError Path × FileTree) : Prop :=
  match started with
  | .error cause => result = (.error (.notStarted program cause), t)
  | .ok (ending, after) => result.2 = after ∧
      (ending.code = some 0 → result.1 = .ok image) ∧
      (ending.code ≠ some 0 → result.1 = .error (.failed program ending))

/-- **The image of a drawing does not take its place.** A drawing is refused, and no program
started, just if its path does not end in a name or has the extension of the image already.
Otherwise the image lies beside the drawing and is not the same path, and the layout program is
started with the format, the drawing and the image as its arguments. There is an image, at that
path, just if the program could be started and ended well. -/
theorem render_beside (format : ImageFormat) (program : String) (drawing : Path) :
    (drawing.LacksName ∨ drawing.extension? = some format.name →
      ∀ launch t, format.render launch program t drawing = (.error (.ontoItself drawing), t)) ∧
    (¬(drawing.LacksName ∨ drawing.extension? = some format.name) →
      ∃ image, image.Beside drawing format.name ∧ ∀ launch t,
        Concludes program t image
          (launch t ⟨program, ["-T" ++ format.name, drawing, "-o", image]⟩)
          (format.render launch program t drawing)) := by
  have hrefused : format.imagePath? drawing = none ↔ _ := imagePath?_eq_none_iff
  refine ⟨fun h launch t => ?_, fun h => ?_⟩
  · unfold render
    rw [hrefused.2 h]
  · obtain ⟨image, himage⟩ := Option.ne_none_iff_exists'.1 (mt hrefused.1 h)
    refine ⟨image, beside_of_imagePath? himage, fun launch t => ?_⟩
    unfold render
    simp only [himage, layout, Concludes]
    cases launch t ⟨program, ["-T" ++ format.name, drawing, "-o", image]⟩ with
    | error cause => rfl
    | ok started =>
      obtain ⟨ending, after⟩ := started
      simp +contextual [Ending.isSuccess]

/-- A drawing with a hidden name that looks like an extension, behind repeated slashes and in front
of a lone dot, is not refused. -/
theorem render_beside_hidden :
    let drawing : Path := "out//.svg/./"
    ¬(drawing.LacksName ∨ drawing.extension? = some svg.name) ∧
      ∃ image, image.Beside drawing svg.name ∧ ∀ launch t,
        Concludes "dot" t image (launch t ⟨"dot", ["-T" ++ svg.name, drawing, "-o", image]⟩)
          (svg.render launch "dot" t drawing) := by
  intro drawing
  have hkept : ¬(drawing.LacksName ∨ drawing.extension? = some svg.name) := by decide +kernel
  exact ⟨hkept, (render_beside svg "dot" drawing).2 hkept⟩

end ImportAtlas.ImageFormat
