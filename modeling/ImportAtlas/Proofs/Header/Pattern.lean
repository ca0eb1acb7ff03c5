import ImportAtlas.Header.Line
import ImportAtlas.Proofs.Regex.Attempt
import ImportAtlas.Proofs.Regex.Size

/-!
# The pattern of an import line

An import line can be told by a regular expression, too. Here is its text, and what the engine makes
of it: an expression that has a part for each part of the line.

## Main definitions

* `ImportAtlas.Header.importPattern`: the regular expression of an import line.
* `ImportAtlas.Header.importExpr`: its meaning.

## Main results

* `ImportAtlas.Header.exprOf_importPattern`: the text means this expression.
* `ImportAtlas.Header.compile_importPattern`: the regular expression is valid and not too large.
-/

namespace ImportAtlas.Header

open Regex Unicode

/-- The regular expression of an import line. The second group is the name of the module. -/
def importPattern : String :=
  "^(?:@[A-Za-z_][A-Za-z0-9_]*(?:\\([^)]*\\))?\\s+)*" ++
    "(?:(?:public|internal|private|fileprivate|open|package)\\s+)?" ++
    "import\\s+" ++
    "(?:(?P<kind>struct|class|enum|protocol)\\s+)?" ++
    "(?P<module>[\\p{XID_Start}_]\\p{XID_Continue}*(?:\\.[\\p{XID_Start}_]\\p{XID_Continue}*)*)" ++
    "(?:\\s|;|//|$)"

/-! ### Its parts -/

/-- The characters that an attribute's word may begin with. -/
def attributeStartSet : CharSet := ⟨[(0x41, 0x5A), (0x5F, 0x5F), (0x61, 0x7A)]⟩

/-- The characters that an attribute's word may go on with. -/
def attributeSet : CharSet := ⟨[(0x30, 0x39), (0x41, 0x5A), (0x5F, 0x5F), (0x61, 0x7A)]⟩

/-- The characters of an attribute's argument: all but the closing parenthesis. -/
def argumentSet : CharSet := ⟨[(0, 0x28), (0x2A, 0xD7FF), (0xE000, 0x10FFFF)]⟩

/-- The characters that a name may begin with. -/
def nameStartSet : CharSet := ⟨(0x41, 0x5A) :: (0x5F, 0x5F) :: xidStartTable.tail⟩

/-- The characters that a name may go on with. -/
def nameSet : CharSet := ⟨xidContinueTable⟩

/-- One character. -/
def signExpr (c : Char) : Expr := .chars (.single c)

/-- The characters of a word. -/
def wordExpr (word : List Char) : Expr := .sequence (word.map signExpr)

/-- Any run of characters of a set. -/
def runExpr (set : CharSet) : Expr := .repetition 0 none true (.chars set)

/-- An expression or nothing. -/
def optionalExpr (e : Expr) : Expr := .repetition 0 (some 1) true e

/-- Blanks. -/
def blanksExpr : Expr := .repetition 1 none true (.chars blankSet)

/-- The argument of an attribute. -/
def argumentExpr : Expr := .seq (signExpr '(') (.seq (runExpr argumentSet) (signExpr ')'))

/-- An attribute and the blanks behind it. -/
def attributeExpr : Expr :=
  .seq (signExpr '@') (.seq (.chars attributeStartSet) (.seq (runExpr attributeSet)
    (.seq (optionalExpr argumentExpr) blanksExpr)))

/-- An access level and the blanks behind it. -/
def accessExpr : Expr := .seq (.choice (accessWords.map wordExpr)) blanksExpr

/-- A kind of declaration and the blanks behind it. -/
def kindExpr : Expr := .seq (.capture 1 (.choice (kindWords.map wordExpr))) blanksExpr

/-- A further part of a name. -/
def partExpr : Expr := .seq (signExpr '.') (.seq (.chars nameStartSet) (runExpr nameSet))

/-- A dotted name. -/
def nameExpr : Expr :=
  .seq (.chars nameStartSet) (.seq (runExpr nameSet) (.repetition 0 none true partExpr))

/-- The end of a name. -/
def endExpr : Expr :=
  .alt (.chars blankSet) (.alt (signExpr ';') (.alt (wordExpr ['/', '/']) (.look .textEnd)))

/-- The meaning of the regular expression of an import line. -/
def importExpr : Expr :=
  .sequence ([.look .textStart, .repetition 0 none true attributeExpr, optionalExpr accessExpr] ++
    importWord.map signExpr ++
      [blanksExpr, optionalExpr kindExpr, .capture 2 nameExpr, endExpr])

/-! ### Its meaning -/

/-- **The regular expression of an import line means what its parts say.** -/
lemma exprOf_importPattern : (exprOf importPattern.toList).toOption = some importExpr := by
  unfold importPattern
  simp only [String.toList_append]
  -- the kernel reads lists of characters faster than texts
  iterate 6 rw [String.toList_ofList]
  decide +kernel

/-! ### Its size -/

variable {reading : Reading}

/-- The room of a set with the ranges of a large table. -/
lemma size_chars_le_of_length_le {set : CharSet} (hranges : set.ranges.length ≤ 1000)
    (hsequences : (setByteRanges set).length ≤ 1200) :
    (Expr.chars set).size reading ≤ 250000 := by
  have hle : (Expr.chars set).size reading ≤ _ := Expr.size_chars_le set
  omega

/-- A dotted name takes most of the room, for its two sets occur in it twice. -/
lemma size_nameExpr_le : nameExpr.size reading ≤ 1000200 := by
  have hstart : (Expr.chars nameStartSet).size reading ≤ 250000 :=
    size_chars_le_of_length_le (by decide +kernel) (by decide +kernel)
  have hmore : (Expr.chars nameSet).size reading ≤ 250000 :=
    size_chars_le_of_length_le (by decide +kernel) (by decide +kernel)
  have hdot : (signExpr '.').size reading = 32 := by cases reading <;> rfl
  rw [nameExpr, Expr.size_seq, Expr.size_seq, Expr.size_star rfl, partExpr, Expr.size_seq,
    Expr.size_seq, runExpr, Expr.size_star rfl]
  omega

/-- The room of the whole expression. -/
lemma size_importExpr_le : importExpr.size reading ≤ 2000000 := by
  have hname : nameExpr.size reading ≤ 1000200 := size_nameExpr_le
  have hcapture : (Expr.capture 2 nameExpr).size reading ≤ nameExpr.size reading + 64 :=
    Expr.size_capture_le
  have hend : endExpr.size reading ≤ 100000 := by cases reading <;> decide +kernel
  have hfront : (([.look .textStart, .repetition 0 none true attributeExpr,
      optionalExpr accessExpr] : List Expr).map (Expr.size reading)).sum ≤ 50000 := by
    cases reading <;> decide +kernel
  have hword : ((importWord.map signExpr).map (Expr.size reading)).sum ≤ 1000 := by
    cases reading <;> decide +kernel
  have hkind : (([blanksExpr, optionalExpr kindExpr] : List Expr).map
      (Expr.size reading)).sum ≤ 50000 := by
    cases reading <;> decide +kernel
  rw [importExpr, Expr.size_sequence (by simp) (by decide +kernel)]
  simp only [List.map_append, List.sum_append, List.map_cons, List.map_nil, List.sum_cons,
    List.sum_nil] at hfront hkind ⊢
  omega

/-- The regular expression of an import line is not too large. -/
lemma fits_importExpr : importExpr.fits = true := by
  have hforward : importExpr.size .forward ≤ 2000000 := size_importExpr_le
  have hbackward : importExpr.size .backward ≤ 2000000 := size_importExpr_le
  have hframe : importExpr.frameSize .forward ≤ 208 ∧ importExpr.frameSize .backward ≤ 144 := by
    constructor <;> (unfold Expr.frameSize; dsimp only; split <;> simp)
  have hlimit : Expr.sizeLimit = 10485760 := rfl
  simp only [Expr.fits, Bool.and_eq_true, decide_eq_true_eq]
  omega

/-- **The regular expression of an import line is valid.** -/
lemma compile_importPattern :
    Regex.compile importPattern.toList = .ok ⟨importExpr, importExpr.program.toArray⟩ :=
  compile_eq exprOf_importPattern fits_importExpr

end ImportAtlas.Header
