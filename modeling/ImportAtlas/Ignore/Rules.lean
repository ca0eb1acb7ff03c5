import ImportAtlas.FileTree.Access
import ImportAtlas.Ignore.Glob
import ImportAtlas.Text.Blank
import ImportAtlas.Text.Lines

/-!
# Ignore files

The lines of an ignore file as rules, and what the rules of a file say about a path. The last rule
that matches decides.

## Main definitions

* `ImportAtlas.Ignore.Rule`: a rule.
* `ImportAtlas.Ignore.parseLine`: the rule of a line, if it has one.
* `ImportAtlas.Ignore.RuleFile`: the rules of a file, with the directory that they are relative to.
* `ImportAtlas.Ignore.RuleFile.verdict?`: what they say about a path.

## Design

Paths are compared with the directory as texts. A lone dot has no text to take away, and a path
without a slash is a name that no directory is taken away from.
-/

namespace ImportAtlas.Ignore

open Text

/-- What a rule says of the paths that it matches. -/
inductive Verdict where
  /-- The path is left out. -/
  | ignored
  /-- The path is kept, whatever an earlier rule says. -/
  | kept
  deriving Repr, DecidableEq

/-- A rule of an ignore file. -/
structure Rule where
  /-- What the rule says. -/
  verdict : Verdict
  /-- Whether it says so of directories alone. -/
  onlyDirectories : Bool
  /-- The paths that it matches. -/
  tokens : List Token

/-! ### Lines -/

/-- A text without the blanks at its end, unless it ends in an escaped space. -/
def trimLine (line : List Char) : List Char :=
  match line.reverse with
  | ' ' :: '\\' :: _ => line
  | _ => trimEnd line

/-- A line's text without what it starts with, its verdict, and whether it starts at the directory
of the file. -/
def readStart (line : List Char) : List Char × Verdict × Bool :=
  match line with
  | '\\' :: '!' :: rest => ('!' :: rest, .ignored, false)
  | '\\' :: '#' :: rest => ('#' :: rest, .ignored, false)
  | '!' :: '/' :: rest => (rest, .kept, true)
  | '!' :: rest => (rest, .kept, false)
  | '/' :: rest => (rest, .ignored, true)
  | _ => (line, .ignored, false)

/-- A text without the slash that it ends in, which may be escaped, and whether there is one. -/
def readEnd (text : List Char) : List Char × Bool :=
  match text.reverse with
  | '/' :: '\\' :: rest => (rest.reverse, true)
  | '/' :: rest => (rest.reverse, true)
  | _ => (text, false)

/-- Two stars and a slash, which let a wildcard match at any depth. -/
def anyDepth : List Char := ['*', '*', '/']

/-- The wildcard of a line's text. Without a slash in it, it matches at any depth; with directories
at its end, it matches what is in them. -/
def wildcardText (text : List Char) (anchored : Bool) : List Char :=
  let placed :=
    if anchored ∨ text.contains '/' ∨ text = ['*', '*'] then text else anyDepth ++ text
  if ['/', '*', '*'].isSuffixOf placed then placed ++ ['/', '*'] else placed

/-- The rule of a line, if it has one. Comments and empty lines have none. -/
def parseLine (line : List Char) : Except GlobError (Option Rule) :=
  let line := trimLine line
  if line.head? = some '#' ∨ line = [] then .ok none
  else
    let (started, verdict, anchored) := readStart line
    let (text, onlyDirectories) := readEnd started
    match parseGlob (wildcardText text anchored) with
    | .ok tokens => .ok (some ⟨verdict, onlyDirectories, tokens⟩)
    | .error e => .error e

/-! ### Files -/

/-- The rules of an ignore file. -/
structure RuleFile where
  /-- The directory that they are relative to. -/
  base : List Char
  /-- The rules in their order. -/
  rules : List Rule

/-- The lines of a file as text, up to the first line that is none. -/
def textLines (content : List UInt8) : List (List Char) :=
  let isFeed (b : UInt8) : Bool := b == 0x0A
  let cut := content.splitBy fun a _ => !isFeed a
  (cut.map fun line => (Utf8.decode? line).bind fun text => (lines text).head?).takeWhile
    Option.isSome |>.filterMap id

/-- A text without a dot and slash at its start. -/
def dropDotSlash : List Char → List Char
  | '.' :: '/' :: rest => rest
  | text => text

/-- The rules of the file with that content in a directory, and whether a line is malformed. -/
def RuleFile.parse (directory : List Char) (content : List UInt8) : RuleFile × Bool :=
  let results := match textLines content with
    | [] => []
    | first :: more => (first.dropWhile (· = byteOrderMark) :: more).map parseLine
  let rules := results.filterMap fun
    | .ok rule => rule
    | .error _ => none
  (⟨dropDotSlash directory, rules⟩, results.any fun r => !r.isOk)

/-- A directory without rules. -/
def RuleFile.empty (directory : List Char) : RuleFile := ⟨dropDotSlash directory, []⟩

/-- What is left of a text after another, or all of it. -/
def dropStart (start text : List Char) : List Char := (Path.dropPrefix? text start).getD text

/-- A path relative to the directory of a rule file. -/
def RuleFile.relative (f : RuleFile) (path : List Char) : List Char :=
  let path := dropDotSlash path
  if Path.same (String.ofList f.base) "." ∨ !path.contains '/' then path
  else
    match Path.dropPrefix? path f.base with
    | some below => dropStart ['/'] below
    | none => path

/-- What the rules say about a path. -/
def RuleFile.verdict? (f : RuleFile) (path : List Char) (isDirectory : Bool) : Option Verdict :=
  if f.rules.isEmpty then none
  else
    let bytes := Utf8.encode (f.relative path)
    (f.rules.reverse.find? fun rule =>
      (isDirectory || !rule.onlyDirectories) && matchesPath rule.tokens bytes).map (·.verdict)

end ImportAtlas.Ignore
