import ImportAtlas.Regex.Footprint
import ImportAtlas.Regex.Meaning
import ImportAtlas.Regex.Pattern.Parser
import ImportAtlas.Regex.Search

/-!
# Regular expressions

A regular expression that can be searched for.

## Main definitions

* `ImportAtlas.Regex`: the expression and its program.
* `ImportAtlas.Regex.compile`: the regular expression of a text.
* `ImportAtlas.Regex.isMatch`: whether it matches somewhere in a text.
* `ImportAtlas.Regex.group?`: the text of a group in the match that counts.
-/

namespace ImportAtlas

open Regex

/-- A regular expression that can be searched for. -/
structure Regex where
  /-- Its meaning. -/
  expr : Expr
  /-- Its program. -/
  program : Array Instr

namespace Regex

/-- The expression of a text. -/
def exprOf (text : List Char) : Except PatternError Expr := do
  let (e, _) ← (← Pattern.parse text).meaning {}
  return e

/-- The regular expression of a text. -/
def compile (text : List Char) : Except PatternError Regex :=
  match exprOf text with
  | .ok e => if e.fits then .ok ⟨e, e.program.toArray⟩ else .error .tooLarge
  | .error e => .error e

/-- How many groups there are, not counting the whole match: the highest number of one that is
left in the expression. -/
def groups (r : Regex) : Nat := r.expr.captures

/-- Whether the expression matches somewhere in a text. -/
def isMatch (r : Regex) (text : List Char) : Bool := (search r.program text.toArray).isSome

/-- The text between two positions. -/
def slice (text : List Char) (first last : Nat) : List Char := (text.drop first).take (last - first)

/-- The text of a group in the match that counts, if the group took part in it. -/
def group? (r : Regex) (index : Nat) (text : List Char) : Option (List Char) := do
  let notes ← search r.program text.toArray
  let first ← notes.lookup (2 * index)
  let last ← notes.lookup (2 * index + 1)
  return slice text first last

end Regex

end ImportAtlas
