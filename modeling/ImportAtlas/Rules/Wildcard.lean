import ImportAtlas.Regex.Pattern.Escape

/-!
# Wildcards

The wildcards of exclude patterns: a star for any run of characters, a question mark for one
character, and every other character for itself.

## Main definitions

* `ImportAtlas.Wildcard.patternText`: a wildcard as the text of a regular expression.
-/

namespace ImportAtlas.Wildcard

/-- What a character of a wildcard is in a regular expression. -/
def itemText (c : Char) : List Char :=
  if c = '*' then ['.', '*'] else if c = '?' then ['.'] else Regex.escape [c]

/-- A wildcard as the text of a regular expression: anchored at both ends, with a dot that takes
line feeds too. -/
def patternText (wildcard : List Char) : List Char :=
  ['^', '(', '?', 's', ':'] ++ wildcard.flatMap itemText ++ [')', '$']

end ImportAtlas.Wildcard
