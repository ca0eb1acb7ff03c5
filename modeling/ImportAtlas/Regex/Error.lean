/-!
# Errors of regular expressions

Why a text is no regular expression, or one that cannot be used.

## Main definitions

* `ImportAtlas.Regex.PatternError`: the causes, with their wording.
-/

namespace ImportAtlas.Regex

/-- Why a text is refused as a regular expression. -/
inductive PatternError where
  /-- A group is not closed. -/
  | unclosedGroup
  /-- A closing parenthesis has no group to close. -/
  | unopenedGroup
  /-- A character class is not closed. -/
  | unclosedClass
  /-- A repetition has nothing to repeat. -/
  | nothingToRepeat
  /-- The bounds of a repetition are malformed or out of order. -/
  | badBounds
  /-- The text ends inside an escape. -/
  | unfinishedEscape
  /-- There is no such escape. -/
  | unknownEscape
  /-- An escape gives the number of no character. -/
  | badCodePoint
  /-- A group is referred to. -/
  | backreference
  /-- A group looks ahead or behind. -/
  | lookaround
  /-- The flags of a group are malformed. -/
  | badFlags
  /-- The name of a group is malformed. -/
  | badGroupName
  /-- Two groups have one name. -/
  | repeatedGroupName
  /-- An item of a class is no set of characters. -/
  | badClassItem
  /-- The ends of a range in a class are no characters or out of order. -/
  | badRange
  /-- A word boundary is qualified by an unknown word. -/
  | badBoundary
  /-- There is no such property. -/
  | unknownProperty
  /-- A class of characters stands where only ASCII is read. -/
  | asciiOnly
  /-- The expression could match inside a character. -/
  | splitsCharacters
  /-- The expression is nested too deep. -/
  | tooDeep
  /-- The compiled expression is too large. -/
  | tooLarge
  deriving Repr, DecidableEq

/-- The wording of an error. -/
def PatternError.message : PatternError → String
  | .unclosedGroup => "unclosed group"
  | .unopenedGroup => "unopened group"
  | .unclosedClass => "unclosed character class"
  | .nothingToRepeat => "repetition operator missing expression"
  | .badBounds => "invalid repetition bounds"
  | .unfinishedEscape => "incomplete escape sequence"
  | .unknownEscape => "unrecognized escape sequence"
  | .badCodePoint => "escape is not a valid character"
  | .backreference => "backreferences are not supported"
  | .lookaround => "look-around is not supported"
  | .badFlags => "invalid flags"
  | .badGroupName => "invalid capture group name"
  | .repeatedGroupName => "duplicate capture group name"
  | .badClassItem => "invalid item in a character class"
  | .badRange => "invalid character class range"
  | .badBoundary => "unrecognized word boundary assertion"
  | .unknownProperty => "property not found"
  | .asciiOnly => "only ASCII is allowed here"
  | .splitsCharacters => "pattern can match inside a character"
  | .tooDeep => "expression is nested too deeply"
  | .tooLarge => "compiled expression exceeds the size limit"

end ImportAtlas.Regex
