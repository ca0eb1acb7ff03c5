/-!
# Patterns

A regular expression as it is written: every construct of the text has its place, and nothing is
worked out yet. What a pattern means, flags and names of properties included, is for its
translation to say.

## Main definitions

* `ImportAtlas.Regex.Pattern`: the constructs of a pattern.
* `ImportAtlas.Regex.ClassItem`, `ImportAtlas.Regex.ClassSet`: the constructs inside brackets.
* `ImportAtlas.Regex.Pattern.depth`: how deep they are nested.
-/

namespace ImportAtlas.Regex

/-- A switch that holds from where it is set to the end of the group. -/
inductive Flag where
  /-- Letter case does not count. -/
  | ignoreCase
  /-- The line anchors hold at every line. -/
  | multiLine
  /-- The dot takes line feeds too. -/
  | dotAll
  /-- Repetitions swap greedy and lazy. -/
  | swapGreed
  /-- Characters are those of Unicode. -/
  | unicode
  /-- A carriage return ends a line too. -/
  | crlf
  /-- Blanks and comments in the pattern do not count. -/
  | spaced
  deriving Repr, DecidableEq

/-- Flags that are set and flags that are cleared. -/
structure FlagChange where
  /-- The flags that are set. -/
  on : List Flag
  /-- The flags that are cleared. -/
  off : List Flag
  deriving Repr, DecidableEq

/-- What a change does to a flag, if anything. -/
def FlagChange.state? (change : FlagChange) (flag : Flag) : Option Bool :=
  if flag ∈ change.on then some true else if flag ∈ change.off then some false else none

/-- A place in the text that a pattern can ask for, as it is written. -/
inductive Anchor where
  /-- The start of the text, or of a line. -/
  | startLine
  /-- The end of the text, or of a line. -/
  | endLine
  /-- The start of the text. -/
  | startText
  /-- The end of the text. -/
  | endText
  /-- The edge of a word. -/
  | boundary
  /-- No edge of a word. -/
  | noBoundary
  /-- The start of a word. -/
  | wordStart
  /-- The end of a word. -/
  | wordEnd
  /-- No word before. -/
  | wordStartHalf
  /-- No word after. -/
  | wordEndHalf
  deriving Repr, DecidableEq

/-- The classes with an escape of one letter. -/
inductive ShortClass where
  /-- Decimal digits. -/
  | digit
  /-- Blanks. -/
  | blank
  /-- Characters of words. -/
  | word
  deriving Repr, DecidableEq

/-- The classes with a name between colons. -/
inductive AsciiClass where
  /-- Letters and digits. -/
  | alnum
  /-- Letters. -/
  | alpha
  /-- All of ASCII. -/
  | ascii
  /-- Space and tab. -/
  | blank
  /-- Control characters. -/
  | cntrl
  /-- Digits. -/
  | digit
  /-- Visible characters. -/
  | graph
  /-- Lower case letters. -/
  | lower
  /-- Visible characters and the space. -/
  | print
  /-- Punctuation and symbols. -/
  | punct
  /-- Blanks. -/
  | space
  /-- Upper case letters. -/
  | upper
  /-- Characters of words. -/
  | word
  /-- Hexadecimal digits. -/
  | xdigit
  deriving Repr, DecidableEq

/-- A property that a pattern asks for by name. -/
inductive PropertyName where
  /-- A name on its own. -/
  | alone (name : List Char)
  /-- A property and its value. -/
  | valued (property value : List Char)
  deriving Repr, DecidableEq

mutual

/-- An item of a bracketed class. -/
inductive ClassItem where
  /-- No item. -/
  | empty
  /-- A character. It is `byte` if it is written as two hexadecimal digits. -/
  | literal (c : Char) (byte : Bool)
  /-- The characters between two characters. -/
  | range (low : Char) (lowByte : Bool) (high : Char) (highByte : Bool)
  /-- A class with a name between colons. -/
  | ascii (kind : AsciiClass) (negated : Bool)
  /-- A class with an escape of one letter. -/
  | short (kind : ShortClass) (negated : Bool)
  /-- A property. -/
  | property (name : PropertyName) (negated : Bool)
  /-- A class inside the class. -/
  | bracketed (negated : Bool) (set : ClassSet)
  /-- Several items. -/
  | union (items : List ClassItem)

/-- What a bracketed class holds. -/
inductive ClassSet where
  /-- Its items. -/
  | item (item : ClassItem)
  /-- The members of both sets. -/
  | inter (left right : ClassSet)
  /-- The members of the left set alone. -/
  | diff (left right : ClassSet)
  /-- The members of just one of the sets. -/
  | symmDiff (left right : ClassSet)

end

/-- What a pair of parentheses does. -/
inductive GroupKind where
  /-- It captures the text that it matches, under a number. -/
  | capture (index : Nat)
  /-- It only groups, with flags of its own. -/
  | plain (flags : FlagChange)
  deriving Repr, DecidableEq

/-- A regular expression as it is written. -/
inductive Pattern where
  /-- Nothing. -/
  | empty
  /-- A change of flags for the rest of the group. -/
  | flags (change : FlagChange)
  /-- A character. It is `byte` if it is written as two hexadecimal digits. -/
  | literal (c : Char) (byte : Bool)
  /-- The dot. -/
  | dot
  /-- A place in the text. -/
  | anchor (kind : Anchor)
  /-- A property. -/
  | property (name : PropertyName) (negated : Bool)
  /-- A class with an escape of one letter. -/
  | short (kind : ShortClass) (negated : Bool)
  /-- A bracketed class. -/
  | bracketed (negated : Bool) (set : ClassSet)
  /-- A repetition of what stands before it. -/
  | repetition (least : Nat) (most : Option Nat) (greedy : Bool) (body : Pattern)
  /-- A pair of parentheses. -/
  | group (kind : GroupKind) (body : Pattern)
  /-- Two or more branches. -/
  | alternation (branches : List Pattern)
  /-- Two or more parts. -/
  | concat (parts : List Pattern)

/-! ### Depth -/

mutual

/-- How deep the constructs of a class item are nested. -/
def ClassItem.depth : ClassItem → Nat
  | .bracketed _ set => set.depth + 1
  | .union items => ClassItem.depths items + 1
  | _ => 0

/-- The depth of the deepest item. -/
def ClassItem.depths : List ClassItem → Nat
  | [] => 0
  | item :: rest => max item.depth (ClassItem.depths rest)

/-- How deep the constructs of a class are nested. -/
def ClassSet.depth : ClassSet → Nat
  | .item item => item.depth
  | .inter left right => max left.depth right.depth + 1
  | .diff left right => max left.depth right.depth + 1
  | .symmDiff left right => max left.depth right.depth + 1

end

mutual

/-- How deep the constructs of a pattern are nested. -/
def Pattern.depth : Pattern → Nat
  | .bracketed _ set => set.depth + 1
  | .repetition _ _ _ body => body.depth + 1
  | .group _ body => body.depth + 1
  | .alternation branches => Pattern.depths branches + 1
  | .concat parts => Pattern.depths parts + 1
  | _ => 0

/-- The depth of the deepest pattern. -/
def Pattern.depths : List Pattern → Nat
  | [] => 0
  | p :: rest => max p.depth (Pattern.depths rest)

end

/-- The pattern of a list of parts. -/
def Pattern.ofParts : List Pattern → Pattern
  | [] => .empty
  | [p] => p
  | parts => .concat parts

/-- The pattern of a list of branches. -/
def Pattern.ofBranches : List Pattern → Pattern
  | [] => .empty
  | [p] => p
  | branches => .alternation branches

/-- The item of a list of items. -/
def ClassItem.ofItems : List ClassItem → ClassItem
  | [] => .empty
  | [item] => item
  | items => .union items

end ImportAtlas.Regex
