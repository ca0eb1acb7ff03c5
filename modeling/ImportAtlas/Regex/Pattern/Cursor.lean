import ImportAtlas.Text.Blank

/-!
# Reading position in a pattern

The rest of a pattern's text, and whether blanks and comments in it count. A comment runs from a
number sign to the end of its line.

## Main definitions

* `ImportAtlas.Regex.Cursor`: the reading position.
* `ImportAtlas.Regex.Cursor.skip`, `ImportAtlas.Regex.Cursor.next`: past what does not count.
-/

namespace ImportAtlas.Regex

open Text

/-- A reading position in a pattern. -/
structure Cursor where
  /-- The text from here on. -/
  rest : List Char
  /-- Whether blanks and comments do not count. -/
  spaced : Bool
  deriving Repr, DecidableEq

/-- A text without the blanks and comments at its start. -/
def skipSpaced : Nat → List Char → List Char
  | 0, text => text
  | _ + 1, [] => []
  | n + 1, c :: rest =>
    if isBlank c then skipSpaced n rest
    else if c = '#' then skipSpaced n ((rest.dropWhile (· ≠ '\n')).drop 1)
    else c :: rest

namespace Cursor

/-- Past the blanks and comments that do not count. -/
def skip (cur : Cursor) : Cursor :=
  if cur.spaced then { cur with rest := skipSpaced cur.rest.length cur.rest } else cur

/-- Past one character. -/
def drop (cur : Cursor) : Cursor := { cur with rest := cur.rest.tail }

/-- Past a number of characters. -/
def dropMany (cur : Cursor) (n : Nat) : Cursor := { cur with rest := cur.rest.drop n }

/-- Past one character and what does not count after it. -/
def next (cur : Cursor) : Cursor := cur.drop.skip

/-- The character at the position. -/
def char? (cur : Cursor) : Option Char := cur.rest.head?

/-- The character after the one at the position. -/
def peek? (cur : Cursor) : Option Char := cur.rest.tail.head?

/-- The first character from a text that is neither blank nor the number sign that opens a
comment. At most one comment is looked into, and not past its first word. -/
def peekSpaced (whole : List Char) : Bool → List Char → Option Char
  | _, [] => whole.head?
  | inComment, c :: rest =>
    if isBlank c then peekSpaced whole inComment rest
    else if c = '#' ∧ inComment = false then peekSpaced whole true rest
    else some c

/-- The character after the one at the position, where blanks do not count. -/
def peekPast? (cur : Cursor) : Option Char :=
  if cur.spaced then
    if cur.rest = [] then none else peekSpaced cur.rest.tail false cur.rest.tail
  else cur.peek?

end Cursor

end ImportAtlas.Regex
