import ImportAtlas.Json.Value

/-!
# Printing JSON

Two layouts of a value: one line without blanks, and an indented one with an item or field on each
line. In both a string escapes the quote, the backslash and the control characters below the space,
and nothing else.

## Main definitions

* `ImportAtlas.Json.quote`: a text as a JSON string.
* `ImportAtlas.Json.Value.compact`: the layout on one line.
* `ImportAtlas.Json.Value.pretty`: the indented layout.
-/

namespace ImportAtlas.Json

/-- The digit of a number below sixteen. -/
def hexDigit (n : Nat) : Char :=
  if n < 10 then Char.ofNat (48 + n) else Char.ofNat (87 + n)

/-- How a character is written inside a string. -/
def escapeChar (c : Char) : List Char :=
  if c = '"' then ['\\', '"']
  else if c = '\\' then ['\\', '\\']
  else if c = '\n' then ['\\', 'n']
  else if c = '\r' then ['\\', 'r']
  else if c = '\t' then ['\\', 't']
  else if c = '\x08' then ['\\', 'b']
  else if c = '\x0c' then ['\\', 'f']
  else if c.toNat < 0x20 then
    ['\\', 'u', '0', '0', hexDigit (c.toNat / 16), hexDigit (c.toNat % 16)]
  else [c]

/-- A text as a JSON string, quotes included. -/
def quote (s : String) : List Char := '"' :: (s.toList.flatMap escapeChar ++ ['"'])

/-- The digits of an unsigned integer. -/
def digits (n : Nat) : List Char := Nat.toDigits 10 n

/-- A value that has no parts, in either layout. A number or string without a value prints as
`null`. -/
def atom : Value → List Char
  | .bool true => ['t', 'r', 'u', 'e']
  | .bool false => ['f', 'a', 'l', 's', 'e']
  | .number (some n) => digits n
  | .string (some s) => quote s
  | _ => ['n', 'u', 'l', 'l']

/-- The name of a field. -/
def fieldName (name : Option String) : List Char := quote (name.getD "")

mutual

/-- The layout of a value on one line. -/
def compactChars : Value → List Char
  | .array items => '[' :: compactItems items
  | .object fields => '\x7b' :: compactFields fields
  | v => atom v

/-- Items, each after the first behind a comma, and the closing bracket. -/
def compactItems : List Value → List Char
  | [] => [']']
  | [v] => compactChars v ++ [']']
  | v :: rest => compactChars v ++ ',' :: compactItems rest

/-- Fields, each after the first behind a comma, and the closing brace. -/
def compactFields : List (Option String × Value) → List Char
  | [] => ['\x7d']
  | [(name, v)] => fieldName name ++ ':' :: compactChars v ++ ['\x7d']
  | (name, v) :: rest => fieldName name ++ ':' :: compactChars v ++ ',' :: compactFields rest

end

/-- A line end and the indentation of the next line. -/
def newline (depth : Nat) : List Char := '\n' :: List.replicate (2 * depth) ' '

mutual

/-- The indented layout of a value whose parts stand at `depth`. -/
def prettyChars (depth : Nat) : Value → List Char
  | .array [] => ['[', ']']
  | .array (v :: rest) =>
    '[' :: newline depth ++ prettyChars (depth + 1) v ++ prettyItems depth rest
  | .object [] => ['\x7b', '\x7d']
  | .object ((name, v) :: rest) =>
    '\x7b' :: newline depth ++ fieldName name ++ ':' :: ' ' :: prettyChars (depth + 1) v
      ++ prettyFields depth rest
  | v => atom v

/-- The items after the first, each on its line, and the closing bracket one step to the left. -/
def prettyItems (depth : Nat) : List Value → List Char
  | [] => newline (depth - 1) ++ [']']
  | v :: rest => ',' :: newline depth ++ prettyChars (depth + 1) v ++ prettyItems depth rest

/-- The fields after the first, each on its line, and the closing brace one step to the left. -/
def prettyFields (depth : Nat) : List (Option String × Value) → List Char
  | [] => newline (depth - 1) ++ ['\x7d']
  | (name, v) :: rest =>
    ',' :: newline depth ++ fieldName name ++ ':' :: ' ' :: prettyChars (depth + 1) v
      ++ prettyFields depth rest

end

/-- A value on one line without blanks. -/
def Value.compact (v : Value) : String := String.ofList (compactChars v)

/-- A value with an item or field on each line, two spaces for each level. -/
def Value.pretty (v : Value) : String := String.ofList (prettyChars 1 v)

end ImportAtlas.Json
