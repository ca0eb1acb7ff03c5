import ImportAtlas.Text.Lines
import ImportAtlas.Text.Numeral
import ImportAtlas.Toml.Node

/-!
# Reading TOML

The document of a TOML text: comments, headers and bindings, each on its line.

## Main definitions

* `ImportAtlas.Toml.readText`: a quoted text of any of the four kinds.
* `ImportAtlas.Toml.number?`: the value of a word that is a number, a date or a time.
* `ImportAtlas.Toml.readValue`: a value.
* `ImportAtlas.Toml.parse`: a whole document.

## Design

A reader takes the text and gives what it read with the rest. A value inside another costs two
steps and at least one character, so twice the length of the document is fuel for every reader; it
is counted once, in `parse`, and handed down.
-/

namespace ImportAtlas.Toml

open Numeral

/-! ### Blanks, line ends and comments -/

/-- Whether a character is a blank within a line. -/
def isBlank (c : Char) : Bool := c == ' ' || c == '\t'

/-- A text without the blanks at its start. -/
def skipBlanks (text : List Char) : List Char := text.dropWhile isBlank

/-- Whether a character may stand in a comment or text: no control character but the tab. -/
def isPlain (c : Char) : Bool := c == '\t' || (0x20 ≤ c.toNat && c.toNat != 0x7F)

/-- The text after a line end. -/
def afterNewline? : List Char → Option (List Char)
  | '\n' :: rest => some rest
  | '\r' :: '\n' :: rest => some rest
  | _ => none

/-- A text without the comment that it starts with, if any. -/
def skipComment : List Char → List Char
  | '#' :: rest => rest.dropWhile isPlain
  | text => text

/-- The text after the end of a line: blanks, a comment and the line end, which may be missing at
the end of the text. -/
def readLineEnd (text : List Char) : Except TomlError (List Char) :=
  match skipComment (skipBlanks text) with
  | [] => .ok []
  | rest =>
    match afterNewline? rest with
    | some after => .ok after
    | none => .error .malformed

/-- A text without the blanks, comments and line ends at its start, or that starts inside a
comment. -/
def skipSpace : (inComment : Bool) → List Char → List Char
  | _, [] => []
  | _, '\n' :: rest => skipSpace false rest
  | _, '\r' :: '\n' :: rest => skipSpace false rest
  | true, c :: rest => if isPlain c then skipSpace true rest else c :: rest
  | false, c :: rest =>
    if c = '#' then skipSpace true rest
    else if isBlank c then skipSpace false rest
    else c :: rest

/-- A text without the blanks and line ends at its start. -/
def skipLines : List Char → List Char
  | [] => []
  | '\n' :: rest => skipLines rest
  | '\r' :: '\n' :: rest => skipLines rest
  | c :: rest => if isBlank c then skipLines rest else c :: rest

/-! ### Texts -/

/-- The characters of the escapes that are one letter. -/
def escapedChar? : Char → Option Char
  | 'b' => some '\x08'
  | 't' => some '\t'
  | 'n' => some '\n'
  | 'f' => some '\x0c'
  | 'r' => some '\r'
  | '"' => some '"'
  | '\\' => some '\\'
  | _ => none

/-- A character by its number in a fixed number of hexadecimal digits. -/
def readScalar (count : Nat) (text : List Char) : Except TomlError (Char × List Char) :=
  let digits := text.take count
  let n := ofDigits 16 digits
  if digits.length = count ∧ digits.all isHex ∧ (n < 0xD800 ∨ (0xDFFF < n ∧ n < 0x110000)) then
    .ok (Char.ofNat n, text.drop count)
  else .error .malformed

/-- The character of an escape, from the text after the backslash. -/
def readEscape : List Char → Except TomlError (Char × List Char)
  | 'u' :: rest => readScalar 4 rest
  | 'U' :: rest => readScalar 8 rest
  | c :: rest =>
    match escapedChar? c with
    | some e => .ok (e, rest)
    | none => .error .malformed
  | [] => .error .malformed

/-- One more character in front of what a reader gives. -/
def consChar (c : Char) :
    Except TomlError (List Char × List Char) → Except TomlError (List Char × List Char)
  | .ok (text, rest) => .ok (c :: text, rest)
  | .error e => .error e

/-- A text in double quotes, from the text after the opening quote. -/
def readBasic : Nat → List Char → Except TomlError (List Char × List Char)
  | 0, _ => .error .malformed
  | n + 1, text =>
    match text with
    | '"' :: rest => .ok ([], rest)
    | '\\' :: rest =>
      match readEscape rest with
      | .ok (c, after) => consChar c (readBasic n after)
      | .error e => .error e
    | c :: rest => if isPlain c then consChar c (readBasic n rest) else .error .malformed
    | [] => .error .malformed

/-- A text in single quotes, from the text after the opening quote. -/
def readLiteral (text : List Char) : Except TomlError (List Char × List Char) :=
  let inside := text.takeWhile fun c => isPlain c && c != '\''
  match text.drop inside.length with
  | '\'' :: rest => .ok (inside, rest)
  | _ => .error .malformed

/-- The end of a text in triple quotes, if the quotes at a position are one: up to two quotes
before the closing three belong to the text. -/
def closing? (quote : Char) (text : List Char) : Option (List Char × List Char) :=
  let run := (text.takeWhile (· = quote)).length
  if run < 3 then none
  else
    let inside := min (run - 3) 2
    some (List.replicate inside quote, text.drop (inside + 3))

/-- A text in triple quotes, from the text after the first line end. In double quotes there are
escapes, and a backslash at the end of a line joins it with what follows the blanks after it. -/
def readBlock (quote : Char) : Nat → List Char → Except TomlError (List Char × List Char)
  | 0, _ => .error .malformed
  | n + 1, text =>
    match closing? quote text with
    | some (inside, rest) => .ok (inside, rest)
    | none =>
      match afterNewline? text, text with
      | some after, _ => consChar '\n' (readBlock quote n after)
      | none, '\\' :: rest =>
        if quote = '"' then
          match afterNewline? (skipBlanks rest) with
          | some after => readBlock quote n (skipLines after)
          | none =>
            match readEscape rest with
            | .ok (c, after) => consChar c (readBlock quote n after)
            | .error e => .error e
        else consChar '\\' (readBlock quote n rest)
      | none, c :: rest =>
        if isPlain c then consChar c (readBlock quote n rest) else .error .malformed
      | none, [] => .error .malformed

/-- A text without the line end at its start, if any. -/
def dropNewline (text : List Char) : List Char := (afterNewline? text).getD text

/-- A text of any of the four kinds. -/
def readText (fuel : Nat) (text : List Char) : Except TomlError (String × List Char) :=
  let result := match text with
    | '"' :: '"' :: '"' :: rest => readBlock '"' fuel (dropNewline rest)
    | '\'' :: '\'' :: '\'' :: rest => readBlock '\'' fuel (dropNewline rest)
    | '"' :: rest => readBasic fuel rest
    | '\'' :: rest => readLiteral rest
    | _ => .error .malformed
  result.map fun (s, rest) => (String.ofList s, rest)

/-! ### Keys -/

/-- Whether a character may stand in a key without quotes. -/
def isKeyChar (c : Char) : Bool := c.isAlphanum || c == '_' || c == '-'

/-- A key of one part. -/
def readSimpleKey (fuel : Nat) (text : List Char) : Except TomlError (String × List Char) :=
  match text with
  | '"' :: rest => (readBasic fuel rest).map fun (s, after) => (String.ofList s, after)
  | '\'' :: rest => (readLiteral rest).map fun (s, after) => (String.ofList s, after)
  | _ =>
    let key := text.takeWhile isKeyChar
    if key = [] then .error .malformed else .ok (String.ofList key, text.drop key.length)

/-- A key: the parts before the last one, and the last one. -/
def readKey : Nat → List Char → Except TomlError ((List String × String) × List Char)
  | 0, _ => .error .malformed
  | n + 1, text => do
    let (part, after) ← readSimpleKey n (skipBlanks text)
    match skipBlanks after with
    | '.' :: rest =>
      let ((path, last), more) ← readKey n rest
      return ((part :: path, last), more)
    | rest => return (([], part), rest)

/-! ### Numbers, dates and times -/

/-- Whether a text is a run of digits with single underscores between them. -/
def isDigitRun (isDigit : Char → Bool) : List Char → Bool
  | [] => false
  | [c] => isDigit c
  | c :: '_' :: rest => isDigit c && isDigitRun isDigit rest
  | c :: rest => isDigit c && isDigitRun isDigit rest

/-- The value of a run of digits. -/
def runValue (base : Nat) (digits : List Char) : Nat := ofDigits base (digits.filter (· ≠ '_'))

/-- A text without a sign at its start, and whether the sign is a minus. -/
def dropSign : List Char → Bool × List Char
  | '-' :: rest => (true, rest)
  | '+' :: rest => (false, rest)
  | text => (false, text)

/-- Whether a text is a decimal integer without a sign and without needless zeros. -/
def isDecimalInteger (text : List Char) : Bool :=
  isDigitRun isDecimal text && (text == ['0'] || text.head? != some '0')

/-- An integer of 64 bits. -/
def word? (n : Int) : Option Int :=
  if -0x8000000000000000 ≤ n ∧ n ≤ 0x7FFFFFFFFFFFFFFF then some n else none

/-- The value of an integer in one of the four bases. -/
def integer? (text : List Char) : Option Int :=
  match text with
  | '0' :: 'x' :: rest => if isDigitRun isHex rest then word? (runValue 16 rest) else none
  | '0' :: 'o' :: rest =>
    if isDigitRun (fun c => '0' ≤ c && c ≤ '7') rest then word? (runValue 8 rest) else none
  | '0' :: 'b' :: rest =>
    if isDigitRun (fun c => c == '0' || c == '1') rest then word? (runValue 2 rest) else none
  | _ =>
    let (negative, digits) := dropSign text
    if isDecimalInteger digits then
      let n : Int := runValue 10 digits
      word? (if negative then -n else n)
    else none

/-- Whether a text is an exponent without its letter. -/
def isExponent (text : List Char) : Bool := isDigitRun isDecimal (dropSign text).2

/-- Whether a text is a floating point number. -/
def isFloat (text : List Char) : Bool :=
  let digits := (dropSign text).2
  let marks (c : Char) : Bool := c == '.' || c == 'e' || c == 'E'
  let whole := digits.takeWhile fun c => !marks c
  if digits = ['i', 'n', 'f'] ∨ digits = ['n', 'a', 'n'] then true
  else
    isDecimalInteger whole &&
      match digits.drop whole.length with
      | '.' :: rest =>
        let fraction := rest.takeWhile fun c => !marks c
        isDigitRun isDecimal fraction &&
          match rest.drop fraction.length with
          | [] => true
          | '.' :: _ => false
          | _ :: exponent => isExponent exponent
      | _ :: exponent => isExponent exponent
      | [] => false

/-- The number that some digits write, if there are that many of them. -/
def fixed? (count : Nat) (text : List Char) : Option Nat :=
  if text.length = count ∧ text.all isDecimal then some (ofDigits 10 text) else none

/-- How many days a month has. -/
def daysIn (year month : Nat) : Nat :=
  if month = 2 then
    if year % 4 = 0 ∧ (year % 100 ≠ 0 ∨ year % 400 = 0) then 29 else 28
  else if month = 4 ∨ month = 6 ∨ month = 9 ∨ month = 11 then 30
  else 31

/-- Whether a text is a date. -/
def isDate (text : List Char) : Bool :=
  match fixed? 4 (text.take 4), text.drop 4 with
  | some year, '-' :: rest =>
    match fixed? 2 (rest.take 2), rest.drop 2 with
    | some month, '-' :: day =>
      match fixed? 2 day with
      | some day =>
        decide (1 ≤ month) && decide (month ≤ 12) && decide (1 ≤ day) &&
          decide (day ≤ daysIn year month)
      | none => false
    | _, _ => false
  | _, _ => false

/-- Whether a text is an hour and a minute. -/
def isHourMinute (text : List Char) : Bool :=
  match fixed? 2 (text.take 2), text.drop 2 with
  | some hour, ':' :: minute =>
    decide (hour < 24) && (fixed? 2 minute).any fun m => decide (m < 60)
  | _, _ => false

/-- Whether a text is a time of day. -/
def isTime (text : List Char) : Bool :=
  isHourMinute (text.take 5) &&
    match text.drop 5 with
    | ':' :: rest =>
      ((fixed? 2 (rest.take 2)).any fun s => decide (s ≤ 60)) &&
        match rest.drop 2 with
        | [] => true
        | '.' :: fraction => !fraction.isEmpty && fraction.all isDecimal
        | _ => false
    | _ => false

/-- Whether a text is a time of day with its distance from universal time, or without it. -/
def isOffsetTime (text : List Char) : Bool :=
  match text.reverse with
  | 'Z' :: rest => isTime rest.reverse
  | 'z' :: rest => isTime rest.reverse
  | _ =>
    let time := text.takeWhile fun c => c != '+' && c != '-'
    isTime time &&
      match text.drop time.length with
      | [] => true
      | _ :: offset => isHourMinute offset

/-- Whether a text is a date, a time, or both with a letter between them. -/
def isMoment (text : List Char) : Bool :=
  isTime text || isDate text ||
    (isDate (text.take 10) &&
      match text.drop 10 with
      | c :: time => (c == 'T' || c == 't') && isOffsetTime time
      | [] => false)

/-- The value of a word that is a number, a date or a time. -/
def number? (text : List Char) : Option Node :=
  match integer? text with
  | some n => some (.integer n)
  | none => if isFloat text || isMoment text then some .other else none

/-- Whether a character may stand in a number, a date or a time. -/
def isWordChar (c : Char) : Bool :=
  c.isAlphanum || c == '+' || c == '-' || c == '_' || c == '.' || c == ':'

/-- A number, a date or a time. A space may stand between a date and a time. -/
def readNumber (text : List Char) : Except TomlError (Node × List Char) :=
  let word := text.takeWhile isWordChar
  let rest := text.drop word.length
  let time := (rest.drop 1).takeWhile isWordChar
  if isDate word ∧ rest.head? = some ' ' ∧ isOffsetTime time then
    .ok (.other, rest.drop (time.length + 1))
  else
    match number? word with
    | some v => .ok (v, rest)
    | none => .error .malformed

/-! ### Values -/

mutual

/-- A value. -/
def readValue : Nat → List Char → Except TomlError (Node × List Char)
  | 0, _ => .error .malformed
  | n + 1, text =>
    match text with
    | '[' :: rest => do
      let (items, after) ← readItems n rest
      return (.array items, after)
    | '\x7b' :: rest =>
      match skipBlanks rest with
      | '\x7d' :: after => .ok (.inline false [], after)
      | _ => do
        let (bindings, after) ← readBindings n rest
        return (← inlineTable bindings, after)
    | 't' :: 'r' :: 'u' :: 'e' :: rest => .ok (.boolean true, rest)
    | 'f' :: 'a' :: 'l' :: 's' :: 'e' :: rest => .ok (.boolean false, rest)
    | c :: _ =>
      if c = '"' ∨ c = '\'' then (readText n text).map fun (s, rest) => (.string s, rest)
      else readNumber text
    | [] => .error .malformed

/-- The items of an array up to its closing bracket. A comma may follow the last one. -/
def readItems : Nat → List Char → Except TomlError (List Node × List Char)
  | 0, _ => .error .malformed
  | n + 1, text =>
    match skipSpace false text with
    | ']' :: rest => .ok ([], rest)
    | start => do
      let (v, after) ← readValue n start
      match skipSpace false after with
      | ',' :: rest =>
        let (vs, last) ← readItems n rest
        return (v :: vs, last)
      | ']' :: rest => return ([v], rest)
      | _ => .error .malformed

/-- The bindings of an inline table up to its closing brace, all on one line. -/
def readBindings :
    Nat → List Char → Except TomlError (List ((List String × String) × Node) × List Char)
  | 0, _ => .error .malformed
  | n + 1, text => do
    let (key, afterKey) ← readKey n text
    match afterKey with
    | '=' :: valued =>
      let (v, after) ← readValue n (skipBlanks valued)
      match skipBlanks after with
      | ',' :: rest =>
        let (bs, last) ← readBindings n rest
        return ((key, v) :: bs, last)
      | '\x7d' :: rest => return ([(key, v)], rest)
      | _ => .error .malformed
    | _ => .error .malformed

end

/-! ### Statements -/

/-- The statement at the start of a line that is neither empty nor a comment, and the text after
the line. -/
def readStatement (fuel : Nat) (text : List Char) : Except TomlError (Statement × List Char) :=
  match text with
  | '[' :: '[' :: rest => do
    let ((path, name), after) ← readKey fuel rest
    match after with
    | ']' :: ']' :: last => return (.element path name, ← readLineEnd last)
    | _ => .error .malformed
  | '[' :: rest => do
    let ((path, name), after) ← readKey fuel rest
    match after with
    | ']' :: last => return (.header path name, ← readLineEnd last)
    | _ => .error .malformed
  | _ => do
    let ((path, key), after) ← readKey fuel text
    match after with
    | '=' :: valued =>
      let (v, last) ← readValue fuel (skipBlanks valued)
      return (.binding path key v, ← readLineEnd last)
    | _ => .error .malformed

/-- The statements of a text. -/
def readStatements : Nat → List Char → Except TomlError (List Statement)
  | 0, _ => .error .malformed
  | n + 1, text =>
    let start := skipBlanks text
    match start with
    | [] => .ok []
    | c :: _ =>
      if c = '#' ∨ (afterNewline? start).isSome then do
        readStatements n (← readLineEnd start)
      else do
        let (s, rest) ← readStatement n start
        return s :: (← readStatements n rest)

/-- The fields of the document of a text. -/
def parse (text : List Char) : Except TomlError Fields := do
  build (← readStatements (2 * text.length + 2) (Text.dropByteOrderMark text))

end ImportAtlas.Toml
