import ImportAtlas.Json.Value
import ImportAtlas.Text.Numeral

/-!
# Reading JSON

The value of a JSON text. Blanks are the space, the tab and the two line end characters; nothing
may follow the value.

## Main definitions

* `ImportAtlas.Json.readString`: a string up to its closing quote.
* `ImportAtlas.Json.readNumber`: a number.
* `ImportAtlas.Json.Value.read?`: a whole text.

## Design

A value inside another starts later in the text than the other does, so the length of the text
bounds the depth and serves as fuel.
-/

namespace ImportAtlas.Json

open Numeral

/-- Whether a character may stand between the parts of a value. -/
def isSpace (c : Char) : Bool := c == ' ' || c == '\n' || c == '\t' || c == '\r'

/-- A text without the blanks at its start. -/
def skipSpace (text : List Char) : List Char := text.dropWhile isSpace

/-! ### Strings -/

/-- A part of a string: a character, or a code unit that an escape gives. -/
inductive Piece where
  /-- The character itself, or a short escape of it. -/
  | char (c : Char)
  /-- A code unit written by its number. -/
  | unit (n : Nat)

/-- The characters of the short escapes. -/
def shortEscape? : Char → Option Char
  | '"' => some '"'
  | '\\' => some '\\'
  | '/' => some '/'
  | 'b' => some '\x08'
  | 'f' => some '\x0c'
  | 'n' => some '\n'
  | 'r' => some '\r'
  | 't' => some '\t'
  | _ => none

/-- The pieces of a string up to its closing quote, and the text after it. Control characters must
be escaped. -/
def readPieces : List Char → Option (List Piece × List Char)
  | [] => none
  | '"' :: rest => some ([], rest)
  | '\\' :: 'u' :: a :: b :: c :: d :: rest =>
    if [a, b, c, d].all isHex then
      (readPieces rest).map fun (pieces, after) =>
        (.unit (ofDigits 16 [a, b, c, d]) :: pieces, after)
    else none
  | '\\' :: e :: rest =>
    match shortEscape? e with
    | some c => (readPieces rest).map fun (pieces, after) => (.char c :: pieces, after)
    | none => none
  | c :: rest =>
    if c.toNat < 0x20 ∨ c = '\\' then none
    else (readPieces rest).map fun (pieces, after) => (.char c :: pieces, after)

/-- Whether a code unit is the first half of a pair. -/
def isHighSurrogate (n : Nat) : Bool := 0xD800 ≤ n && n < 0xDC00

/-- Whether a code unit is the second half of a pair. -/
def isLowSurrogate (n : Nat) : Bool := 0xDC00 ≤ n && n < 0xE000

/-- The text of a list of pieces, if every half of a pair meets its other half. -/
def assemble : List Piece → Option (List Char)
  | [] => some []
  | .char c :: rest => (assemble rest).map (c :: ·)
  | .unit n :: rest =>
    if isHighSurrogate n then
      match rest with
      | .unit m :: rest' =>
        if isLowSurrogate m then
          (assemble rest').map (Char.ofNat (0x10000 + (n - 0xD800) * 0x400 + (m - 0xDC00)) :: ·)
        else none
      | _ => none
    else if isLowSurrogate n then none
    else (assemble rest).map (Char.ofNat n :: ·)

/-- A string up to its closing quote, and the text after it. -/
def readString (text : List Char) : Option (Option String × List Char) :=
  (readPieces text).map fun (pieces, after) => ((assemble pieces).map String.ofList, after)

/-! ### Numbers -/

/-- A non-empty run of digits, and the text after it. -/
def readDigits (text : List Char) : Option (List Char × List Char) :=
  match text.span isDecimal with
  | ([], _) => none
  | spans => some spans

/-- The whole part of a number, which has no leading zero, and the text after it. -/
def readWhole : List Char → Option (List Char × List Char)
  | '0' :: rest => some (['0'], rest)
  | text => readDigits text

/-- The text after a fraction, and whether there is one. -/
def readFraction : List Char → Option (Bool × List Char)
  | '.' :: rest => (readDigits rest).map fun (_, after) => (true, after)
  | text => some (false, text)

/-- The text after an exponent, and whether there is one. -/
def readExponent : List Char → Option (Bool × List Char)
  | c :: rest =>
    if c = 'e' ∨ c = 'E' then
      let unsigned := match rest with
        | '+' :: more => more
        | '-' :: more => more
        | _ => rest
      (readDigits unsigned).map fun (_, after) => (true, after)
    else some (false, c :: rest)
  | [] => some (false, [])

/-- A number and the text after it. -/
def readNumber (text : List Char) : Option (Value × List Char) := do
  let (negative, unsigned) := match text with
    | '-' :: rest => (true, rest)
    | _ => (false, text)
  let (whole, afterWhole) ← readWhole unsigned
  let (fraction, afterFraction) ← readFraction afterWhole
  let (exponent, after) ← readExponent afterFraction
  let plain := !negative && !fraction && !exponent
  return (.number (if plain then some (ofDigits 10 whole) else none), after)

/-! ### Values -/

mutual

/-- A value and the text after it. -/
def readValue : Nat → List Char → Option (Value × List Char)
  | 0, _ => none
  | fuel + 1, text =>
    match skipSpace text with
    | 'n' :: 'u' :: 'l' :: 'l' :: rest => some (.null, rest)
    | 't' :: 'r' :: 'u' :: 'e' :: rest => some (.bool true, rest)
    | 'f' :: 'a' :: 'l' :: 's' :: 'e' :: rest => some (.bool false, rest)
    | '"' :: rest => (readString rest).map fun (s, after) => (.string s, after)
    | '[' :: rest =>
      match skipSpace rest with
      | ']' :: after => some (.array [], after)
      | items => (readItems fuel items).map fun (vs, after) => (.array vs, after)
    | '\x7b' :: rest =>
      match skipSpace rest with
      | '\x7d' :: after => some (.object [], after)
      | fields => (readFields fuel fields).map fun (fs, after) => (.object fs, after)
    | other => readNumber other

/-- Items up to the closing bracket, and the text after it. -/
def readItems : Nat → List Char → Option (List Value × List Char)
  | 0, _ => none
  | fuel + 1, text => do
    let (v, after) ← readValue fuel text
    match skipSpace after with
    | ']' :: rest => some ([v], rest)
    | ',' :: rest =>
      let (vs, last) ← readItems fuel rest
      some (v :: vs, last)
    | _ => none

/-- Fields up to the closing brace, and the text after it. -/
def readFields : Nat → List Char → Option (List (Option String × Value) × List Char)
  | 0, _ => none
  | fuel + 1, text =>
    match skipSpace text with
    | '"' :: named => do
      let (name, afterName) ← readString named
      match skipSpace afterName with
      | ':' :: valued =>
        let (v, after) ← readValue fuel valued
        match skipSpace after with
        | '\x7d' :: rest => some ([(name, v)], rest)
        | ',' :: rest =>
          let (fs, last) ← readFields fuel rest
          some ((name, v) :: fs, last)
        | _ => none
      | _ => none
    | _ => none

end

/-- The value of a whole text, blanks around it allowed. -/
def Value.read? (text : List Char) : Option Value :=
  match readValue (2 * text.length + 2) text with
  | some (v, rest) => if skipSpace rest = [] then some v else none
  | none => none

end ImportAtlas.Json
