import ImportAtlas.Regex.Error
import ImportAtlas.Regex.Pattern.Basic
import ImportAtlas.Regex.Pattern.Cursor
import ImportAtlas.Text.Numeral

/-!
# Escapes

What a backslash and the characters after it stand for, in a pattern and in a bracketed class.

## Main definitions

* `ImportAtlas.Regex.Atom`: a construct that an escape or a single character can give.
* `ImportAtlas.Regex.isMeta`: the characters that mean something in a pattern.
* `ImportAtlas.Regex.escape`: a text as a pattern that matches just it.
* `ImportAtlas.Regex.readEscape`: the atom at a backslash.
-/

namespace ImportAtlas.Regex

open Numeral

/-- A construct without parts. -/
inductive Atom where
  /-- A character. It is `byte` if it is written as two hexadecimal digits. -/
  | literal (c : Char) (byte : Bool)
  /-- The dot. -/
  | dot
  /-- A place in the text. -/
  | anchor (kind : Anchor)
  /-- A property. -/
  | property (name : PropertyName) (negated : Bool)
  /-- A class with an escape of one letter. -/
  | short (kind : ShortClass) (negated : Bool)
  deriving Repr, DecidableEq

/-- The pattern of an atom. -/
def Atom.pattern : Atom → Pattern
  | .literal c byte => .literal c byte
  | .dot => .dot
  | .anchor kind => .anchor kind
  | .property name negated => .property name negated
  | .short kind negated => .short kind negated

/-- Whether a character means something in a pattern, so that it stands for itself only behind a
backslash. -/
def isMeta (c : Char) : Bool :=
  ['\\', '.', '+', '*', '?', '(', ')', '|', '[', ']', '\x7b', '\x7d', '^', '$', '#', '&', '-',
    '~'].contains c

/-- A text as a pattern that matches just it. -/
def escape (text : List Char) : List Char :=
  text.flatMap fun c => if isMeta c then ['\\', c] else [c]

/-- Whether a character may follow a backslash to stand for itself: every ASCII character but
letters, digits and angle brackets. -/
def isEscapable (c : Char) : Bool :=
  isMeta c || (c.toNat < 0x80 && !c.isAlphanum && c != '<' && c != '>')

/-- A result, or the error that stands for its absence. -/
def orElseError {α : Type} (e : PatternError) : Option α → Except PatternError α
  | some x => .ok x
  | none => .error e

/-! ### Characters by number -/

/-- The character of a number, if there is one. -/
def charOfNumber? (n : Nat) : Option Char :=
  if n < 0xD800 ∨ (0xDFFF < n ∧ n < 0x110000) then some (Char.ofNat n) else none

/-- A fixed number of hexadecimal digits, and the position after them. -/
def readHexDigits : Nat → Cursor → Except PatternError (List Char × Cursor)
  | 0, cur => .ok ([], cur)
  | n + 1, cur =>
    match cur.char? with
    | none => .error .unfinishedEscape
    | some c =>
      if isHex c then do
        let (digits, after) ← readHexDigits n cur.next
        return (c :: digits, after)
      else .error .badCodePoint

/-- The characters up to a closing brace, and the position at the brace. -/
def readToBrace : Nat → Cursor → Option (List Char × Cursor)
  | 0, _ => none
  | n + 1, cur =>
    match cur.char? with
    | none => none
    | some c =>
      if c = '\x7d' then some ([], cur)
      else (readToBrace n cur.next).map fun (text, after) => (c :: text, after)

/-- A character by its number, from the position after the letter that asks for it: that many
digits, or any number of them in braces. -/
def readHex (count : Nat) (cur : Cursor) : Except PatternError (Atom × Cursor) := do
  match cur.char? with
  | none => .error .unfinishedEscape
  | some c =>
    if c = '\x7b' then
      let (digits, atBrace) ← orElseError .unfinishedEscape
        (readToBrace cur.rest.length cur.next)
      if digits = [] ∨ digits.any (fun d => !isHex d) then .error .badCodePoint
      else
        let c ← orElseError .badCodePoint (charOfNumber? (ofDigits 16 digits))
        return (.literal c false, atBrace.next)
    else
      let (digits, after) ← readHexDigits count cur
      let c ← orElseError .badCodePoint (charOfNumber? (ofDigits 16 digits))
      return (.literal c (count == 2), after)

/-! ### Properties -/

/-- A text cut at the first place where `mark` stands. -/
def cutAt? (mark : List Char) : List Char → Option (List Char × List Char)
  | [] => none
  | c :: rest =>
    if mark.isPrefixOf (c :: rest) then some ([], (c :: rest).drop mark.length)
    else (cutAt? mark rest).map fun (before, after) => (c :: before, after)

/-- The property that a text in braces names, and whether it is turned round. -/
def propertyName (text : List Char) : PropertyName × Bool :=
  match cutAt? ['!', '='] text with
  | some (property, value) => (.valued property value, true)
  | none =>
    match (cutAt? [':'] text).or (cutAt? ['='] text) with
    | some (property, value) => (.valued property value, false)
    | none => (.alone text, false)

/-- A property, from the position after its letter. -/
def readProperty (negated : Bool) (cur : Cursor) : Except PatternError (Atom × Cursor) :=
  match cur.char? with
  | none => .error .unfinishedEscape
  | some c =>
    if c = '\x7b' then do
      let (text, atBrace) ← orElseError .unfinishedEscape (readToBrace cur.rest.length cur.next)
      let (name, turned) := propertyName text
      return (.property name (negated != turned), atBrace.drop)
    else if c = '\\' then .error .unknownProperty
    else .ok (.property (.alone [c]) negated, cur.next)

/-! ### Word boundaries -/

/-- Whether a character may stand in the word that qualifies a boundary. -/
def isBoundaryChar (c : Char) : Bool := c.isAlpha || c == '-'

/-- The word that qualifies a boundary, and the position after it. -/
def readBoundaryWord : Nat → Cursor → List Char × Cursor
  | 0, cur => ([], cur)
  | n + 1, cur =>
    match cur.char? with
    | none => ([], cur)
    | some c =>
      if isBoundaryChar c then
        let (word, after) := readBoundaryWord n cur.next
        (c :: word, after)
      else ([], cur)

/-- The boundaries that are qualified by a word. -/
def boundaryOfWord? (word : List Char) : Option Anchor :=
  if word = ['s', 't', 'a', 'r', 't'] then some .wordStart
  else if word = ['e', 'n', 'd'] then some .wordEnd
  else if word = ['s', 't', 'a', 'r', 't', '-', 'h', 'a', 'l', 'f'] then some .wordStartHalf
  else if word = ['e', 'n', 'd', '-', 'h', 'a', 'l', 'f'] then some .wordEndHalf
  else none

/-- A word boundary, from the position after its letter. A brace that is not followed by a word is
left for a repetition. -/
def readBoundary (cur : Cursor) : Except PatternError (Atom × Cursor) :=
  if cur.char? = some '\x7b' then
    match cur.next.char? with
    | none => .error .badBoundary
    | some c =>
      if isBoundaryChar c then
        let (word, after) := readBoundaryWord cur.rest.length cur.next
        match after.char?, boundaryOfWord? word with
        | some '\x7d', some kind => .ok (.anchor kind, after.drop)
        | _, _ => .error .badBoundary
      else .ok (.anchor .boundary, cur)
  else .ok (.anchor .boundary, cur)

/-! ### Escapes -/

/-- The atoms of the escapes that are one letter. -/
def letterEscape? : Char → Option Atom
  | 'a' => some (.literal '\x07' false)
  | 'f' => some (.literal '\x0c' false)
  | 't' => some (.literal '\t' false)
  | 'n' => some (.literal '\n' false)
  | 'r' => some (.literal '\r' false)
  | 'v' => some (.literal '\x0b' false)
  | 'A' => some (.anchor .startText)
  | 'z' => some (.anchor .endText)
  | 'B' => some (.anchor .noBoundary)
  | '<' => some (.anchor .wordStart)
  | '>' => some (.anchor .wordEnd)
  | 'd' => some (.short .digit false)
  | 'D' => some (.short .digit true)
  | 's' => some (.short .blank false)
  | 'S' => some (.short .blank true)
  | 'w' => some (.short .word false)
  | 'W' => some (.short .word true)
  | _ => none

/-- The atom at a backslash, and the position after it. -/
def readEscape (cur : Cursor) : Except PatternError (Atom × Cursor) :=
  match cur.rest with
  | _ :: c :: rest =>
    let after : Cursor := { cur with rest := rest }
    if isDecimal c then .error .backreference
    else if c = 'x' then readHex 2 after.skip
    else if c = 'u' then readHex 4 after.skip
    else if c = 'U' then readHex 8 after.skip
    else if c = 'p' then readProperty false after.skip
    else if c = 'P' then readProperty true after.skip
    else if c = 'b' then readBoundary after
    else if isEscapable c then .ok (.literal c false, after)
    else (orElseError .unknownEscape (letterEscape? c)).map fun atom => (atom, after)
  | _ => .error .unfinishedEscape

end ImportAtlas.Regex
