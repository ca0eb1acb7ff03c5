import ImportAtlas.Regex.Pattern.Class
import ImportAtlas.Unicode.Property

/-!
# Reading patterns

The pattern of a text. The reader goes through the text once, with the groups that are still open
on a stack; each open group remembers the parts and branches before it.

## Main definitions

* `ImportAtlas.Regex.Reader`: the state of the reader.
* `ImportAtlas.Regex.Reader.step`: reading one construct.
* `ImportAtlas.Regex.Pattern.parse`: the pattern of a text.

## Design

Every step takes at least one character away, so the length of the text is enough fuel.
-/

namespace ImportAtlas.Regex

open Numeral Unicode

/-! ### Flags -/

/-- The flag of a letter. -/
def Flag.ofChar? : Char → Option Flag
  | 'i' => some .ignoreCase
  | 'm' => some .multiLine
  | 's' => some .dotAll
  | 'U' => some .swapGreed
  | 'u' => some .unicode
  | 'R' => some .crlf
  | 'x' => some .spaced
  | _ => none

/-- The flags of a run of distinct letters. -/
def flagsOf (letters : List Char) : Option (List Flag) := letters.mapM Flag.ofChar?

/-- The change of flags that a text between a question mark and its end writes. No flag occurs
twice, and a minus sign is followed by a flag. -/
def flagChange? (text : List Char) : Option FlagChange := do
  let on ← flagsOf (text.takeWhile (· ≠ '-'))
  let off ← match text.dropWhile (· ≠ '-') with
    | [] => some []
    | [_] => none
    | _ :: letters => flagsOf letters
  if (on ++ off).Nodup then some ⟨on, off⟩ else none

/-! ### Groups -/

/-- Whether a character may stand in the name of a group, at its start or further on. -/
def isNameChar (atStart : Bool) (c : Char) : Bool :=
  if atStart then c == '_' || isAlphabetic c
  else c == '_' || c == '.' || c == '[' || c == ']' || isAlphanumeric c

/-- Whether a text may name a group. -/
def isGroupName : List Char → Bool
  | [] => false
  | c :: rest => isNameChar true c && rest.all (isNameChar false)

/-- A group that is open: what stands before it, what it does, and whether blanks counted there. -/
structure OpenGroup where
  /-- The parts before the group, last first. -/
  parts : List Pattern
  /-- The branches before that one, last first. -/
  branches : List Pattern
  /-- What the group does. -/
  kind : GroupKind
  /-- Whether blanks did not count before the group. -/
  spaced : Bool

/-- The state of the reader. -/
structure Reader where
  /-- The reading position. -/
  cursor : Cursor
  /-- The parts of the branch under way, last first. -/
  parts : List Pattern
  /-- The branches before it, last first. -/
  branches : List Pattern
  /-- The groups that are open, innermost first. -/
  groups : List OpenGroup
  /-- How many capturing groups have begun. -/
  captures : Nat
  /-- The names of groups so far. -/
  names : List (List Char)

namespace Reader

/-- The state before a text. -/
def start (text : List Char) : Reader := ⟨⟨text, false⟩, [], [], [], 0, []⟩

/-- The state with one more part, read up to a position. -/
def push (r : Reader) (p : Pattern) (after : Cursor) : Reader :=
  { r with parts := p :: r.parts, cursor := after }

/-- The pattern of the branches so far, with the one under way. -/
def collected (r : Reader) : Pattern :=
  .ofBranches ((Pattern.ofParts r.parts.reverse :: r.branches).reverse)

/-- The state inside a group that opens. -/
def openGroup (r : Reader) (kind : GroupKind) (after : Cursor) : Reader :=
  let spaced := match kind with
    | .plain flags => (flags.state? .spaced).getD r.cursor.spaced
    | .capture _ => r.cursor.spaced
  { r with
    cursor := { after with spaced := spaced }
    parts := []
    branches := []
    groups := ⟨r.parts, r.branches, kind, r.cursor.spaced⟩ :: r.groups }

/-- The state inside a capturing group that opens. -/
def openCapture (r : Reader) (after : Cursor) : Reader :=
  { r with captures := r.captures + 1 }.openGroup (.capture (r.captures + 1)) after

/-- The state after the innermost group closes. -/
def closeGroup (r : Reader) : Except PatternError Reader :=
  match r.groups with
  | [] => .error .unopenedGroup
  | g :: groups => .ok
    { r with
      cursor := { r.cursor.drop with spaced := g.spaced }
      parts := .group g.kind r.collected :: g.parts
      branches := g.branches
      groups := groups }

/-- The state inside a group whose name starts at a position. -/
def openNamed (r : Reader) (pos : Cursor) : Except PatternError Reader :=
  let name := pos.rest.takeWhile (· ≠ '>')
  match pos.rest.dropWhile (· ≠ '>') with
  | _ :: after =>
    if !isGroupName name then .error .badGroupName
    else if name ∈ r.names then .error .repeatedGroupName
    else .ok ({ r with names := name :: r.names }.openCapture { pos with rest := after })
  | [] => .error .badGroupName

/-- The state after flags that start at a position: a change for the rest of the group, or the
inside of a group with flags of its own. -/
def readFlags (r : Reader) (pos : Cursor) : Except PatternError Reader :=
  let text := pos.rest.takeWhile fun c => c ≠ ':' ∧ c ≠ ')'
  match pos.rest.drop text.length, flagChange? text with
  | ')' :: after, some change =>
    if text = [] then .error .nothingToRepeat
    else
      let spaced := (change.state? .spaced).getD r.cursor.spaced
      .ok (r.push (.flags change) ⟨after, spaced⟩)
  | ':' :: after, some change => .ok (r.openGroup (.plain change) { pos with rest := after })
  | _, _ => .error .badFlags

/-- The state after an opening parenthesis. -/
def readGroup (r : Reader) : Except PatternError Reader :=
  let pos := r.cursor.next
  match pos.rest with
  | '?' :: '=' :: _ => .error .lookaround
  | '?' :: '!' :: _ => .error .lookaround
  | '?' :: '<' :: '=' :: _ => .error .lookaround
  | '?' :: '<' :: '!' :: _ => .error .lookaround
  | '?' :: 'P' :: '<' :: rest => r.openNamed { pos with rest := rest }
  | '?' :: '<' :: rest => r.openNamed { pos with rest := rest }
  | '?' :: rest => r.readFlags { pos with rest := rest }
  | _ => .ok (r.openCapture pos)

/-! ### Repetitions -/

/-- The state with the last part repeated. Nothing and a change of flags cannot be repeated. -/
def repeatLast (r : Reader) (least : Nat) (most : Option Nat) (greedy : Bool) (after : Cursor) :
    Except PatternError Reader :=
  match r.parts with
  | [] => .error .nothingToRepeat
  | .empty :: _ => .error .nothingToRepeat
  | .flags _ :: _ => .error .nothingToRepeat
  | p :: parts => .ok { r with parts := .repetition least most greedy p :: parts, cursor := after }

/-- The state after an operator of one character, and the question mark that makes it lazy. -/
def readOperator (r : Reader) (least : Nat) (most : Option Nat) : Except PatternError Reader :=
  let after := r.cursor.drop
  if after.char? = some '?' then r.repeatLast least most false after.drop
  else r.repeatLast least most true after

/-- Past blanks, which count nowhere in the bounds of a repetition. -/
def skipBlanks (cur : Cursor) : Cursor := { cur with rest := cur.rest.dropWhile Text.isBlank }

/-- The digits at a position, and the position after them. -/
def readDigits : Nat → Cursor → List Char × Cursor
  | 0, cur => ([], cur)
  | n + 1, cur =>
    match cur.char? with
    | some c =>
      if isDecimal c then
        let (digits, after) := readDigits n cur.next
        (c :: digits, after)
      else ([], cur)
    | none => ([], cur)

/-- Past blanks, and past what does not count after each of them. -/
def skipLoose : Nat → Cursor → Cursor
  | 0, cur => cur
  | n + 1, cur =>
    match cur.char? with
    | some c => if Text.isBlank c then skipLoose n cur.next else cur
    | none => cur

/-- A bound of a repetition, which fits in 32 bits, and the position after it. Without digits there
is no bound. -/
def readBound (cur : Cursor) : Option Nat × Cursor :=
  let (digits, after) := readDigits cur.rest.length (skipBlanks cur)
  ((decimal? digits).filter (· ≤ 0xFFFFFFFF), skipLoose after.rest.length after)

/-- The bounds of a repetition from the position after the opening brace, and the position at the
closing one. -/
def readBounds (cur : Cursor) : Option ((Nat × Option Nat) × Cursor) :=
  match readBound cur with
  | (some least, after) =>
    if after.char? = some ',' then
      let second := after.next
      if second.char? = some '\x7d' then some ((least, none), second)
      else
        match readBound second with
        | (some most, last) => some ((least, some most), last)
        | (none, _) => none
    else some ((least, some least), after)
  | (none, _) => none

/-- The state after a repetition with bounds in braces. -/
def readCounted (r : Reader) : Except PatternError Reader :=
  match readBounds r.cursor.next with
  | some ((least, most), pos) =>
    if pos.char? ≠ some '\x7d' ∨ most.any (· < least) then .error .badBounds
    else
      let after := pos.next
      if after.char? = some '?' then r.repeatLast least most false after.drop
      else r.repeatLast least most true after
  | none => .error .badBounds

/-! ### Steps -/

/-- The atom at a position, and the position after it. -/
def readAtom (cur : Cursor) : Except PatternError (Atom × Cursor) :=
  match cur.rest with
  | '\\' :: _ => readEscape cur
  | '.' :: rest => .ok (.dot, { cur with rest := rest })
  | '^' :: rest => .ok (.anchor .startLine, { cur with rest := rest })
  | '$' :: rest => .ok (.anchor .endLine, { cur with rest := rest })
  | c :: rest => .ok (.literal c false, { cur with rest := rest })
  | [] => .error .unfinishedEscape

/-- The state after the construct at the position, which is not the end of the text. -/
def step (r : Reader) : Except PatternError Reader :=
  match r.cursor.rest with
  | '(' :: _ => r.readGroup
  | ')' :: _ => r.closeGroup
  | '|' :: _ => .ok
    { r with
      parts := []
      branches := .ofParts r.parts.reverse :: r.branches
      cursor := r.cursor.drop }
  | '[' :: _ => do
    let ((negated, set), after) ← readBracket (2 * r.cursor.rest.length) r.cursor
    return r.push (.bracketed negated set) after
  | '?' :: _ => r.readOperator 0 (some 1)
  | '*' :: _ => r.readOperator 0 none
  | '+' :: _ => r.readOperator 1 none
  | '\x7b' :: _ => r.readCounted
  | _ => do
    let (atom, after) ← readAtom r.cursor
    return r.push atom.pattern after

/-- The state at the end of the text. -/
def run : Nat → Reader → Except PatternError Reader
  | 0, r => .ok r
  | n + 1, r =>
    let r := { r with cursor := r.cursor.skip }
    if r.cursor.rest = [] then .ok r
    else
      match r.step with
      | .ok next => run n next
      | .error e => .error e

end Reader

/-- How deep the constructs of a pattern may be nested. -/
def maxDepth : Nat := 250

/-- The pattern of a text. -/
def Pattern.parse (text : List Char) : Except PatternError Pattern :=
  match (Reader.start text).run (text.length + 1) with
  | .error e => .error e
  | .ok r =>
    if r.groups.isEmpty then
      if r.collected.depth ≤ maxDepth then .ok r.collected else .error .tooDeep
    else .error .unclosedGroup

end ImportAtlas.Regex
