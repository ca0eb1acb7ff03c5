import ImportAtlas.Text.Blank
import ImportAtlas.Unicode.Identifier

/-!
# Lines of a file header

What one line at the top of a Swift file says: nothing, a comment, an import of a module, or code.
Only the line itself decides, so a block comment is not followed over its lines.

An import line reads

    attributes  access?  import  kind?  name  end

where each part before the name is followed by blanks, an attribute is `@` and an ASCII word with
perhaps an argument in parentheses, and the name ends at a blank, a semicolon, a comment or the end
of the line. A name that runs on into anything else is no name at all: it is never cut short.

## Main definitions

* `ImportAtlas.Header.Line`: what a line says.
* `ImportAtlas.Header.nameSpan`: the longest dotted name, and what follows it.
* `ImportAtlas.Header.importTarget?`: the module that an import line names.
* `ImportAtlas.Header.Line.classify`: the reading of a line.

## Design

The kind word is read as a kind only if a whole name follows it; otherwise it is the name itself.
This is the one place where an import line has two readings, and the kind reading goes first. Every
other part is read as far as it goes, and the reader never comes back to it. A regular expression
tells the same lines, `ImportAtlas.Header.importPattern`, and that it gives the same names is
`ImportAtlas.Header.importTarget?_eq_group?`.
-/

namespace ImportAtlas.Header

open Text Unicode

/-! ### Names -/

/-- Whether a name may begin with the character. -/
def startsName (c : Char) : Bool := isXidStart c || c == '_'

/-- The rest of the longest dotted name that has begun, and what follows it. A dot belongs to the
name only if another part follows. -/
def nameRest : List Char → List Char × List Char
  | '.' :: d :: rest =>
    if startsName d then
      let (name, after) := nameRest rest
      ('.' :: d :: name, after)
    else ([], '.' :: d :: rest)
  | c :: rest =>
    if isXidContinue c then
      let (name, after) := nameRest rest
      (c :: name, after)
    else ([], c :: rest)
  | [] => ([], [])

/-- The longest dotted name at the start of a text, and what follows it. -/
def nameSpan : List Char → Option (List Char × List Char)
  | c :: rest =>
    if startsName c then
      let (name, after) := nameRest rest
      some (c :: name, after)
    else none
  | [] => none

/-- Whether a name may end before the text: at its end, a blank, a semicolon or a comment. -/
def endsName : List Char → Bool
  | [] => true
  | '/' :: '/' :: _ => true
  | c :: _ => c == ';' || isBlank c

/-- The name that makes up the text as far as a name may reach. -/
def wholeName? (text : List Char) : Option (List Char) :=
  (nameSpan text).bind fun (name, after) => if endsName after then some name else none

/-! ### Words and blanks -/

/-- The text after a non-empty run of blanks. -/
def afterBlanks? : List Char → Option (List Char)
  | c :: rest => if isBlank c then some (rest.dropWhile isBlank) else none
  | [] => none

/-- The text after a word that it starts with. -/
def dropWord? : List Char → List Char → Option (List Char)
  | [], text => some text
  | w :: word, c :: text => if w = c then dropWord? word text else none
  | _ :: _, [] => none

/-- The text after a word and the blanks that follow it. -/
def afterWord? (word text : List Char) : Option (List Char) :=
  (dropWord? word text).bind afterBlanks?

/-- The word that every import line has. -/
def importWord : List Char := ['i', 'm', 'p', 'o', 'r', 't']

/-- The access levels that may stand before the import word. -/
def accessWords : List (List Char) :=
  [['p', 'u', 'b', 'l', 'i', 'c'],
   ['i', 'n', 't', 'e', 'r', 'n', 'a', 'l'],
   ['p', 'r', 'i', 'v', 'a', 't', 'e'],
   ['f', 'i', 'l', 'e', 'p', 'r', 'i', 'v', 'a', 't', 'e'],
   ['o', 'p', 'e', 'n'],
   ['p', 'a', 'c', 'k', 'a', 'g', 'e']]

/-- The kinds of declaration that an import may ask for. -/
def kindWords : List (List Char) :=
  [['s', 't', 'r', 'u', 'c', 't'],
   ['c', 'l', 'a', 's', 's'],
   ['e', 'n', 'u', 'm'],
   ['p', 'r', 'o', 't', 'o', 'c', 'o', 'l']]

/-! ### Attributes -/

/-- Whether an attribute's word may begin with the character. -/
def startsAttribute (c : Char) : Bool := c.isAlpha || c == '_'

/-- Whether an attribute's word may go on with the character. -/
def continuesAttribute (c : Char) : Bool := c.isAlphanum || c == '_'

/-- The text after an attribute's argument. There may be none; one that opens must close. -/
def afterArgument? : List Char → Option (List Char)
  | '(' :: rest => (rest.dropWhile (· ≠ ')')).tail?
  | text => some text

/-- The text after one attribute and its blanks. -/
def afterAttribute? : List Char → Option (List Char)
  | '@' :: c :: rest =>
    if startsAttribute c then
      (afterArgument? (rest.dropWhile continuesAttribute)).bind afterBlanks?
    else none
  | _ => none

theorem length_dropWhile_le {α : Type} (p : α → Bool) (l : List α) :
    (l.dropWhile p).length ≤ l.length := (List.dropWhile_sublist p).length_le

theorem length_afterBlanks? {text rest : List Char} (h : afterBlanks? text = some rest) :
    rest.length < text.length := by
  cases text with
  | nil => simp [afterBlanks?] at h
  | cons c more =>
    simp only [afterBlanks?] at h
    split at h
    · obtain rfl := Option.some.inj h
      exact Nat.lt_succ_of_le (length_dropWhile_le _ _)
    · simp at h

theorem length_afterArgument? {text rest : List Char} (h : afterArgument? text = some rest) :
    rest.length ≤ text.length := by
  unfold afterArgument? at h
  split at h
  · rename_i more
    have hl := length_dropWhile_le (fun c => !decide (c = ')')) more
    cases hd : more.dropWhile (fun c => !decide (c = ')')) with
    | nil => simp [hd] at h
    | cons d tail =>
      rw [hd] at hl
      obtain rfl : tail = rest := by simpa [hd] using h
      simp only [List.length_cons] at hl ⊢
      omega
  · exact (Option.some.inj h) ▸ Nat.le_refl _

/-- An attribute takes at least one character away. -/
theorem length_afterAttribute? {text rest : List Char} (h : afterAttribute? text = some rest) :
    rest.length < text.length := by
  unfold afterAttribute? at h
  split at h
  · rename_i c more
    split at h
    · obtain ⟨mid, hm, hb⟩ := Option.bind_eq_some_iff.1 h
      have h1 := length_afterBlanks? hb
      have h2 := length_afterArgument? hm
      have h3 := length_dropWhile_le continuesAttribute more
      simp only [List.length_cons]
      omega
    · simp at h
  · simp at h

/-- The text after all attributes that it starts with. -/
def skipAttributes (text : List Char) : List Char :=
  match _h : afterAttribute? text with
  | some rest => skipAttributes rest
  | none => text
termination_by text.length
decreasing_by exact length_afterAttribute? _h

/-- The text after an access level, if it starts with one. -/
def skipAccess (text : List Char) : List Char :=
  (accessWords.findSome? fun word => afterWord? word text).getD text

/-! ### Import lines -/

/-- The name that an import line's text after the import word gives, past a kind word or without
one. -/
def importedName? (text : List Char) : Option (List Char) :=
  ((kindWords.findSome? fun word => afterWord? word text).bind wholeName?).or (wholeName? text)

/-- The module that an import line names. -/
def importTarget? (text : List Char) : Option (List Char) :=
  (afterWord? importWord (skipAccess (skipAttributes text))).bind importedName?

/-! ### Lines -/

/-- What one line of a header says. -/
inductive Line where
  /-- Nothing but blanks. -/
  | blank
  /-- A comment, or the part of a block comment that a line can show. -/
  | comment
  /-- An import of the named module. -/
  | importing (module : String)
  /-- Anything else, which ends the header. -/
  | code
  deriving Repr, DecidableEq

/-- Whether a trimmed line is a comment: a line comment, or the start, the end or a starred line of
a block comment. -/
def isComment : List Char → Bool
  | '/' :: '/' :: _ => true
  | '/' :: '*' :: _ => true
  | '*' :: _ => true
  | _ => false

/-- What a line says. The import word is not taken for a module. -/
def Line.classify (line : List Char) : Line :=
  let text := trim line
  if text = [] then .blank
  else if isComment text then .comment
  else
    match importTarget? text with
    | some name => if name = importWord then .code else .importing (String.ofList name)
    | none => .code

/-- The module that a line imports. -/
def Line.module? : Line → Option String
  | .importing module => some module
  | _ => none

end ImportAtlas.Header
