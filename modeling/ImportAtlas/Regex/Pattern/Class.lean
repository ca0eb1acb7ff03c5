import ImportAtlas.Regex.Pattern.Escape

/-!
# Bracketed classes

Reading a class in brackets: characters, ranges, escapes, named classes and classes inside it, and
the three operators between sets. The operators bind alike and to the left.

## Main definitions

* `ImportAtlas.Regex.AsciiClass.ofName?`: the classes with a name between colons.
* `ImportAtlas.Regex.readClassItem`: a character, a range or an escape.
* `ImportAtlas.Regex.readBracket`: a whole class.

## Design

A hyphen stands for itself at the start of a class, before its end and before another hyphen, and
a closing bracket stands for itself if nothing is before it.
-/

namespace ImportAtlas.Regex

/-! ### Named classes -/

/-- The class of a name between colons. -/
def AsciiClass.ofName? (name : String) : Option AsciiClass :=
  [("alnum", alnum), ("alpha", alpha), ("ascii", ascii), ("blank", blank), ("cntrl", cntrl),
    ("digit", digit), ("graph", graph), ("lower", lower), ("print", print), ("punct", punct),
    ("space", space), ("upper", upper), ("word", word), ("xdigit", xdigit)].lookup name

/-- A named class at an opening bracket, and the text after it. -/
def readNamedClass? : List Char → Option (ClassItem × List Char)
  | '[' :: ':' :: text =>
    let (negated, name) := match text with
      | '^' :: more => (true, more)
      | _ => (false, text)
    match name.dropWhile (· ≠ ':') with
    | ':' :: ']' :: after =>
      (AsciiClass.ofName? (String.ofList (name.takeWhile (· ≠ ':')))).map fun kind =>
        (.ascii kind negated, after)
    | _ => none
  | _ => none

/-! ### Items -/

/-- An atom as an item of a class. A place in the text is none. -/
def Atom.classItem : Atom → Except PatternError ClassItem
  | .literal c byte => .ok (.literal c byte)
  | .property name negated => .ok (.property name negated)
  | .short kind negated => .ok (.short kind negated)
  | _ => .error .badClassItem

/-- The atom at a position inside a class: an escape, or a character that stands for itself. -/
def readClassAtom (cur : Cursor) : Except PatternError (Atom × Cursor) :=
  match cur.rest with
  | '\\' :: _ => readEscape cur
  | c :: rest => .ok (.literal c false, { cur with rest := rest })
  | [] => .error .unclosedClass

/-- The range between two atoms. -/
def rangeItem : Atom → Atom → Except PatternError ClassItem
  | .literal low lowByte, .literal high highByte =>
    if low ≤ high then .ok (.range low lowByte high highByte) else .error .badRange
  | _, _ => .error .badRange

/-- A character, a range or an escape, and the position after it. -/
def readClassItem (cur : Cursor) : Except PatternError (ClassItem × Cursor) := do
  let (first, after) ← readClassAtom cur
  let here := after.skip
  match here.char? with
  | none => .error .unclosedClass
  | some c =>
    if c ≠ '-' ∨ here.peekPast? = some ']' ∨ here.peekPast? = some '-' then
      return (← first.classItem, here)
    else if here.next.char?.isNone then .error .unclosedClass
    else
      let (last, afterLast) ← readClassAtom here.next
      return (← rangeItem first last, afterLast)

/-! ### Classes -/

/-- A set on the left of an operator, waiting for the set on its right. -/
abbrev Waiting := Option (ClassSet → ClassSet)

/-- The set of the items so far, joined with the one that waits for it. Items come last first. -/
def joinItems (waiting : Waiting) (items : List ClassItem) : ClassSet :=
  let set := ClassSet.item (.ofItems items.reverse)
  match waiting with
  | some operator => operator set
  | none => set

/-- The hyphens at a position, and the position after them. -/
def readHyphens : Nat → Cursor → List ClassItem × Cursor
  | 0, cur => ([], cur)
  | n + 1, cur =>
    if cur.char? = some '-' then
      let (items, after) := readHyphens n cur.next
      (.literal '-' false :: items, after)
    else ([], cur)

/-- What stands at the start of a class: whether it is negated, the characters that stand for
themselves only here, last first, and the position after them. -/
def readOpening (cur : Cursor) : Bool × List ClassItem × Cursor :=
  let opened := cur.next
  let negated := opened.char? == some '^'
  let (hyphens, after) := readHyphens cur.rest.length (if negated then opened.next else opened)
  if hyphens.isEmpty ∧ after.char? = some ']' then
    (negated, [.literal ']' false], after.next)
  else (negated, hyphens, after)

mutual

/-- The class at an opening bracket, and the position after it. -/
def readBracket : Nat → Cursor → Except PatternError ((Bool × ClassSet) × Cursor)
  | 0, _ => .error .unclosedClass
  | n + 1, cur => do
    let (negated, items, start) := readOpening cur
    let (set, after) ← readMembers n none items start
    return ((negated, set), after)

/-- The members of a class up to its closing bracket, given those before the position, and the
position after the bracket. -/
def readMembers : Nat → Waiting → List ClassItem → Cursor →
    Except PatternError (ClassSet × Cursor)
  | 0, _, _, _ => .error .unclosedClass
  | n + 1, waiting, items, cur =>
    let cur := cur.skip
    match cur.rest with
    | [] => .error .unclosedClass
    | '[' :: _ =>
      match readNamedClass? cur.rest with
      | some (item, after) => readMembers n waiting (item :: items) { cur with rest := after }
      | none => do
        let ((negated, set), after) ← readBracket n cur
        readMembers n waiting (.bracketed negated set :: items) after
    | ']' :: _ => .ok (joinItems waiting items, cur.drop)
    | '&' :: '&' :: _ => readMembers n (some (.inter (joinItems waiting items))) [] (cur.dropMany 2)
    | '-' :: '-' :: _ => readMembers n (some (.diff (joinItems waiting items))) [] (cur.dropMany 2)
    | '~' :: '~' :: _ =>
      readMembers n (some (.symmDiff (joinItems waiting items))) [] (cur.dropMany 2)
    | _ => do
      let (item, after) ← readClassItem cur
      readMembers n waiting (item :: items) after

end

end ImportAtlas.Regex
