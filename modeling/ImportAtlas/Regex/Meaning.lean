import ImportAtlas.Regex.Error
import ImportAtlas.Regex.Expr
import ImportAtlas.Regex.Pattern.Basic
import ImportAtlas.Unicode.Property

/-!
# The meaning of patterns

The expression of a pattern. Flags run through the pattern from left to right, over branches too,
and end with the group that changed them.

## Main definitions

* `ImportAtlas.Regex.Flags`: the flags at a place of a pattern.
* `ImportAtlas.Regex.ClassItem.meaning`, `ImportAtlas.Regex.ClassSet.meaning`: the sets of bracketed
  classes.
* `ImportAtlas.Regex.Pattern.meaning`: the expression of a pattern.

## Design

Without the Unicode flag a class has to stay within ASCII, because a match must not end inside a
character. So the complement of a class is refused there, and so is the dot.
-/

namespace ImportAtlas.Regex

open Unicode

/-! ### Flags -/

/-- The flags at a place of a pattern. -/
structure Flags where
  /-- Letter case does not count. -/
  ignoreCase : Bool := false
  /-- The line anchors hold at every line. -/
  multiLine : Bool := false
  /-- The dot takes line feeds too. -/
  dotAll : Bool := false
  /-- Repetitions swap greedy and lazy. -/
  swapGreed : Bool := false
  /-- Characters are those of Unicode. -/
  unicode : Bool := true
  /-- A carriage return ends a line too. -/
  crlf : Bool := false
  deriving Repr, DecidableEq

/-- The flags after a change. -/
def Flags.apply (flags : Flags) (change : FlagChange) : Flags where
  ignoreCase := (change.state? .ignoreCase).getD flags.ignoreCase
  multiLine := (change.state? .multiLine).getD flags.multiLine
  dotAll := (change.state? .dotAll).getD flags.dotAll
  swapGreed := (change.state? .swapGreed).getD flags.swapGreed
  unicode := (change.state? .unicode).getD flags.unicode
  crlf := (change.state? .crlf).getD flags.crlf

/-! ### Sets -/

/-- The ranges of a class with a name between colons. -/
def AsciiClass.set : AsciiClass → CharSet
  | .alnum => ⟨[(0x30, 0x39), (0x41, 0x5A), (0x61, 0x7A)]⟩
  | .alpha => ⟨[(0x41, 0x5A), (0x61, 0x7A)]⟩
  | .ascii => ⟨[(0, 0x7F)]⟩
  | .blank => ⟨[(0x9, 0x9), (0x20, 0x20)]⟩
  | .cntrl => ⟨[(0, 0x1F), (0x7F, 0x7F)]⟩
  | .digit => ⟨[(0x30, 0x39)]⟩
  | .graph => ⟨[(0x21, 0x7E)]⟩
  | .lower => ⟨[(0x61, 0x7A)]⟩
  | .print => ⟨[(0x20, 0x7E)]⟩
  | .punct => ⟨[(0x21, 0x2F), (0x3A, 0x40), (0x5B, 0x60), (0x7B, 0x7E)]⟩
  | .space => ⟨[(0x9, 0xD), (0x20, 0x20)]⟩
  | .upper => ⟨[(0x41, 0x5A)]⟩
  | .word => ⟨[(0x30, 0x39), (0x41, 0x5A), (0x5F, 0x5F), (0x61, 0x7A)]⟩
  | .xdigit => ⟨[(0x30, 0x39), (0x41, 0x46), (0x61, 0x66)]⟩

/-- A set with letter case and a complement worked out, the case first. -/
def foldAndNegate (flags : Flags) (negated : Bool) (set : CharSet) : Except PatternError CharSet :=
  if flags.unicode then
    let folded := if flags.ignoreCase then set.foldCase else set
    .ok (if negated then folded.compl else folded)
  else
    let folded := if flags.ignoreCase then set.foldAsciiCase else set
    if negated ∨ !folded.isAscii then .error .splitsCharacters else .ok folded

/-- The set of a class with an escape of one letter, which is closed under letter case. -/
def ShortClass.set (kind : ShortClass) (flags : Flags) (negated : Bool) :
    Except PatternError CharSet :=
  if flags.unicode then
    let set := match kind with
      | .digit => digitSet
      | .blank => blankSet
      | .word => wordSet
    .ok (if negated then set.compl else set)
  else if negated then .error .splitsCharacters
  else .ok (match kind with
    | .digit => AsciiClass.digit.set
    | .blank => AsciiClass.space.set
    | .word => AsciiClass.word.set)

/-- The set of a property. -/
def PropertyName.set (name : PropertyName) (flags : Flags) (negated : Bool) :
    Except PatternError CharSet :=
  if flags.unicode then
    let found? := match name with
      | .alone name => named? name
      | .valued property value => valued? property value
    match found? with
    | some set => foldAndNegate flags negated set
    | none => .error .unknownProperty
  else .error .asciiOnly

/-- A character inside a class. -/
def classChar (flags : Flags) (c : Char) (byte : Bool) : Except PatternError Char :=
  if flags.unicode ∨ c.toNat < 0x80 then .ok c
  else if byte then .error .splitsCharacters
  else .error .asciiOnly

/-- A set as an operand of an operator: with letter case worked out. -/
def foldOperand (flags : Flags) (set : CharSet) : CharSet :=
  if flags.ignoreCase then if flags.unicode then set.foldCase else set.foldAsciiCase else set

mutual

/-- The set of a class item. -/
def ClassItem.meaning (flags : Flags) : ClassItem → Except PatternError CharSet
  | .empty => .ok .empty
  | .literal c byte => (classChar flags c byte).map CharSet.single
  | .range low lowByte high highByte => do
    let low ← classChar flags low lowByte
    let high ← classChar flags high highByte
    return .ofRanges [(low.toNat, high.toNat)]
  | .ascii kind negated => foldAndNegate flags negated kind.set
  | .short kind negated => kind.set flags negated
  | .property name negated => name.set flags negated
  | .bracketed negated set => do foldAndNegate flags negated (← set.meaning flags)
  | .union items => ClassItem.meanings flags items

/-- The union of the sets of class items. -/
def ClassItem.meanings (flags : Flags) : List ClassItem → Except PatternError CharSet
  | [] => .ok .empty
  | item :: rest => return (← item.meaning flags).union (← ClassItem.meanings flags rest)

/-- The set of what a bracketed class holds. -/
def ClassSet.meaning (flags : Flags) : ClassSet → Except PatternError CharSet
  | .item item => item.meaning flags
  | .inter left right => do
    let left ← left.meaning flags
    return (foldOperand flags left).inter (foldOperand flags (← right.meaning flags))
  | .diff left right => do
    let left ← left.meaning flags
    return (foldOperand flags left).diff (foldOperand flags (← right.meaning flags))
  | .symmDiff left right => do
    let left ← left.meaning flags
    return (foldOperand flags left).symmDiff (foldOperand flags (← right.meaning flags))

end

/-! ### Expressions -/

/-- The set of a character. -/
def literalSet (flags : Flags) (c : Char) (byte : Bool) : Except PatternError CharSet :=
  if flags.unicode then
    .ok (if flags.ignoreCase then (CharSet.single c).foldCase else .single c)
  else if byte ∧ 0x7F < c.toNat then .error .splitsCharacters
  else .ok (if flags.ignoreCase then (CharSet.single c).foldAsciiCase else .single c)

/-- The set of the dot. -/
def dotSet (flags : Flags) : Except PatternError CharSet :=
  if !flags.unicode then .error .splitsCharacters
  else if flags.dotAll then .ok .all
  else if flags.crlf then .ok (CharSet.compl ⟨[(0xA, 0xA), (0xD, 0xD)]⟩)
  else .ok (CharSet.compl ⟨[(0xA, 0xA)]⟩)

/-- The place that an anchor asks for. -/
def Anchor.look (flags : Flags) : Anchor → Look
  | .startLine =>
    if flags.multiLine then if flags.crlf then .crlfStart else .lineStart else .textStart
  | .endLine => if flags.multiLine then if flags.crlf then .crlfEnd else .lineEnd else .textEnd
  | .startText => .textStart
  | .endText => .textEnd
  | .boundary => .boundary flags.unicode
  | .noBoundary => .noBoundary flags.unicode
  | .wordStart => .wordStart flags.unicode
  | .wordEnd => .wordEnd flags.unicode
  | .wordStartHalf => .wordStartHalf flags.unicode
  | .wordEndHalf => .wordEndHalf flags.unicode

mutual

/-- The expression of a pattern, and the flags after it. -/
def Pattern.meaning (flags : Flags) : Pattern → Except PatternError (Expr × Flags)
  | .empty => .ok (.empty, flags)
  | .flags change => .ok (.empty, flags.apply change)
  | .literal c byte => do return (.chars (← literalSet flags c byte), flags)
  | .dot => do return (.chars (← dotSet flags), flags)
  | .anchor kind => .ok (.look (kind.look flags), flags)
  | .property name negated => do return (.chars (← name.set flags negated), flags)
  | .short kind negated => do return (.chars (← kind.set flags negated), flags)
  | .bracketed negated set => do
    return (.chars (← foldAndNegate flags negated (← set.meaning flags)), flags)
  | .repetition least most greedy body => do
    let (e, after) ← body.meaning flags
    return (.times least most (greedy != after.swapGreed) e, after)
  | .group (.capture index) body => do
    let (e, _) ← body.meaning flags
    return (.capture index e, flags)
  | .group (.plain change) body => do
    let (e, _) ← body.meaning (flags.apply change)
    return (e, flags)
  | .alternation branches => do
    let (es, after) ← Pattern.meanings flags branches
    return (.choice es, after)
  | .concat parts => do
    let (es, after) ← Pattern.meanings flags parts
    return (.sequence es, after)

/-- The expressions of some patterns from left to right, and the flags after them. -/
def Pattern.meanings (flags : Flags) : List Pattern → Except PatternError (List Expr × Flags)
  | [] => .ok ([], flags)
  | p :: rest => do
    let (e, between) ← p.meaning flags
    let (es, after) ← Pattern.meanings between rest
    return (e :: es, after)

end

end ImportAtlas.Regex
