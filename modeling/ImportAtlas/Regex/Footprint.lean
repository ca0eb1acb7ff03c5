import ImportAtlas.Regex.Expr

/-!
# The size of an expression

How much room the byte automata of an expression take, one that reads forward and one that reads
backward. An expression whose automata would take more than ten mebibytes is refused.

The sizes follow from how an automaton is put together. A state takes 32 bytes, each alternative
of a choice another 4 and each transition of a state with several another 8. A repetition with
bounds holds a copy of its body for each time.

## Main definitions

* `ImportAtlas.Regex.byteRanges`: the sequences of byte ranges that encode a range of characters.
* `ImportAtlas.Regex.CharSet.forwardSize`, `ImportAtlas.Regex.CharSet.backwardSize`: the room of a
  set of characters.
* `ImportAtlas.Regex.Expr.size`: the room of an expression.
* `ImportAtlas.Regex.Expr.fits`: whether both automata stay within the limit.

## Design

The size is worked out on the expression, without building the copies of a repetition.
-/

namespace ImportAtlas.Regex

open Unicode

/-! ### Byte ranges -/

/-- A range of bytes with both ends included. -/
abbrev ByteRange := Nat × Nat

/-- The bytes that encode a code point. -/
def encodeScalar (n : Nat) : List Nat :=
  if n < 0x80 then [n]
  else if n < 0x800 then [0xC0 + n / 64, 0x80 + n % 64]
  else if n < 0x10000 then [0xE0 + n / 4096, 0x80 + n / 64 % 64, 0x80 + n % 64]
  else [0xF0 + n / 262144, 0x80 + n / 4096 % 64, 0x80 + n / 64 % 64, 0x80 + n % 64]

/-- The last code point of the first part, if a range holds encodings of two lengths. -/
def lengthCut? (low high : Nat) : Option Nat :=
  [0x7F, 0x7FF, 0xFFFF].find? fun m => low ≤ m && m < high

/-- The last code point of the first part, if the encodings in a range are not all combinations of
bytes between those of its ends. -/
def blockCut? (low high : Nat) : Option Nat :=
  [64, 4096, 262144].findSome? fun block =>
    if low / block = high / block then none
    else if low % block ≠ 0 then some (low / block * block + (block - 1))
    else if high % block ≠ block - 1 then some (high / block * block - 1)
    else none

/-- The sequences of byte ranges that encode a range of characters, in ascending order. -/
def byteRanges : Nat → Nat → Nat → List (List ByteRange)
  | 0, _, _ => []
  | fuel + 1, low, high =>
    match (lengthCut? low high).or (if high < 0x80 then none else blockCut? low high) with
    | some cut => byteRanges fuel low cut ++ byteRanges fuel (cut + 1) high
    | none => [(encodeScalar low).zip (encodeScalar high)]

/-- The sequences of byte ranges that encode the characters of a set. -/
def setByteRanges (set : CharSet) : List (List ByteRange) :=
  set.ranges.flatMap fun r => byteRanges 64 r.1 r.2

/-! ### Sets -/

/-- Sequences grouped by their first range, without it. -/
def groupTails (sequences : List (List ByteRange)) : List (List (List ByteRange)) :=
  (sequences.splitBy fun a b => a.head? == b.head?).map fun g => g.map List.tail

/-- The states of the trie of some sequences, each as the sequences that lead on from it. -/
def trieStates : Nat → List (List ByteRange) → List (List (List ByteRange))
  | 0, _ => []
  | n + 1, sequences =>
    if sequences.all List.isEmpty then []
    else sequences :: (groupTails sequences).flatMap (trieStates n)

/-- The room of a set whose members are all ASCII: one state. -/
def asciiSize (set : CharSet) : Nat := 64 + 8 * set.ranges.length

/-- The room of a character that is no set: a state for each byte. -/
def charSize (c : Char) : Nat := 32 * (encodeScalar c.toNat).length

/-- The room of a set in the forward automaton: the trie of its byte sequences, equal states being
one. -/
def CharSet.forwardSize (set : CharSet) : Nat :=
  match set.single? with
  | some c => charSize c
  | none =>
    if set.ranges.isEmpty then 32
    else if set.isAscii then asciiSize set
    else
      let states := (trieStates 5 (setByteRanges set)).eraseDups
      states.foldl (fun n s => n + (32 + 8 * (groupTails s).length)) 32

/-- The room of a set in the backward automaton: a choice between its byte sequences, which share
what they have in common at their start. -/
def CharSet.backwardSize (set : CharSet) : Nat :=
  match set.single? with
  | some c => charSize c
  | none =>
    if set.ranges.isEmpty then 32
    else if set.isAscii then asciiSize set
    else
      let sequences := setByteRanges set
      let starts := sequences.flatMap fun s => (List.range s.length).map fun n => s.take (n + 1)
      64 + 4 * sequences.length + 32 * starts.eraseDups.length

/-! ### Expressions -/

/-- The direction in which an automaton reads. -/
inductive Reading where
  /-- From the start to the end; groups are noted. -/
  | forward
  /-- From the end to the start; groups are not noted. -/
  | backward
  deriving Repr, DecidableEq

/-- The room of a repetition whose body takes `body`. -/
def repetitionSize (least : Nat) (most : Option Nat) (nullable : Bool) (body : Nat) : Nat :=
  match most with
  | none =>
    if least = 0 then if nullable then body + 112 else body + 40
    else least * body + 40
  | some most =>
    if least = 0 ∧ most = 1 then body + 72
    else if least = most then if least = 0 then 32 else least * body
    else least * body + (if least = 0 then 32 else 0) + (most - least) * (body + 40) + 32

namespace Expr

/-- How many branches a choice has. -/
def width : Expr → Nat
  | .alt a b => a.width + b.width
  | _ => 1

/-- The room of the frame of a choice: a state with its alternatives and a state at the end. -/
def choiceFrame : Expr → Nat
  | .alt a b => 64 + 4 * (a.width + b.width)
  | _ => 0

/-- The room of an expression, that of a choice without its frame. -/
def innerSize (reading : Reading) : Expr → Nat
  | .empty => 32
  | .chars set =>
    match reading with
    | .forward => CharSet.forwardSize set
    | .backward => CharSet.backwardSize set
  | .look _ => 32
  | .seq a b => a.innerSize reading + a.choiceFrame + (b.innerSize reading + b.choiceFrame)
  | .alt a b => a.innerSize reading + b.innerSize reading
  | .repetition least most _ body =>
    repetitionSize least most body.nullable (body.innerSize reading + body.choiceFrame)
  | .capture _ body =>
    match reading with
    | .forward => body.innerSize reading + body.choiceFrame + 64
    | .backward => body.innerSize reading + body.choiceFrame

/-- The room of an expression. -/
def size (reading : Reading) (e : Expr) : Nat := e.innerSize reading + e.choiceFrame

/-- The greatest room that an automaton may take. -/
def sizeLimit : Nat := 10 * 1024 * 1024

/-- Whether an expression matches only at the start of a text. -/
def startsText : Expr → Bool
  | .look .textStart => true
  | .seq a b => a.startsText || (a.alwaysEmpty && b.startsText)
  | .alt a b => a.startsText && b.startsText
  | .repetition least _ _ body => least != 0 && body.startsText
  | .capture _ body => body.startsText
  | _ => false

/-- Whether an expression matches only up to the end of a text. -/
def endsText : Expr → Bool
  | .look .textEnd => true
  | .seq a b => b.endsText || (b.alwaysEmpty && a.endsText)
  | .alt a b => a.endsText && b.endsText
  | .repetition least _ _ body => least != 0 && body.endsText
  | .capture _ body => body.endsText
  | _ => false

/-- The room of the states around an expression: the search for a place to begin, unless there is
only one, the group of the whole match and the final state. -/
def frameSize (e : Expr) (reading : Reading) : Nat :=
  match reading with
  | .forward => (if e.startsText then 32 else 112) + 96
  | .backward => (if e.endsText then 32 else 112) + 32

/-- Whether both automata stay within the limit. -/
def fits (e : Expr) : Bool :=
  e.size .forward + e.frameSize .forward ≤ sizeLimit &&
    e.size .backward + e.frameSize .backward ≤ sizeLimit

end Expr

end ImportAtlas.Regex
