import Std.Data.HashSet
import ImportAtlas.Regex.Program
import ImportAtlas.Unicode.Property

/-!
# Searching a text

Running a program on a text. Of several matches the one that begins first counts, and of those the
one whose choices come first.

## Main definitions

* `ImportAtlas.Regex.Look.holds`: the places in a text.
* `ImportAtlas.Regex.Thread`: a way through the program and the text that is still to be tried.
* `ImportAtlas.Regex.search`: the notes of the match that counts.

## Design

The threads are tried in their order, each with all that it leads to before the next. A pair of
positions that was tried once has failed, or it would have ended the search; so it is not tried
again, and the number of such pairs bounds the search.
-/

namespace ImportAtlas.Regex

open Unicode

/-! ### Places -/

/-- Whether a character belongs to words. -/
def isWordChar (unicode : Bool) (c : Char) : Bool :=
  if unicode then wordSet.contains c else c.isAlphanum || c == '_'

/-- Whether the character before a position belongs to words. -/
def wordBefore (unicode : Bool) (text : Array Char) (pos : Nat) : Bool :=
  pos != 0 && (text[pos - 1]?).any (isWordChar unicode)

/-- Whether the character after a position belongs to words. -/
def wordAfter (unicode : Bool) (text : Array Char) (pos : Nat) : Bool :=
  (text[pos]?).any (isWordChar unicode)

/-- Whether the character before a position is `c`. -/
def isBefore (c : Char) (text : Array Char) (pos : Nat) : Bool :=
  pos != 0 && text[pos - 1]? == some c

/-- Whether the character after a position is `c`. -/
def isAfter (c : Char) (text : Array Char) (pos : Nat) : Bool := text[pos]? == some c

/-- Whether a position of a text is such a place. -/
def Look.holds (text : Array Char) (pos : Nat) : Look → Bool
  | .textStart => pos == 0
  | .textEnd => pos == text.size
  | .lineStart => pos == 0 || isBefore '\n' text pos
  | .lineEnd => pos == text.size || isAfter '\n' text pos
  | .crlfStart =>
    pos == 0 || isBefore '\n' text pos || (isBefore '\r' text pos && !isAfter '\n' text pos)
  | .crlfEnd =>
    pos == text.size || isAfter '\r' text pos || (isAfter '\n' text pos && !isBefore '\r' text pos)
  | .boundary u => wordBefore u text pos != wordAfter u text pos
  | .noBoundary u => wordBefore u text pos == wordAfter u text pos
  | .wordStart u => !wordBefore u text pos && wordAfter u text pos
  | .wordEnd u => wordBefore u text pos && !wordAfter u text pos
  | .wordStartHalf u => !wordBefore u text pos
  | .wordEndHalf u => !wordAfter u text pos

/-! ### Threads -/

/-- A way through the program and the text that is still to be tried. -/
structure Thread where
  /-- The position in the program. -/
  address : Nat
  /-- The position in the text. -/
  pos : Nat
  /-- The positions noted on the way, each with its number, the latest first. -/
  notes : List (Nat × Nat)
  deriving Repr

/-- The threads that a thread leads to with an instruction, in the order in which they are to be
tried. -/
def Thread.step (text : Array Char) (t : Thread) : Instr → List Thread
  | .take set =>
    match text[t.pos]? with
    | some c => if set.contains c then [⟨t.address + 1, t.pos + 1, t.notes⟩] else []
    | none => []
  | .ask kind => if kind.holds text t.pos then [{ t with address := t.address + 1 }] else []
  | .note slot => [⟨t.address + 1, t.pos, (slot, t.pos) :: t.notes⟩]
  | .fork first second => [{ t with address := first }, { t with address := second }]
  | .jump target => [{ t with address := target }]
  | .accept => []

/-- Try threads in their order until one accepts. `tried` holds the pairs of positions that were
tried before. -/
def searchFrom (program : Array Instr) (text : Array Char) :
    Nat → Std.HashSet (Nat × Nat) → List Thread → Option (List (Nat × Nat))
  | 0, _, _ => none
  | _ + 1, _, [] => none
  | fuel + 1, tried, t :: rest =>
    if tried.contains (t.address, t.pos) then searchFrom program text fuel tried rest
    else
      match program[t.address]? with
      | none => searchFrom program text fuel tried rest
      | some .accept => some t.notes
      | some instr =>
        searchFrom program text fuel (tried.insert (t.address, t.pos)) (t.step text instr ++ rest)

/-- The notes of the match that counts. The search begins at every position of the text, from the
first to the last. -/
def search (program : Array Instr) (text : Array Char) : Option (List (Nat × Nat)) :=
  let starts := (List.range (text.size + 1)).map fun pos => (⟨0, pos, []⟩ : Thread)
  searchFrom program text (3 * (program.size + 1) * (text.size + 1) + 1) ∅ starts

end ImportAtlas.Regex
