/-!
# Wildcards of ignore files

The wildcards of a line in an ignore file, and the paths that they match. A path is matched as
bytes, so a question mark takes one byte, and a class is the set of the bytes that its characters
are written with.

## Main definitions

* `ImportAtlas.Ignore.Token`: the parts of a wildcard.
* `ImportAtlas.Ignore.parseGlob`: the parts of a text.
* `ImportAtlas.Ignore.Token.rests`: what a part leaves of a path.
* `ImportAtlas.Ignore.matchesPath`: whether a list of parts matches a whole path.

## Design

Two stars stand for directories only between slashes or at an end; elsewhere they are two single
stars. A class without an end is no class, and from then on an opening bracket stands for itself.
-/

namespace ImportAtlas.Ignore

/-- The slash as a byte. -/
def slash : UInt8 := 0x2F

/-- A part of a wildcard. -/
inductive Token where
  /-- A character. -/
  | literal (c : Char)
  /-- One byte that is no slash. -/
  | any
  /-- Any run of bytes without a slash. -/
  | star
  /-- Any directories at the start. -/
  | leading
  /-- Everything below. -/
  | trailing
  /-- A slash, or directories between two slashes. -/
  | between
  /-- One byte in, or not in, the ranges. -/
  | oneOf (negated : Bool) (ranges : List (Char × Char))
  /-- One of several wildcards. -/
  | choice (branches : List (List Token))
  deriving Inhabited

/-- Why a text is no wildcard. -/
inductive GlobError where
  /-- A backslash ends the text. -/
  | danglingEscape
  /-- A range in a class is out of order. -/
  | badRange
  /-- A brace closes nothing. -/
  | unopenedBrace
  /-- A brace is not closed. -/
  | unclosedBrace
  deriving Repr, DecidableEq

/-! ### Reading -/

/-- The state of reading the inside of a class: the ranges, last first, whether nothing was read
yet, and whether a hyphen waits for the end of a range. -/
structure ClassReader where
  /-- The ranges so far, last first. -/
  ranges : List (Char × Char)
  /-- Whether nothing was read yet. -/
  atStart : Bool
  /-- Whether a hyphen waits for the end of a range. -/
  inRange : Bool

/-- The state with the last range going up to a character. -/
def ClassReader.extend (r : ClassReader) (c : Char) : Except GlobError ClassReader :=
  match r.ranges with
  | (low, _) :: rest => if c < low then .error .badRange else .ok ⟨(low, c) :: rest, false, false⟩
  | [] => .ok ⟨[(c, c)], false, false⟩

/-- The ranges of a class from a position inside it on, and the text after it; nothing if the class
has no end. -/
def readClass (r : ClassReader) :
    List Char → Except GlobError (Option (List (Char × Char) × List Char))
  | [] => .ok none
  | c :: rest =>
    if c = ']' ∧ r.atStart = false then
      let ranges := if r.inRange then ('-', '-') :: r.ranges else r.ranges
      .ok (some (ranges.reverse, rest))
    else if r.inRange then
      match r.extend c with
      | .ok next => readClass next rest
      | .error e => .error e
    else if c = '-' ∧ r.atStart = false then readClass { r with inRange := true } rest
    else readClass ⟨(c, c) :: r.ranges, false, false⟩ rest

/-- The state of reading a wildcard. -/
structure GlobReader where
  /-- The text from here on. -/
  rest : List Char
  /-- The character before it. -/
  last : Option Char
  /-- The parts of the branch under way, last first. -/
  parts : List Token
  /-- The branches and parts outside it: for each open brace the branches before this one, last
  first, and the parts before the brace, last first. -/
  outer : List (List (List Token) × List Token)
  /-- Whether a class without an end was met. -/
  bracketsLiteral : Bool

namespace GlobReader

/-- The state with one more part, read up to a text. -/
def push (r : GlobReader) (token : Token) (last : Char) (rest : List Char) : GlobReader :=
  { r with parts := token :: r.parts, rest := rest, last := some last }

/-- The state after two stars that stand for themselves. -/
def pushStars (r : GlobReader) (rest : List Char) : GlobReader :=
  { r with parts := .star :: .star :: r.parts, rest := rest, last := some '*' }

/-- The state after two stars and the slash that goes with them, the slash before them being taken
over by the part that they make. -/
def pushDirectories (r : GlobReader) (token : Token) (last : Char) (rest : List Char) :
    GlobReader :=
  let parts := match r.parts with
    | .leading :: before => .leading :: before
    | .trailing :: before => .trailing :: before
    | _ :: before => token :: before
    | [] => [token]
  { r with parts := parts, rest := rest, last := some last }

/-- The state after two stars, before `rest`. -/
def readStars (r : GlobReader) (rest : List Char) : GlobReader :=
  if r.parts.isEmpty then
    match rest with
    | [] => r.push .leading '*' []
    | '/' :: more => r.push .leading '/' more
    | _ => r.pushStars rest
  else if r.last = some '/' ∨ (!r.outer.isEmpty ∧ (r.last = some ',' ∨ r.last = some '\x7b')) then
    match rest with
    | [] => r.pushDirectories .trailing '*' []
    | '/' :: more => r.pushDirectories .between '/' more
    | c :: _ =>
      if !r.outer.isEmpty ∧ (c = ',' ∨ c = '\x7d') then r.pushDirectories .trailing '*' rest
      else r.pushStars rest
  else r.pushStars rest

/-- The state after a class, or after an opening bracket that stands for itself. -/
def readBracket (r : GlobReader) (inside : List Char) : Except GlobError GlobReader :=
  let (negated, start) := match inside with
    | '!' :: rest => (true, rest)
    | '^' :: rest => (true, rest)
    | _ => (false, inside)
  match readClass ⟨[], true, false⟩ start with
  | .error e => .error e
  | .ok (some (ranges, rest)) => .ok (r.push (.oneOf negated ranges) ']' rest)
  | .ok none => .ok { r.push (.literal '[') '[' inside with bracketsLiteral := true }

/-- The state after a brace closes. -/
def closeBrace (r : GlobReader) (rest : List Char) : Except GlobError GlobReader :=
  match r.outer with
  | [] => .error .unopenedBrace
  | (branches, before) :: outer => .ok
    { r with
      parts := .choice (r.parts.reverse :: branches).reverse :: before
      outer := outer
      rest := rest
      last := some '\x7d' }

/-- The state after one character, or what belongs to it. -/
def step (r : GlobReader) : Except GlobError GlobReader :=
  match r.rest with
  | [] => .ok r
  | '?' :: rest => .ok (r.push .any '?' rest)
  | '*' :: '*' :: rest => .ok (r.readStars rest)
  | '*' :: rest => .ok (r.push .star '*' rest)
  | '\x7b' :: rest => .ok
    { r with parts := [], outer := ([], r.parts) :: r.outer, rest := rest, last := some '\x7b' }
  | '\x7d' :: rest => r.closeBrace rest
  | ',' :: rest =>
    match r.outer with
    | [] => .ok (r.push (.literal ',') ',' rest)
    | (branches, before) :: outer => .ok
      { r with
        parts := []
        outer := (r.parts.reverse :: branches, before) :: outer
        rest := rest
        last := some ',' }
  | '\\' :: c :: rest => .ok (r.push (.literal c) c rest)
  | ['\\'] => .error .danglingEscape
  | c :: rest =>
    if c = '[' ∧ r.bracketsLiteral = false then r.readBracket rest
    else .ok (r.push (.literal c) c rest)

/-- The state at the end of the text. -/
def run : Nat → GlobReader → Except GlobError GlobReader
  | 0, r => .ok r
  | n + 1, r =>
    match r.step with
    | .ok next => run n next
    | .error e => .error e

end GlobReader

/-- The parts of a wildcard's text. -/
def parseGlob (text : List Char) : Except GlobError (List Token) :=
  match (⟨text, none, [], [], false⟩ : GlobReader).run text.length with
  | .ok r => if r.outer.isEmpty then .ok r.parts.reverse else .error .unclosedBrace
  | .error e => .error e

/-! ### Matching -/

/-- The ranges of bytes of a class. Of a range only the byte between its two ends is a range; the
other bytes of its ends stand for themselves. -/
def byteRangesOf (range : Char × Char) : List (UInt8 × UInt8) :=
  let low := String.utf8EncodeChar range.1
  let high := String.utf8EncodeChar range.2
  if range.1 = range.2 then low.map fun b => (b, b)
  else
    low.dropLast.map (fun b => (b, b)) ++
      [(low.getLast?.getD 0, high.head?.getD 0)] ++ high.tail.map fun b => (b, b)

/-- Whether a byte is in a class. -/
def inClass (negated : Bool) (ranges : List (Char × Char)) (b : UInt8) : Bool :=
  negated != (ranges.flatMap byteRangesOf).any fun r => r.1 ≤ b && b ≤ r.2

/-- All that can be left of a path after some of its bytes. -/
def suffixes : List UInt8 → List (List UInt8)
  | [] => [[]]
  | b :: rest => (b :: rest) :: suffixes rest

/-- All that can be left of a path after some bytes that are no slashes. -/
def suffixesInName : List UInt8 → List (List UInt8)
  | [] => [[]]
  | b :: rest => (b :: rest) :: if b = slash then [] else suffixesInName rest

/-- All that can be left of a path after one of its slashes. -/
def afterSlashes : List UInt8 → List (List UInt8)
  | [] => []
  | b :: rest => if b = slash then rest :: afterSlashes rest else afterSlashes rest

/-- What is left of a path after some bytes that it starts with. -/
def afterBytes : List UInt8 → List UInt8 → List (List UInt8)
  | [], path => [path]
  | b :: bytes, c :: path => if b = c then afterBytes bytes path else []
  | _ :: _, [] => []

mutual

/-- Whether a part matches the empty text alone, being a choice without anything to choose. -/
def Token.isVoid : Token → Bool
  | .choice branches => Token.allVoid branches
  | _ => false

/-- Whether the parts of all branches match the empty text alone. -/
def Token.allVoid : List (List Token) → Bool
  | [] => true
  | branch :: rest => Token.branchVoid branch && Token.allVoid rest

/-- Whether all parts of a branch match the empty text alone. -/
def Token.branchVoid : List Token → Bool
  | [] => true
  | token :: rest => token.isVoid && Token.branchVoid rest

end

mutual

/-- All that a part can leave of a path. -/
def Token.rests : Token → List UInt8 → List (List UInt8)
  | .literal c, path => afterBytes (String.utf8EncodeChar c) path
  | .any, b :: path => if b = slash then [] else [path]
  | .any, [] => []
  | .star, path => suffixesInName path
  | .leading, path => path :: afterSlashes path
  | .trailing, b :: path => if b = slash then suffixes path else []
  | .trailing, [] => []
  | .between, b :: path => if b = slash then path :: afterSlashes path else []
  | .between, [] => []
  | .oneOf negated ranges, b :: path => if inClass negated ranges b then [path] else []
  | .oneOf _ _, [] => []
  | .choice branches, path =>
    if Token.allVoid branches then [path] else Token.branchRests branches path

/-- All that one of several branches can leave of a path. Empty branches do not count. -/
def Token.branchRests : List (List Token) → List UInt8 → List (List UInt8)
  | [], _ => []
  | branch :: rest, path =>
    (if Token.branchVoid branch then [] else Token.listRests branch [path]) ++
      Token.branchRests rest path

/-- All that parts, one after the other, can leave of one of several paths. -/
def Token.listRests : List Token → List (List UInt8) → List (List UInt8)
  | [], paths => paths
  | token :: rest, paths => Token.listRests rest (paths.flatMap token.rests).eraseDups

end

/-- Whether a list of parts matches a whole path. Directories at the start alone match every
path. -/
def matchesPath (tokens : List Token) (path : List UInt8) : Bool :=
  match tokens with
  | [.leading] => true
  | _ => (Token.listRests tokens [path]).any List.isEmpty

end ImportAtlas.Ignore
