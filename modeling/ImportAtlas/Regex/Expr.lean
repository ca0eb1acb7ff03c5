import ImportAtlas.Unicode.CharSet

/-!
# Expressions

What a pattern means, with flags, names of properties and letter case worked out: sets of
characters, places in the text, and the ways to put them together.

## Main definitions

* `ImportAtlas.Regex.Look`: the places that an expression can ask for.
* `ImportAtlas.Regex.Expr`: the expressions.
* `ImportAtlas.Regex.Expr.choice`, `ImportAtlas.Regex.Expr.sequence`,
  `ImportAtlas.Regex.Expr.times`: the ways to put expressions together, in their simplest form.
* `ImportAtlas.Regex.Expr.captures`: the highest number of a group.
-/

namespace ImportAtlas.Regex

open Unicode

/-- A place in a text. Words are those of Unicode or of ASCII, as the flag says. -/
inductive Look where
  /-- The start of the text. -/
  | textStart
  /-- The end of the text. -/
  | textEnd
  /-- The start of a line, after a line feed. -/
  | lineStart
  /-- The end of a line, before a line feed. -/
  | lineEnd
  /-- The start of a line, where a carriage return ends one too. -/
  | crlfStart
  /-- The end of a line, where a carriage return ends one too. -/
  | crlfEnd
  /-- The edge of a word. -/
  | boundary (unicode : Bool)
  /-- No edge of a word. -/
  | noBoundary (unicode : Bool)
  /-- The start of a word. -/
  | wordStart (unicode : Bool)
  /-- The end of a word. -/
  | wordEnd (unicode : Bool)
  /-- No word before. -/
  | wordStartHalf (unicode : Bool)
  /-- No word after. -/
  | wordEndHalf (unicode : Bool)
  deriving Repr, DecidableEq

/-- A regular expression by its meaning. -/
inductive Expr where
  /-- The empty text. -/
  | empty
  /-- One character of a set. -/
  | chars (set : CharSet)
  /-- The empty text at a place. -/
  | look (kind : Look)
  /-- One expression after another. -/
  | seq (first second : Expr)
  /-- One expression or another, the first before the second. -/
  | alt (first second : Expr)
  /-- An expression some number of times, as often as possible first or as seldom. -/
  | repetition (least : Nat) (most : Option Nat) (greedy : Bool) (body : Expr)
  /-- An expression whose text is kept under a number. -/
  | capture (index : Nat) (body : Expr)
  deriving Repr, DecidableEq

namespace Expr

/-- Whether an expression can match the empty text alone. -/
def alwaysEmpty : Expr → Bool
  | .empty => true
  | .chars _ => false
  | .look _ => true
  | .seq a b => a.alwaysEmpty && b.alwaysEmpty
  | .alt a b => a.alwaysEmpty && b.alwaysEmpty
  | .repetition _ most _ body => most.isSome && body.alwaysEmpty
  | .capture _ body => body.alwaysEmpty

/-- Whether an expression can match the empty text. -/
def nullable : Expr → Bool
  | .empty => true
  | .chars _ => false
  | .look _ => true
  | .seq a b => a.nullable && b.nullable
  | .alt a b => a.nullable || b.nullable
  | .repetition least _ _ body => least == 0 || body.nullable
  | .capture _ body => body.nullable

/-- The highest number of a group, or zero. -/
def captures : Expr → Nat
  | .seq a b => max a.captures b.captures
  | .alt a b => max a.captures b.captures
  | .repetition _ _ _ body => body.captures
  | .capture index body => max index body.captures
  | _ => 0

/-! ### Putting expressions together -/

/-- The branches of an expression that is a choice, its choices included. -/
def branches : Expr → List Expr
  | .alt a b => a.branches ++ b.branches
  | e => [e]

/-- The set of an expression that is one. -/
def set? : Expr → Option CharSet
  | .chars set => some set
  | _ => none

/-- The choice between some expressions. Sets of characters make one set. -/
def choice (options : List Expr) : Expr :=
  let all := options.flatMap branches
  match all.mapM set? with
  | some sets => .chars (sets.foldl CharSet.union .empty)
  | none =>
    match all.reverse with
    | [] => .chars .empty
    | last :: before => before.foldl (fun e b => .alt b e) last

/-- Whether an expression is the empty text. -/
def isEmpty : Expr → Bool
  | .empty => true
  | _ => false

/-- Some expressions one after the other. -/
def sequence (parts : List Expr) : Expr :=
  match (parts.filter fun p => !p.isEmpty).reverse with
  | [] => .empty
  | last :: before => before.foldl (fun e p => .seq p e) last

/-- An expression some number of times. Of the empty text once is enough, and what stands no time
at all is empty, groups included. -/
def times (least : Nat) (most : Option Nat) (greedy : Bool) (body : Expr) : Expr :=
  let (least, most) :=
    if body.alwaysEmpty then (min least 1, some (min (most.getD 1) 1)) else (least, most)
  if least = 0 ∧ most = some 0 then .empty
  else if least = 1 ∧ most = some 1 then body
  else .repetition least most greedy body

end Expr

end ImportAtlas.Regex
