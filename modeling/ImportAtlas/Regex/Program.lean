import ImportAtlas.Regex.Expr

/-!
# Programs

An expression as a program for a machine that goes through a text. The machine has a position in
the program and one in the text; at a fork it tries the first way and keeps the second for later.

## Main definitions

* `ImportAtlas.Regex.Instr`: the instructions.
* `ImportAtlas.Regex.Expr.codeLength`: how many instructions an expression takes.
* `ImportAtlas.Regex.Expr.code`: the instructions of an expression from an address on.
* `ImportAtlas.Regex.Expr.program`: those of a whole expression, with the group of the whole match.

## Design

Instructions name addresses, and the code of an expression starts at its first address and goes on
behind its last one. A repetition is written out: its body as often as it has to match, then either
a loop or one copy for each further time. A loop stands behind its body and asks whether to match
once more, so a body that matched the empty text does not run on for ever: the machine never takes
the same two positions twice.
-/

namespace ImportAtlas.Regex

open Unicode

/-- An instruction. After one that names no address the next one follows. -/
inductive Instr where
  /-- Take a character of the set. -/
  | take (set : CharSet)
  /-- Go on only at such a place. -/
  | ask (kind : Look)
  /-- Note the position in the text under a number. -/
  | note (slot : Nat)
  /-- Go on at the first address, or else at the second. -/
  | fork (first second : Nat)
  /-- Go on at an address. -/
  | jump (target : Nat)
  /-- The text matches. -/
  | accept
  deriving Repr, DecidableEq

namespace Expr

/-- A fork between a body and an exit: the body first if the repetition is greedy. -/
def forkTo (greedy : Bool) (body exit : Nat) : Instr :=
  if greedy then .fork body exit else .fork exit body

/-- The code of `n` copies of a body, one after the other. -/
def copies (body : Nat → List Instr) : Nat → Nat → List Instr
  | 0, _ => []
  | n + 1, start =>
    let first := body start
    first ++ copies body n (start + first.length)

/-- The code of up to `n` copies of a body, each of them behind a fork to the address `exit`. -/
def options (body : Nat → List Instr) (greedy : Bool) (exit : Nat) : Nat → Nat → List Instr
  | 0, _ => []
  | n + 1, start =>
    let first := body (start + 1)
    forkTo greedy (start + 1) exit :: first ++
      options body greedy exit n (start + 1 + first.length)

/-- The code of a body once and then any number of times: the body, and a fork back to it. -/
def loop (body : Nat → List Instr) (greedy : Bool) (start : Nat) : List Instr :=
  let once := body start
  let back := start + once.length
  once ++ [forkTo greedy start (back + 1)]

/-- How many instructions an expression takes. -/
def codeLength : Expr → Nat
  | .empty => 0
  | .chars _ => 1
  | .look _ => 1
  | .seq a b => a.codeLength + b.codeLength
  | .alt a b => a.codeLength + b.codeLength + 2
  | .repetition least most _ body =>
    match most with
    | none => if least = 0 then body.codeLength + 2 else least * body.codeLength + 1
    | some most => least * body.codeLength + (most - least) * (body.codeLength + 1)
  | .capture _ body => body.codeLength + 2

/-- The code of a repetition whose body takes `length` instructions. -/
def repeated (body : Nat → List Instr) (length : Nat) (least : Nat) (most : Option Nat)
    (greedy : Bool) (start : Nat) : List Instr :=
  match most with
  | none =>
    match least with
    | 0 =>
      let again := loop body greedy (start + 1)
      forkTo greedy (start + 1) (start + 1 + again.length) :: again
    | n + 1 =>
      let before := copies body n start
      before ++ loop body greedy (start + before.length)
  | some most =>
    let before := copies body least start
    let middle := start + before.length
    let exit := middle + (most - least) * (length + 1)
    before ++ options body greedy exit (most - least) middle

/-- The code of an expression from an address on. -/
def code : Expr → Nat → List Instr
  | .empty, _ => []
  | .chars set, _ => [.take set]
  | .look kind, _ => [.ask kind]
  | .seq a b, start =>
    let first := a.code start
    first ++ b.code (start + first.length)
  | .alt a b, start =>
    let first := a.code (start + 1)
    let other := start + 2 + first.length
    let second := b.code other
    .fork (start + 1) other :: first ++ .jump (other + second.length) :: second
  | .repetition least most greedy body, start =>
    repeated body.code body.codeLength least most greedy start
  | .capture index body, start =>
    .note (2 * index) :: body.code (start + 1) ++ [.note (2 * index + 1)]

/-- The program of an expression. The whole match is group zero. -/
def program (e : Expr) : List Instr := (Expr.capture 0 e).code 0 ++ [.accept]

end Expr

end ImportAtlas.Regex
