import ImportAtlas.CommandLine.Draft

/-!
# Reading the command line

The request of a list of words. Words before a command belong to the level before it, words after it
to the level that it opens.

## Main definitions

* `ImportAtlas.CommandLine.Progress`: how far the reading has come.
* `ImportAtlas.CommandLine.read`: the request of a list of words.

## Design

A value in a word of its own is looked at late: when the next argument turns up, or at the end of
the words. Until then a word that is no argument at all is reported first. A value within the word
of its option is looked at at once.
-/

namespace ImportAtlas.CommandLine

/-- An argument whose value has not been looked at. -/
structure Pending where
  /-- The argument. -/
  argument : Argument
  /-- Its value, if that has come already. -/
  value : Option String
  deriving Repr, DecidableEq

/-- How far the reading has come. -/
structure Progress where
  /-- The level. -/
  level : Level
  /-- What the levels before said about the voice. -/
  outer : Voice := {}
  /-- What the arguments of this level have said. -/
  draft : Draft := {}
  /-- The argument whose value has not been looked at. -/
  pending : Option Pending := none
  /-- Whether the operand has come. -/
  hasOperand : Bool := false
  /-- Whether all words that follow are operands. -/
  trailing : Bool := false
  deriving Repr, DecidableEq

namespace Progress

/-- Whether the next word is the value of an option. -/
def awaitsValue (p : Progress) : Bool := p.pending.any fun q => q.value.isNone

/-- Look at the value that has not been looked at. -/
def settle (p : Progress) : Except UsageError Progress :=
  match p.pending with
  | none => .ok p
  | some ⟨a, none⟩ => .error (.missingValue a)
  | some ⟨a, some v⟩ => do return { p with draft := ← p.draft.take a v, pending := none }

/-- An option without a value. -/
def switch (p : Progress) (a : Argument) : Except UsageError Progress := do
  let q ← p.settle
  return { q with draft := ← q.draft.switch a q.level }

/-- An option with its value in the same word. -/
def take (p : Progress) (a : Argument) (v : String) : Except UsageError Progress := do
  let q ← p.settle
  return { q with draft := ← q.draft.take a v }

/-- An option whose value is still to come. -/
def await (p : Progress) (a : Argument) : Except UsageError Progress := do
  let q ← p.settle
  return { q with pending := some ⟨a, none⟩ }

/-! ### Words -/

/-- A word of letters, each of which is an option. The rest of the word after an option with a
value, less an equals sign at its start, is the value. -/
def letters (p : Progress) : List Char → Except UsageError Progress
  | [] => .ok p
  | c :: rest =>
    match p.level.lettered? c with
    | none => .error (.unknownArgument ("-" ++ String.singleton c))
    | some a =>
      if a.takesValue then
        match rest with
        | [] => p.await a
        | '=' :: value => p.take a (String.ofList value)
        | value => p.take a (String.ofList value)
      else
        match p.switch a with
        | .ok q => letters q rest
        | .error e => .error e

/-- A long option, with or without a value after an equals sign. -/
def long (p : Progress) (text : List Char) : Except UsageError Progress :=
  let name := text.takeWhile (· ≠ '=')
  let value? := (text.drop name.length).tail?.map String.ofList
  match p.level.named? (String.ofList name), value? with
  | none, _ => .error (.unknownArgument ("--" ++ String.ofList name))
  | some a, some value =>
    if a.takesValue then p.take a value else .error (.surplusValue a value)
  | some a, none => if a.takesValue then p.await a else p.switch a

/-- What is wrong with a word that is neither an option nor a value. -/
def unexpected (p : Progress) (word : String) : UsageError :=
  if p.level.commands.isEmpty ∨ (p.trailing ∧ p.level.hasCommand word) then .unknownArgument word
  else .unknownCommand word

/-- A word that is no option: the value of an option, or the operand. -/
def plain (p : Progress) (word : String) : Except UsageError Progress :=
  match p.pending with
  | some ⟨a, none⟩ =>
    if p.trailing then .error (p.unexpected word)
    else .ok { p with pending := some ⟨a, some word⟩ }
  | _ =>
    match p.level.operand?, p.hasOperand with
    | some a, false => do
      let q ← p.settle
      return { q with pending := some ⟨a, some word⟩, hasOperand := true }
    | _, _ => .error (p.unexpected word)

/-- One more word, which is no command. -/
def word (p : Progress) (text : String) : Except UsageError Progress :=
  if p.trailing then p.plain text
  else
    match text.toList with
    | ['-', '-'] => .ok { p with trailing := true }
    | '-' :: '-' :: name => p.long name
    | '-' :: c :: rest => p.letters (c :: rest)
    | _ => p.plain text

/-- The request at the end of all words. -/
def finish (p : Progress) : Except UsageError Request := do
  let q ← p.settle
  return ⟨q.outer.within q.draft.voice, ← q.draft.command q.level⟩

end Progress

/-! ### Commands -/

/-- What is explained when words ask for an explanation of a command. -/
def explain (level : Level) : List String → UsageError
  | [] => .help level
  | word :: rest =>
    match level.commands.lookup word with
    | some next => explain next rest
    | none =>
      if level.hasCommand word then
        match rest with
        | [] => .help level
        | other :: _ => .unknownCommand other
      else .unknownCommand word

/-- The request of the words that are left. -/
def readFrom (p : Progress) : List String → Except UsageError Request
  | [] => p.finish
  | word :: rest =>
    if !p.trailing && !p.awaitsValue && p.level.hasCommand word then
      match p.level.commands.lookup word with
      | some next => readFrom { level := next, outer := p.outer.within p.draft.voice } rest
      | none => .error (explain p.level rest)
    else
      match p.word word with
      | .ok q => readFrom q rest
      | .error e => .error e

/-- The request of a list of words. -/
def read (words : List String) : Except UsageError Request := readFrom { level := .start } words

end ImportAtlas.CommandLine
