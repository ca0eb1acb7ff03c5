import ImportAtlas.Text.Numeral
import Mathlib.Tactic.ByContra
import Mathlib.Tactic.Lemma
import Mathlib.Tactic.SplitIfs

/-!
# Reading DOT

A reader of the DOT language as far as drawings use it: words, quoted texts, punctuation and line
comments; blocks, settings, defaults, nodes and edges. In a quoted text a backslash protects the
character after it, and the first quote that is not protected closes the text.

## Main definitions

* `ImportAtlas.Dot.Reader.step`: the reader takes one character.
* `ImportAtlas.Dot.Label.read`: the module and the count that a label names.
* `ImportAtlas.Dot.Phrase`: the statements.
* `ImportAtlas.Dot.read`: the statements of a whole text.
* `ImportAtlas.Dot.Sealed`, `ImportAtlas.Dot.Spells`: pieces of a quoted text and of a statement.

## Main results

* `ImportAtlas.Dot.Spells.quoted`: a sealed text between quotes is one quoted text.
* `ImportAtlas.Dot.read_statement`: lexemes and a semicolon are a statement.
* `ImportAtlas.Dot.read_append`: a text after another is read after it.

## Design

The reader goes from character to character, so that what it makes of a text is known as soon as
what it makes of the pieces is. There are three sorts of pieces: characters inside quotes, lexemes
inside a statement, and whole statements. What a reader has taken before does not matter to any.
-/

namespace ImportAtlas.Dot

/-! ### Characters -/

/-- A lexeme of a text. -/
inductive Token where
  /-- A word or a numeral without quotes. -/
  | word (text : List Char)
  /-- What stands between two quotes, as it is written. -/
  | quoted (text : List Char)
  /-- A punctuation mark. -/
  | sign (c : Char)
  deriving Repr, DecidableEq

/-- What the reader is in. -/
inductive Mode where
  /-- Between two lexemes. -/
  | free
  /-- In a word. -/
  | word (text : List Char)
  /-- In a quoted text. -/
  | quoted (text : List Char)
  /-- In a quoted text, behind a backslash that protects the next character. -/
  | protecting (text : List Char)
  /-- Behind the first slash of a comment. -/
  | slash
  /-- In a comment, which goes on to the end of the line. -/
  | comment
  deriving Repr, DecidableEq

/-- A reader: what it is in, the lexemes of the statement at hand, and the statements before. -/
structure Reader where
  /-- What the reader is in. -/
  mode : Mode
  /-- The lexemes of the statement at hand. -/
  pending : List Token
  /-- The complete statements, each with the sign that ends it. -/
  statements : List (List Token)
  deriving Repr, DecidableEq

/-- Whether a character separates lexemes. -/
def isBlank (c : Char) : Bool := c == ' ' || c == '\n' || c == '\t' || c == '\r'

/-- Whether a character belongs to words and numerals. -/
def isWordChar (c : Char) : Bool := c.isAlphanum || c == '_' || c == '.'

/-- The punctuation marks. -/
def signs : List Char := ['\x7b', '\x7d', '[', ']', '=', ',', ';', '-', '>']

/-- The punctuation marks that end a statement or open or close a block. -/
def finalSigns : List Char := ['\x7b', '\x7d', ';']

namespace Reader

/-- The reader before a text. -/
def empty : Reader := ⟨.free, [], []⟩

/-- Take a punctuation mark. -/
def takeSign (r : Reader) (c : Char) : Reader :=
  if c ∈ finalSigns then ⟨.free, [], r.statements ++ [r.pending ++ [.sign c]]⟩
  else ⟨.free, r.pending ++ [.sign c], r.statements⟩

/-- Take a character between two lexemes. -/
def start (r : Reader) (c : Char) : Option Reader :=
  if isBlank c then some { r with mode := .free }
  else if isWordChar c then some { r with mode := .word [c] }
  else if c = '"' then some { r with mode := .quoted [] }
  else if c = '/' then some { r with mode := .slash }
  else if c ∈ signs then some (r.takeSign c)
  else none

/-- Take a character. -/
def step (r : Reader) (c : Char) : Option Reader :=
  match r.mode with
  | .free => r.start c
  | .word text =>
    if isWordChar c then some { r with mode := .word (text ++ [c]) }
    else start { r with pending := r.pending ++ [.word text] } c
  | .quoted text =>
    if c = '\\' then some { r with mode := .protecting text }
    else if c = '"' then some { r with mode := .free, pending := r.pending ++ [.quoted text] }
    else some { r with mode := .quoted (text ++ [c]) }
  | .protecting text => some { r with mode := .quoted (text ++ ['\\', c]) }
  | .slash => if c = '/' then some { r with mode := .comment } else none
  | .comment => some (if c = '\n' then { r with mode := .free } else r)

/-- Take a text. -/
def run (r : Reader) (text : List Char) : Option Reader := text.foldlM step r

end Reader

/-! ### Labels -/

/-- What a label names. -/
structure Label where
  /-- The name in the first line. -/
  name : String
  /-- The number in the second line, if there is one. -/
  count : Option Nat
  deriving Repr, DecidableEq

/-- The first line of a label, and what follows the line break if there is one. A protected `n` is
the line break, a protected backslash or quote stands for itself, and no other character may be
protected. -/
def firstLine : List Char → Option (List Char × Option (List Char))
  | [] => some ([], none)
  | '\\' :: c :: rest =>
    if c = 'n' then some ([], some rest)
    else if c = '\\' ∨ c = '"' then
      (firstLine rest).map fun (line, below) => (c :: line, below)
    else none
  | c :: rest =>
    if c = '\\' ∨ c = '"' then none
    else (firstLine rest).map fun (line, below) => (c :: line, below)

/-- The words behind a number of imports. -/
def unit (n : Nat) : List Char :=
  if n = 1 then [' ', 'r', 'e', 'f', ')'] else [' ', 'r', 'e', 'f', 's', ')']

/-- The number of imports in the second line of a label. -/
def readCount : List Char → Option Nat
  | '(' :: rest =>
    let (digits, after) := rest.span Numeral.isDecimal
    (Numeral.decimal? digits).filter fun n => after = unit n
  | _ => none

/-- What a label names. -/
def Label.read (text : List Char) : Option Label :=
  match firstLine text with
  | some (name, none) => some ⟨String.ofList name, none⟩
  | some (name, some below) => (readCount below).map fun n => ⟨String.ofList name, some n⟩
  | none => none

/-! ### Statements -/

/-- A statement. -/
inductive Phrase where
  /-- The start of a block of some kind. -/
  | opening (kind name : String)
  /-- The end of a block. -/
  | closing
  /-- A property of the block. -/
  | setting (name value : String)
  /-- The default attributes of graphs, nodes or edges. -/
  | defaults (subject : String) (attributes : List (String × String))
  /-- A node with its label, as it is written and as it is meant, and its other attributes. -/
  | node (id written : List Char) (label : Label) (style : List (String × String))
  /-- An edge. -/
  | edge (source target : List Char)
  deriving Repr, DecidableEq

/-- The text of a word or of a quoted text. -/
def Token.text? : Token → Option (List Char)
  | .word text => some text
  | .quoted text => some text
  | .sign _ => none

/-- The attributes in a list up to the end of the statement. -/
def readAttributes : List Token → Option (List (List Char × List Char))
  | [.word name, .sign '=', value, .sign ']', .sign ';'] =>
    value.text?.map fun text => [(name, text)]
  | .word name :: .sign '=' :: value :: .sign ',' :: rest =>
    match value.text?, readAttributes rest with
    | some text, some attributes => some ((name, text) :: attributes)
    | _, _ => none
  | _ => none

/-- Attributes with their texts. -/
def spelled (attributes : List (List Char × List Char)) : List (String × String) :=
  attributes.map fun a => (String.ofList a.1, String.ofList a.2)

/-- A node with its attributes, of which the label comes first. -/
def nodeOf (id : List Char) : List (List Char × List Char) → Option Phrase
  | (name, label) :: style =>
    if String.ofList name = "label" then
      (Label.read label).map fun l => .node id label l (spelled style)
    else none
  | [] => none

/-- The statement that starts with a quoted text. -/
def Phrase.ofQuoted (first : List Char) : List Token → Option Phrase
  | .sign '[' :: rest => (readAttributes rest).bind (nodeOf first)
  | [.sign '-', .sign '>', .quoted target, .sign ';'] => some (.edge first target)
  | _ => none

/-- The statement that starts with a word. -/
def Phrase.ofWord (first : List Char) : List Token → Option Phrase
  | [.word name, .sign '\x7b'] => some (.opening (String.ofList first) (String.ofList name))
  | [.sign '=', value, .sign ';'] =>
    value.text?.map fun text => .setting (String.ofList first) (String.ofList text)
  | .sign '[' :: rest =>
    (readAttributes rest).map fun attributes =>
      .defaults (String.ofList first) (spelled attributes)
  | _ => none

/-- The statement that the lexemes up to its end spell. -/
def Phrase.ofTokens : List Token → Option Phrase
  | .quoted first :: rest => Phrase.ofQuoted first rest
  | .word first :: rest => Phrase.ofWord first rest
  | [.sign '\x7d'] => some .closing
  | _ => none

/-- The statements of a text, if it ends behind a statement. -/
def read (text : List Char) : Option (List Phrase) := do
  match ← Reader.empty.run text with
  | ⟨.free, [], statements⟩ => statements.mapM Phrase.ofTokens
  | _ => none

/-! ### Pieces of text -/

/-- A text that leaves a reader in the quoted text where it found it. -/
def Sealed (text : List Char) : Prop :=
  ∀ (before : List Char) (pending : List Token) (statements : List (List Token)),
    Reader.run ⟨.quoted before, pending, statements⟩ text =
      some ⟨.quoted (before ++ text), pending, statements⟩

/-- A text of whole lexemes, none of which ends the statement at hand. -/
def Spells (text : List Char) (tokens : List Token) : Prop :=
  ∀ (pending : List Token) (statements : List (List Token)),
    Reader.run ⟨.free, pending, statements⟩ text = some ⟨.free, pending ++ tokens, statements⟩

variable {text more : List Char} {tokens others : List Token}

/-- Texts are taken one after the other. -/
lemma Reader.run_append (r : Reader) (text more : List Char) :
    r.run (text ++ more) = (r.run text).bind fun r' => r'.run more :=
  List.foldlM_append

/-- A text is taken character by character. -/
lemma Reader.run_cons (r : Reader) (c : Char) (text : List Char) :
    r.run (c :: text) = (r.step c).bind fun r' => r'.run text :=
  List.foldlM_cons

section Sealed

lemma Sealed.nil : Sealed [] := fun before pending statements => by
  rw [List.append_nil]
  rfl

/-- Sealed texts one after the other are sealed. -/
lemma Sealed.append (h : Sealed text) (h' : Sealed more) : Sealed (text ++ more) := by
  intro before pending statements
  rw [Reader.run_append, h, Option.bind_some, h', List.append_assoc]

/-- A character other than a quote and a backslash is sealed. -/
lemma Sealed.single {c : Char} (hquote : c ≠ '"') (hbackslash : c ≠ '\\') : Sealed [c] := by
  intro before pending statements
  simp [Reader.run, Reader.step, hquote, hbackslash]

/-- A text without quotes and backslashes is sealed. -/
lemma Sealed.plain (h : ∀ c ∈ text, c ≠ '"' ∧ c ≠ '\\') : Sealed text := by
  induction text with
  | nil => exact .nil
  | cons c rest ih =>
    obtain ⟨⟨hquote, hbackslash⟩, hrest⟩ := List.forall_mem_cons.1 h
    exact (Sealed.single hquote hbackslash).append (ih hrest)

/-- A text without quotes and backslashes is sealed, by computation. -/
lemma Sealed.literal (h : (text.all fun c => c ≠ '"' ∧ c ≠ '\\') = true) : Sealed text :=
  .plain fun c hc => of_decide_eq_true (List.all_eq_true.1 h c hc)

/-- A protected character is sealed. -/
lemma Sealed.protected (c : Char) : Sealed ['\\', c] := fun _ _ _ => rfl

/-- A text is sealed if its characters are. -/
lemma Sealed.flatMap {name : List Char} {spell : Char → List Char}
    (h : ∀ c ∈ name, Sealed (spell c)) : Sealed (name.flatMap spell) := by
  induction name with
  | nil => exact .nil
  | cons c rest ih =>
    obtain ⟨hc, hrest⟩ := List.forall_mem_cons.1 h
    exact hc.append (ih hrest)

end Sealed

section Spells

/-- Texts of whole lexemes one after the other. -/
lemma Spells.append (h : Spells text tokens) (h' : Spells more others) :
    Spells (text ++ more) (tokens ++ others) := by
  intro pending statements
  rw [Reader.run_append, h, Option.bind_some, h', List.append_assoc]

/-- A sealed text between quotes is a quoted text. -/
lemma Spells.quoted (h : Sealed text) : Spells ('"' :: (text ++ ['"'])) [.quoted text] := by
  intro pending statements
  have hopen : Reader.run ⟨.free, pending, statements⟩ ['"'] =
      some ⟨.quoted [], pending, statements⟩ := rfl
  rw [← List.singleton_append, Reader.run_append, hopen, Option.bind_some, Reader.run_append, h,
    Option.bind_some]
  rfl

/-- A character of a word separates no lexemes. -/
lemma isBlank_of_isWordChar {c : Char} (h : isWordChar c = true) : isBlank c = false := by
  by_contra hblank
  simp only [Bool.not_eq_false, isBlank, Bool.or_eq_true, beq_iff_eq] at hblank
  obtain ((rfl | rfl) | rfl) | rfl := hblank <;> exact absurd h (by decide)

/-- A punctuation mark is nothing else. -/
lemma other_of_mem_signs {c : Char} (h : c ∈ signs) :
    isBlank c = false ∧ isWordChar c = false ∧ c ≠ '"' ∧ c ≠ '/' := by
  have hall : (signs.all fun c =>
      isBlank c = false ∧ isWordChar c = false ∧ c ≠ '"' ∧ c ≠ '/') = true := by decide
  exact of_decide_eq_true (List.all_eq_true.1 hall c h)

/-- A punctuation mark between two lexemes. -/
lemma Reader.start_sign {c : Char} (hsign : c ∈ signs) (r : Reader) :
    r.start c = some (r.takeSign c) := by
  obtain ⟨hblank, hword, hquote, hslash⟩ := other_of_mem_signs hsign
  rw [start, hblank, hword]
  simp [hquote, hslash, hsign]

/-- A word goes on with the characters of words. -/
lemma Reader.run_word (h : ∀ c ∈ text, isWordChar c = true) (before : List Char)
    (pending : List Token) (statements : List (List Token)) :
    Reader.run ⟨.word before, pending, statements⟩ text =
      some ⟨.word (before ++ text), pending, statements⟩ := by
  induction text generalizing before with
  | nil => rw [List.append_nil]; rfl
  | cons c rest ih =>
    obtain ⟨hc, hrest⟩ := List.forall_mem_cons.1 h
    have hstep : Reader.step ⟨.word before, pending, statements⟩ c =
        some ⟨.word (before ++ [c]), pending, statements⟩ := if_pos hc
    rw [run_cons, hstep, Option.bind_some, ih hrest, List.append_assoc, List.singleton_append]

/-- A word ends at a punctuation mark. -/
lemma Spells.word {c : Char} (h : text.all isWordChar = true) (hnil : text ≠ [])
    (hsign : c ∈ signs) (hfinal : c ∉ finalSigns) :
    Spells (text ++ [c]) [.word text, .sign c] := by
  intro pending statements
  obtain ⟨first, rest, rfl⟩ := List.exists_cons_of_ne_nil hnil
  obtain ⟨hfirst, hrest⟩ := List.forall_mem_cons.1 (List.all_eq_true.1 h)
  have hstart : Reader.step ⟨.free, pending, statements⟩ first =
      some ⟨.word [first], pending, statements⟩ := by
    rw [Reader.step, Reader.start, isBlank_of_isWordChar hfirst, if_neg (by simp), if_pos hfirst]
  have hword := (other_of_mem_signs hsign).2.1
  have hend : Reader.step ⟨.word (first :: rest), pending, statements⟩ c =
      some ⟨.free, pending ++ [.word (first :: rest), .sign c], statements⟩ := by
    simp [Reader.step, hword, Reader.start_sign hsign, Reader.takeSign, hfinal]
  rw [List.cons_append, Reader.run_cons, hstart, Option.bind_some, Reader.run_append,
    Reader.run_word hrest, Option.bind_some, List.singleton_append, Reader.run_cons, hend]
  rfl

end Spells

/-! ### Whole statements -/

namespace Reader

/-- A reader that has taken further statements before. -/
def after (before : List (List Token)) (r : Reader) : Reader :=
  { r with statements := before ++ r.statements }

/-- What was taken before does not matter to a character between two lexemes. -/
lemma start_after (before : List (List Token)) (r : Reader) (c : Char) :
    (r.after before).start c = (r.start c).map (after before) := by
  unfold start takeSign after
  split_ifs <;> simp

/-- What was taken before does not matter to a character. -/
lemma step_after (before : List (List Token)) (r : Reader) (c : Char) :
    (r.after before).step c = (r.step c).map (after before) := by
  obtain ⟨mode, pending, statements⟩ := r
  cases mode with
  | free => exact start_after before _ c
  | word word =>
    -- the character that ends a word is taken as one behind it
    have hend := start_after before ⟨.word word, pending ++ [.word word], statements⟩ c
    simp only [step, after] at hend ⊢
    split_ifs
    · rfl
    · exact hend
  | quoted => simp only [step, after]; split_ifs <;> rfl
  | protecting => rfl
  | slash => simp only [step]; split_ifs <;> rfl
  | comment => simp only [step, after]; split_ifs <;> rfl

/-- What was taken before does not matter to a text. -/
lemma run_after (before : List (List Token)) (r : Reader) (text : List Char) :
    (r.after before).run text = (r.run text).map (after before) := by
  induction text generalizing r with
  | nil => rfl
  | cons c rest ih =>
    simp only [run, List.foldlM_cons, step_after] at ih ⊢
    cases r.step c with
    | none => rfl
    | some r' => exact ih r'

end Reader

/-- A text is read if a reader is between two statements at its end. -/
lemma read_eq_some_iff {phrases : List Phrase} :
    read text = some phrases ↔ ∃ statements,
      Reader.empty.run text = some ⟨.free, [], statements⟩ ∧
        statements.mapM Phrase.ofTokens = some phrases := by
  rw [read]
  cases Reader.empty.run text with
  | none => simp
  | some r =>
    obtain ⟨mode, pending, statements⟩ := r
    cases mode <;> cases pending <;> simp

/-- **Texts of whole statements one after the other.** -/
lemma read_append {phrases phrases' : List Phrase} (h : read text = some phrases)
    (h' : read more = some phrases') : read (text ++ more) = some (phrases ++ phrases') := by
  obtain ⟨statements, hrun, hphrases⟩ := read_eq_some_iff.1 h
  obtain ⟨statements', hrun', hphrases'⟩ := read_eq_some_iff.1 h'
  refine read_eq_some_iff.2 ⟨statements ++ statements', ?_, ?_⟩
  · have hmore := Reader.run_after statements Reader.empty more
    rw [hrun'] at hmore
    have hstart : (⟨.free, [], statements⟩ : Reader) = Reader.empty.after statements := by
      rw [Reader.after, Reader.empty, List.append_nil]
    rw [Reader.run_append, hrun, Option.bind_some, hstart, hmore]
    rfl
  · rw [List.mapM_append, hphrases, hphrases']
    rfl

/-- A list of statements is read line by line. -/
lemma read_flatMap {α : Type} {items : List α} {line : α → List Char} {phrase : α → Phrase}
    (h : ∀ x ∈ items, read (line x) = some [phrase x]) :
    read (items.flatMap line) = some (items.map phrase) := by
  induction items with
  | nil => rfl
  | cons x rest ih =>
    obtain ⟨hx, hrest⟩ := List.forall_mem_cons.1 h
    exact read_append hx (ih hrest)

/-- **Lexemes and a semicolon are a statement.** -/
lemma read_statement {phrase : Phrase} (h : Spells text tokens)
    (hphrase : Phrase.ofTokens (tokens ++ [.sign ';']) = some phrase) :
    read (text ++ ";\n".toList) = some [phrase] := by
  refine read_eq_some_iff.2 ⟨[tokens ++ [.sign ';']], ?_, ?_⟩
  · rw [Reader.run_append, Reader.empty, h]
    rfl
  · rw [List.mapM_cons, hphrase]
    rfl

end ImportAtlas.Dot
