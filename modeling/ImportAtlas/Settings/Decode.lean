import ImportAtlas.Settings.Basic
import ImportAtlas.Toml.Node

/-!
# Settings of a document

The settings that a TOML document describes. A section is a table, in which only known keys may
occur, or a list of all its entries in their order, in which surplus values do not count.

## Main definitions

* `ImportAtlas.EntryError`: why a document describes no settings.
* `ImportAtlas.Settings.ofFields`: the settings of a document.
-/

namespace ImportAtlas

open Toml

/-- Why a document describes no settings. -/
inductive EntryError where
  /-- A table has a key that means nothing. -/
  | unknownKey (key : String)
  /-- The value of a key is of the wrong kind. -/
  | wrongKind (key : String)
  /-- A list has fewer values than the section has entries. -/
  | tooShort (name : String)
  deriving Repr, DecidableEq

/-- The wording of an error. -/
def EntryError.message : EntryError → String
  | .unknownKey key => "unknown key " ++ key
  | .wrongKind key => "wrong kind of value for " ++ key
  | .tooShort name => "too few values in " ++ name

namespace Settings

/-! ### Values -/

/-- The text of a node. -/
def text? : Node → Option String
  | .string s => some s
  | _ => none

/-- The truth value of a node. -/
def truth? : Node → Option Bool
  | .boolean b => some b
  | _ => none

/-- The number of a node, which must not be negative. -/
def number? : Node → Option Nat
  | .integer n => if 0 ≤ n then some n.toNat else none
  | _ => none

/-- The texts of a list. -/
def texts? : Node → Option (List String)
  | .array items => items.mapM text?
  | _ => none

/-! ### Sections -/

/-- The fields of a table, all of which must have one of the given names. -/
def knownFields (names : List String) (fields : Fields) : Except EntryError Fields :=
  match fields.find? fun f => !names.contains f.1 with
  | some f => .error (.unknownKey f.1)
  | none => .ok fields

/-- The entries of a section with the given names. -/
def entries (name : String) (names : List String) : Node → Except EntryError Fields
  | .table _ _ fields => knownFields names fields
  | .inline _ fields => knownFields names fields
  | .array items => listed items
  | .tables elements => listed elements
  | _ => .error (.wrongKind name)
where
  /-- The entries of a list in their order. -/
  listed (items : List Node) : Except EntryError Fields :=
    if items.length < names.length then .error (.tooShort name) else .ok (names.zip items)

/-- The entry of a name, if there is one. -/
def entry? {α : Type} (read? : Node → Option α) (fields : Fields) (name : String) :
    Except EntryError (Option α) :=
  match fields.lookup name with
  | none => .ok none
  | some node =>
    match read? node with
    | some v => .ok (some v)
    | none => .error (.wrongKind name)

/-- The names of the entries on scans, in their order. -/
def scanNames : List String :=
  ["module_patterns", "exclude", "include_system", "no_ignore", "output", "top", "jobs"]

/-- The section on scans that a node describes. -/
def readScan (node : Node) : Except EntryError ScanSettings := do
  let fields ← entries "scan" scanNames node
  return {
    modulePatterns := (← entry? texts? fields "module_patterns").getD []
    excludes := (← entry? texts? fields "exclude").getD []
    includeSystem := ← entry? truth? fields "include_system"
    noIgnore := ← entry? truth? fields "no_ignore"
    output := ← entry? text? fields "output"
    top := ← entry? number? fields "top"
    jobs := ← entry? number? fields "jobs" }

/-- The names of the entries on drawings, in their order. -/
def drawNames : List String := ["theme", "rankdir", "splines", "legend"]

/-- The section on drawings that a node describes. -/
def readDraw (node : Node) : Except EntryError DrawSettings := do
  let fields ← entries "dot" drawNames node
  return {
    theme := ← entry? text? fields "theme"
    direction := ← entry? text? fields "rankdir"
    edgeShape := ← entry? text? fields "splines"
    legend := ← entry? truth? fields "legend" }

/-- The settings of a document. -/
def ofFields (fields : Fields) : Except EntryError Settings := do
  let known ← knownFields ["scan", "dot"] fields
  return {
    scan := ← (known.lookup "scan").mapM readScan
    draw := ← (known.lookup "dot").mapM readDraw }

end Settings

end ImportAtlas
