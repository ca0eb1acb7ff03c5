/-!
# TOML documents

The nodes of a TOML document, and how its statements build them up. A table may be opened once:
what a header, a dotted key or an inline table has defined, no other of them may add to, but a table
that so far only stands on the way to another one may still be opened.

## Main definitions

* `ImportAtlas.Toml.Node`: the nodes.
* `ImportAtlas.Toml.Statement`: the statements of a document.
* `ImportAtlas.Toml.build`: the document of a list of statements.
* `ImportAtlas.Toml.inlineTable`: the table of the bindings in a pair of braces.
-/

namespace ImportAtlas.Toml

/-- Why a text is no document. -/
inductive TomlError where
  /-- The text does not follow the grammar. -/
  | malformed
  /-- A key is bound twice, or a table opened twice. -/
  | redefined (key : String)
  /-- A key leads through a value that is no table. -/
  | notTable (key : String)
  deriving Repr, DecidableEq

/-- The wording of an error. -/
def TomlError.message : TomlError → String
  | .malformed => "invalid TOML"
  | .redefined key => "duplicate key " ++ key
  | .notTable key => "key is not a table: " ++ key

/-- A node of a document. -/
inductive Node where
  /-- A text. -/
  | string (s : String)
  /-- An integer of 64 bits. -/
  | integer (n : Int)
  /-- A truth value. -/
  | boolean (b : Bool)
  /-- A floating point number, a date or a time. -/
  | other
  /-- A list of values. -/
  | array (items : List Node)
  /-- A table in braces. It is `opened` if dotted keys made it. -/
  | inline (opened : Bool) (fields : List (String × Node))
  /-- A table. It is `implicit` until a header opens it, and `dotted` if dotted keys made it. -/
  | table (implicit dotted : Bool) (fields : List (String × Node))
  /-- The tables of repeated headers in double brackets. -/
  | tables (elements : List Node)
  deriving Inhabited

/-- The fields of a table in their order. -/
abbrev Fields := List (String × Node)

/-- The fields with the one of a key replaced. -/
def setField (fields : Fields) (key : String) (node : Node) : Fields :=
  fields.map fun f => if f.1 == key then (key, node) else f

/-- The fields with one more. -/
def addField (fields : Fields) (key : String) (node : Node) : Except TomlError Fields :=
  if (fields.lookup key).isSome then .error (.redefined key) else .ok (fields ++ [(key, node)])

/-! ### Inline tables -/

/-- The fields of an inline table with one more binding. -/
def bindInline (value : Node) (key : String) : List String → Fields → Except TomlError Fields
  | [], fields => addField fields key value
  | step :: path, fields =>
    match fields.lookup step with
    | none => do return fields ++ [(step, .inline true (← bindInline value key path []))]
    | some (.inline true inner) => do
      return setField fields step (.inline true (← bindInline value key path inner))
    | some (.inline false _) => .error (.redefined step)
    | some _ => .error (.notTable step)

/-- The table of the bindings in a pair of braces. -/
def inlineTable (bindings : List ((List String × String) × Node)) : Except TomlError Node := do
  let fields ← bindings.foldlM (fun fields b => bindInline b.2 b.1.2 b.1.1 fields) []
  return .inline false fields

/-! ### Tables -/

/-- Change the table at the end of a path. Tables on the way that do not exist are made, and of the
tables of repeated headers the last one is entered. Along a dotted key no table may be entered that
a header has opened. `change` is told whether the table was made by a dotted key. -/
def descend (alongKey : Bool) (change : Bool → Fields → Except TomlError Fields) :
    List String → Bool → Fields → Except TomlError Fields
  | [], dotted, fields => change dotted fields
  | step :: path, _, fields =>
    match fields.lookup step with
    | none => do
      return fields ++ [(step, .table true alongKey (← descend alongKey change path alongKey []))]
    | some (.table implicit dotted inner) =>
      if alongKey ∧ implicit = false then .error (.redefined step)
      else do
        return setField fields step
          (.table implicit dotted (← descend alongKey change path dotted inner))
    | some (.tables elements) =>
      match elements.getLast? with
      | some (.table implicit dotted inner) => do
        let last := Node.table implicit dotted (← descend alongKey change path dotted inner)
        return setField fields step (.tables (elements.dropLast ++ [last]))
      | _ => .error (.notTable step)
    | some _ => .error (.notTable step)

/-! ### Statements -/

/-- A statement of a document. -/
inductive Statement where
  /-- A header that opens a table. -/
  | header (path : List String) (name : String)
  /-- A header that adds a table to a list. -/
  | element (path : List String) (name : String)
  /-- A binding in the table that is open. -/
  | binding (path : List String) (key : String) (value : Node)

/-- The table that is open while a document is built up. -/
structure OpenTable where
  /-- The tables around it, from the outermost on. -/
  path : List String
  /-- Its name. -/
  name : String
  /-- Whether it is one of a list. -/
  isElement : Bool

/-- A document under construction. -/
structure Draft where
  /-- The fields of the document, without those of the table that is open. -/
  root : Fields
  /-- The table that is open; the document itself at first. -/
  current : Option OpenTable
  /-- The fields of the table that is open. -/
  fields : Fields

/-- Put a table among the fields around it. -/
def placeTable (isElement : Bool) (name : String) (table : Node) (fields : Fields) :
    Except TomlError Fields :=
  if isElement then
    match fields.lookup name with
    | none => .ok (fields ++ [(name, .tables [table])])
    | some (.tables elements) => .ok (setField fields name (.tables (elements ++ [table])))
    | some _ => .error (.redefined name)
  else addField fields name table

/-- The fields of the document with those of the table that is open. -/
def Draft.close (d : Draft) : Except TomlError Fields :=
  match d.current with
  | none => .ok d.fields
  | some t =>
    descend false (fun _ => placeTable t.isElement t.name (.table false false d.fields)) t.path
      false d.root

/-- The fields around a table that a header opens, without the table, and its fields so far. -/
def takeTable (name : String) (fields : Fields) : Except TomlError (Fields × Fields) :=
  match fields.lookup name with
  | none => .ok (fields, [])
  | some (.table true false inner) => .ok (fields.filter fun f => f.1 != name, inner)
  | some _ => .error (.redefined name)

/-- The fields of the table at the end of a path, tables on the way entered as `descend` does. -/
def fieldsAt : List String → Fields → Fields
  | [], fields => fields
  | step :: path, fields =>
    match fields.lookup step with
    | some (.table _ _ inner) => fieldsAt path inner
    | some (.tables elements) =>
      match elements.getLast? with
      | some (.table _ _ inner) => fieldsAt path inner
      | _ => []
    | _ => []

/-- The document after one more statement. -/
def Draft.apply (d : Draft) : Statement → Except TomlError Draft
  | .header path name => do
    let root ← d.close
    let around ← descend false (fun _ fields => return (← takeTable name fields).1) path false root
    let (_, inner) ← takeTable name (fieldsAt path root)
    return ⟨around, some ⟨path, name, false⟩, inner⟩
  | .element path name => do
    let root ← d.close
    let check (_ : Bool) (fields : Fields) : Except TomlError Fields :=
      match fields.lookup name with
      | none => .ok fields
      | some (.tables _) => .ok fields
      | some _ => .error (.redefined name)
    let around ← descend false check path false root
    return ⟨around, some ⟨path, name, true⟩, []⟩
  | .binding path key value => do
    let bind (dotted : Bool) (fields : Fields) : Except TomlError Fields :=
      if dotted = path.isEmpty then .error (.redefined key) else addField fields key value
    return { d with fields := ← descend true bind path false d.fields }

/-- The fields of the document of a list of statements. -/
def build (statements : List Statement) : Except TomlError Fields := do
  let d ← statements.foldlM Draft.apply ⟨[], none, []⟩
  d.close

end ImportAtlas.Toml
