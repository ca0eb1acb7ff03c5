import ImportAtlas.Text.Blank
import ImportAtlas.Unicode.CategoryData
import ImportAtlas.Unicode.CharSet
import ImportAtlas.Unicode.Identifier
import ImportAtlas.Unicode.PropertyData
import ImportAtlas.Unicode.ScriptData
import ImportAtlas.Unicode.ScriptExtensionData

/-!
# Looking up properties

The set of characters that a property's name stands for. Names are compared loosely: letter case,
blanks, hyphens and underscores do not count, nor does a leading "is".

## Main definitions

* `ImportAtlas.Unicode.looseName`: what of a name counts.
* `ImportAtlas.Unicode.category?`, `ImportAtlas.Unicode.script?`, `ImportAtlas.Unicode.property?`:
  the sets of a category, a script and a binary property.
* `ImportAtlas.Unicode.named?`: the set of a name on its own.
* `ImportAtlas.Unicode.valued?`: the set of a property's value.
* `ImportAtlas.Unicode.wordSet`, `ImportAtlas.Unicode.digitSet`, `ImportAtlas.Unicode.blankSet`:
  the sets of the short class escapes.
-/

namespace ImportAtlas.Unicode

/-! ### Names -/

/-- The lower case of an ASCII letter. -/
def lowerAscii (c : Char) : Char :=
  if 'A' ≤ c ∧ c ≤ 'Z' then Char.ofNat (c.toNat + 32) else c

/-- What of a name counts in a comparison. A lone "isc" keeps its start, because it abbreviates
another word. -/
def looseName (name : List Char) : String :=
  let startsWithIs := (name.take 2).map lowerAscii == ['i', 's']
  let rest := if startsWithIs then name.drop 2 else name
  let kept := (rest.filter fun c => c.toNat < 0x80 && !(c == ' ' || c == '_' || c == '-')).map
    lowerAscii
  String.ofList (if startsWithIs && kept == ['c'] then ['i', 's', 'c'] else kept)

/-- The set of a name in a list of tables. -/
def setOf? (tables : List (String × String)) (name : String) : Option CharSet :=
  (tables.lookup name).map fun text => ⟨RangeTable.ofText text⟩

/-! ### Categories, scripts and binary properties -/

/-- The categories of a group. -/
def categoryGroup : String → List String
  | "C" => ["Cc", "Cf", "Cn", "Co"]
  | "L" => ["Ll", "Lm", "Lo", "Lt", "Lu"]
  | "LC" => ["Ll", "Lt", "Lu"]
  | "M" => ["Mc", "Me", "Mn"]
  | "N" => ["Nd", "Nl", "No"]
  | "P" => ["Pc", "Pd", "Pe", "Pf", "Pi", "Po", "Ps"]
  | "S" => ["Sc", "Sk", "Sm", "So"]
  | "Z" => ["Zl", "Zp", "Zs"]
  | name => [name]

/-- The characters of a category or a group of categories, by its short name. There is no set of
surrogates. -/
def categorySet? (name : String) : Option CharSet :=
  ((categoryGroup name).mapM (setOf? categoryTexts)).map fun sets =>
    sets.foldl CharSet.union CharSet.empty

/-- The characters of a category by a loose name. -/
def category? (loose : String) : Option CharSet :=
  if loose = "any" then some .all
  else if loose = "ascii" then some ⟨[(0, 0x7F)]⟩
  else if loose = "assigned" then (categorySet? "Cn").map CharSet.compl
  else (categoryNames.lookup loose).bind categorySet?

/-- The characters of a script by a loose name. -/
def script? (loose : String) : Option CharSet :=
  (scriptNames.lookup loose).bind (setOf? scriptTexts)

/-- The characters that a script uses, by a loose name. -/
def scriptExtension? (loose : String) : Option CharSet :=
  (scriptNames.lookup loose).bind fun name =>
    (setOf? scriptExtensionTexts name).or (setOf? scriptTexts name)

/-- The characters of a binary property by its name. -/
def propertySet? : String → Option CharSet
  | "XID_Start" => some ⟨xidStartTable⟩
  | "XID_Continue" => some ⟨xidContinueTable⟩
  | "White_Space" => some ⟨Text.blankRanges⟩
  | name => setOf? propertyTexts name

/-- The characters of a binary property by a loose name. -/
def property? (loose : String) : Option CharSet :=
  (propertyNames.lookup loose).bind propertySet?

/-! ### Queries -/

/-- The characters that a name on its own stands for: a binary property, a category or a script, in
this order. -/
def named? (name : List Char) : Option CharSet :=
  let loose := looseName name
  ((property? loose).or (category? loose)).or (script? loose)

/-- The characters that have a value of a property. -/
def valued? (property value : List Char) : Option CharSet :=
  let loose := looseName value
  match looseName property with
  | "generalcategory" | "gc" => category? loose
  | "script" | "sc" => script? loose
  | "scriptextensions" | "scx" => scriptExtension? loose
  | _ => none

/-! ### Short classes -/

/-- The decimal digits of all scripts. -/
def digitSet : CharSet := (categorySet? "Nd").getD .empty

/-- The blanks. -/
def blankSet : CharSet := ⟨Text.blankRanges⟩

/-- The characters of words: letters and other alphabetic characters, marks, decimal digits,
connecting punctuation and joiners. -/
def wordSet : CharSet :=
  [property? "alphabetic", category? "m", category? "nd", category? "pc",
    property? "joincontrol"].foldl
    (fun s t => s.union (t.getD .empty)) .empty

/-- Whether a character is a letter or otherwise alphabetic. For the letters of ASCII the table is
not looked up. -/
def isAlphabetic (c : Char) : Bool :=
  c.isAlpha ||
    match property? "alphabetic" with
    | some s => s.contains c
    | none => false

/-- Whether a character is alphabetic or a number of some kind. -/
def isAlphanumeric (c : Char) : Bool :=
  isAlphabetic c ||
    match category? "n" with
    | some s => s.contains c
    | none => false

end ImportAtlas.Unicode
