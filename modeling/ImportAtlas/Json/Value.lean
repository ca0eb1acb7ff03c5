/-!
# JSON values

A JSON text as a value. An object keeps its fields in order with repetitions, because what a
repeated field means is for the reader of the object to say.

## Main definitions

* `ImportAtlas.Json.Value`: the values.
* `ImportAtlas.Json.Value.text`, `ImportAtlas.Json.Value.count`, `ImportAtlas.Json.Value.record`:
  the values that a program writes.
-/

namespace ImportAtlas.Json

/-- A JSON value. Of numbers only the unsigned integers are told apart, and a string whose escapes
name half of a surrogate pair is a string without text. -/
inductive Value where
  /-- The value `null`. -/
  | null
  /-- A truth value. -/
  | bool (b : Bool)
  /-- A number; it has a value if it is written as an unsigned integer. -/
  | number (n : Option Nat)
  /-- A string; it has a text if its escapes spell one. -/
  | string (s : Option String)
  /-- A list of values. -/
  | array (items : List Value)
  /-- Named values in their order. -/
  | object (fields : List (Option String × Value))
  deriving Inhabited

namespace Value

/-- The value of a text. -/
def text (s : String) : Value := .string (some s)

/-- The value of an unsigned integer. -/
def count (n : Nat) : Value := .number (some n)

/-- The value of a list of texts. -/
def texts (items : List String) : Value := .array (items.map text)

/-- The value with the given fields. -/
def record (fields : List (String × Value)) : Value :=
  .object (fields.map fun f => (some f.1, f.2))

end Value

end ImportAtlas.Json
