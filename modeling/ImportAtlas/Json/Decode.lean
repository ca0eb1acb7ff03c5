import ImportAtlas.Json.Reader

/-!
# Decoding JSON values

Reading typed data out of JSON values. A record is written as an object that has each of its
fields once, other fields being ignored, or as an array of exactly its fields in their order.

## Main definitions

* `ImportAtlas.Json.DecodeError`: why a value is not what was asked for.
* `ImportAtlas.Json.Value.asText`, `ImportAtlas.Json.Value.asCount`,
  `ImportAtlas.Json.Value.asList`, `ImportAtlas.Json.Value.asBindings`,
  `ImportAtlas.Json.Value.asRecord`: the decoders.
-/

namespace ImportAtlas.Json

open Numeral

/-- Why a value is not what was asked for. -/
inductive DecodeError where
  /-- The text is no JSON. -/
  | malformed
  /-- The value is of another sort. -/
  | expected (sort : String)
  /-- The number does not fit in 64 bits. -/
  | tooLarge (n : Nat)
  /-- A record lacks a field. -/
  | missingField (name : String)
  /-- A record has a field more than once. -/
  | repeatedField (name : String)
  /-- A record is written as an array of another length. -/
  | wrongLength (expected : Nat)
  deriving Repr, DecidableEq

/-- The wording of a decoding error. -/
def DecodeError.message : DecodeError → String
  | .malformed => "not a JSON text"
  | .expected sort => "expected " ++ sort
  | .tooLarge n => "number out of range: " ++ toString n
  | .missingField name => "missing field " ++ name
  | .repeatedField name => "repeated field " ++ name
  | .wrongLength n => "expected " ++ toString n ++ " items"

namespace Value

/-- The value of a JSON text. -/
def parse (text : String) : Except DecodeError Value :=
  match read? text.toList with
  | some v => .ok v
  | none => .error .malformed

/-- A text. -/
def asText : Value → Except DecodeError String
  | .string (some s) => .ok s
  | _ => .error (.expected "a string")

/-- An unsigned integer of at most 64 bits. -/
def asCount : Value → Except DecodeError Nat
  | .number (some n) => if n ≤ maxWord then .ok n else .error (.tooLarge n)
  | _ => .error (.expected "an unsigned integer")

/-- A list of what `item` decodes. -/
def asList {α : Type} (item : Value → Except DecodeError α) : Value → Except DecodeError (List α)
  | .array items => items.mapM item
  | _ => .error (.expected "an array")

/-- Named values, each as `item` decodes it, in order with repetitions. -/
def asBindings {α : Type} (item : Value → Except DecodeError α) :
    Value → Except DecodeError (List (String × α))
  | .object fields => fields.mapM fun
    | (some name, v) => (item v).map fun x => (name, x)
    | (none, _) => .error (.expected "a text as field name")
  | _ => .error (.expected "an object")

/-- The value of the one field of that name. -/
def field (fields : List (Option String × Value)) (name : String) : Except DecodeError Value :=
  match fields.filter fun f => f.1 == some name with
  | [] => .error (.missingField name)
  | [f] => .ok f.2
  | _ => .error (.repeatedField name)

/-- The values of a record's fields in the order of `names`. -/
def asRecord (names : List String) : Value → Except DecodeError (List Value)
  | .object fields =>
    if fields.all fun f => f.1.isSome then names.mapM (field fields)
    else .error (.expected "a text as field name")
  | .array items =>
    if items.length = names.length then .ok items else .error (.wrongLength names.length)
  | _ => .error (.expected "a record")

end Value

end ImportAtlas.Json
