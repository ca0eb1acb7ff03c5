/-!
# UTF-8

Reading bytes as UTF-8 text. The reader walks the bytes once and keeps only what the character
under way still needs, so a malformed stretch never reaches past the byte that breaks it.

## Main definitions

* `ImportAtlas.Utf8.encode`: the bytes of a text.
* `ImportAtlas.Utf8.scan`: the characters of a byte string, with one gap for each longest
  malformed stretch.
* `ImportAtlas.Utf8.decodeLossy`: every gap becomes the replacement character.
* `ImportAtlas.Utf8.decode?`: a gap makes the bytes no text at all.
-/

namespace ImportAtlas.Utf8

/-- The bytes of a text. -/
def encode (text : List Char) : List UInt8 := text.flatMap String.utf8EncodeChar

/-- A character that has begun: the bits read so far, the range that its next byte must lie in and
how many bytes follow that one. -/
structure Pending where
  /-- The bits read so far. -/
  bits : Nat
  /-- The least byte that continues the character. -/
  low : UInt8
  /-- The greatest byte that continues the character. -/
  high : UInt8
  /-- How many bytes follow the next one. -/
  after : Nat
  deriving Repr, DecidableEq

/-- What a byte does where a character may begin. -/
inductive Lead where
  /-- The byte is a character by itself. -/
  | whole (c : Char)
  /-- The byte begins a longer character. -/
  | opens (p : Pending)
  /-- No character begins with the byte. -/
  | stray

/-- The part of a byte as the first of a character. Surrogates, overlong forms and values beyond
the last code point are excluded by the range of the second byte. -/
def lead (b : UInt8) : Lead :=
  if b < 0x80 then .whole (Char.ofNat b.toNat)
  else if b < 0xC2 then .stray
  else if b < 0xE0 then .opens ⟨b.toNat - 0xC0, 0x80, 0xBF, 0⟩
  else if b = 0xE0 then .opens ⟨0, 0xA0, 0xBF, 1⟩
  else if b = 0xED then .opens ⟨0xD, 0x80, 0x9F, 1⟩
  else if b < 0xF0 then .opens ⟨b.toNat - 0xE0, 0x80, 0xBF, 1⟩
  else if b = 0xF0 then .opens ⟨0, 0x90, 0xBF, 2⟩
  else if b < 0xF4 then .opens ⟨b.toNat - 0xF0, 0x80, 0xBF, 2⟩
  else if b = 0xF4 then .opens ⟨4, 0x80, 0x8F, 2⟩
  else .stray

/-- Read on from the state between two characters (`none`) or inside one. A malformed stretch
gives one gap, and the byte that breaks it is read again as a first byte. -/
def scanFrom : Option Pending → List UInt8 → List (Option Char)
  | none, [] => []
  | some _, [] => [none]
  | none, b :: rest =>
    match lead b with
    | .whole c => some c :: scanFrom none rest
    | .opens p => scanFrom (some p) rest
    | .stray => none :: scanFrom none rest
  | some p, b :: rest =>
    if p.low ≤ b ∧ b ≤ p.high then
      let bits := p.bits * 64 + (b.toNat - 0x80)
      match p.after with
      | 0 => some (Char.ofNat bits) :: scanFrom none rest
      | n + 1 => scanFrom (some ⟨bits, 0x80, 0xBF, n⟩) rest
    else
      none :: match lead b with
        | .whole c => some c :: scanFrom none rest
        | .opens q => scanFrom (some q) rest
        | .stray => none :: scanFrom none rest

/-- The characters of a byte string, with one gap for each longest malformed stretch. -/
def scan (bytes : List UInt8) : List (Option Char) := scanFrom none bytes

/-- The text of a byte string, each malformed stretch read as one replacement character. -/
def decodeLossy (bytes : List UInt8) : List Char :=
  (scan bytes).map fun c => c.getD '\uFFFD'

/-- The text of a byte string, if it is well-formed throughout. -/
def decode? (bytes : List UInt8) : Option (List Char) := (scan bytes).mapM id

end ImportAtlas.Utf8
