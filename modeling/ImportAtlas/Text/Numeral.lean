/-!
# Numerals

Reading decimal and hexadecimal numerals, and the greatest number that a count may reach.

## Main definitions

* `ImportAtlas.Numeral.ofDigits`: the value of a list of digits in a base.
* `ImportAtlas.Numeral.unsigned?`: an unsigned decimal numeral of at most 64 bits.
-/

namespace ImportAtlas.Numeral

/-- The greatest number of 64 bits. -/
def maxWord : Nat := 0xFFFFFFFFFFFFFFFF

/-- The value of a digit in the bases up to sixteen. -/
def digit? (c : Char) : Option Nat :=
  if '0' ≤ c ∧ c ≤ '9' then some (c.toNat - 48)
  else if 'a' ≤ c ∧ c ≤ 'f' then some (c.toNat - 87)
  else if 'A' ≤ c ∧ c ≤ 'F' then some (c.toNat - 55)
  else none

/-- The value of a list of digits, most significant first; a character that is no digit counts
as zero. -/
def ofDigits (base : Nat) (digits : List Char) : Nat :=
  digits.foldl (fun n c => n * base + (digit? c).getD 0) 0

/-- Whether a character is one of the ten decimal digits. -/
def isDecimal (c : Char) : Bool := '0' ≤ c && c ≤ '9'

/-- Whether a character is a hexadecimal digit of either case. -/
def isHex (c : Char) : Bool := (digit? c).isSome

/-- The value of a non-empty run of decimal digits. -/
def decimal? (digits : List Char) : Option Nat :=
  if digits ≠ [] ∧ digits.all isDecimal then some (ofDigits 10 digits) else none

/-- The value of an unsigned decimal numeral, with at most one plus sign in front, that fits in
64 bits. -/
def unsigned? (text : List Char) : Option Nat :=
  let digits := match text with
    | '+' :: rest => rest
    | _ => text
  (decimal? digits).filter (· ≤ maxWord)

end ImportAtlas.Numeral
