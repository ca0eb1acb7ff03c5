/-!
# Complaints

What a user is told when something fails: the words of this library, and what the reader of some
format adds to them.

## Main definitions

* `ImportAtlas.Complaint`: the two parts.
* `ImportAtlas.Complaint.text`: both together.
-/

namespace ImportAtlas

/-- What a user is told when something fails. -/
structure Complaint where
  /-- The words of this library. -/
  summary : String
  /-- What the reader of a format has to add. -/
  detail : Option String := none
  deriving Repr, DecidableEq

namespace Complaint

/-- A complaint behind some words that introduce it. -/
def introduce (words : String) (c : Complaint) : Complaint :=
  { c with summary := words ++ c.summary }

/-- Both parts together. -/
def text (c : Complaint) : String := c.summary ++ c.detail.getD ""

end Complaint

end ImportAtlas
