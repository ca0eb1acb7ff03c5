/-!
# Sorted sets

A finite set kept as the list of its members in strictly ascending order, so that equal sets have
equal lists and every listing of a set is sorted.

## Main definitions

* `ImportAtlas.SortedSet`: the members with the proof that they ascend.
* `ImportAtlas.SortedSet.insert`, `ImportAtlas.SortedSet.union`: adding one member, or those of
  another set.

## Main statements

* `ImportAtlas.SortedSet.Ascending.insert`: inserting keeps the members ascending.
-/

namespace ImportAtlas

/-- A list that ascends strictly. -/
def SortedSet.Ascending {α : Type} [Ord α] (members : List α) : Prop :=
  members.Pairwise fun a b => compare a b = .lt

/-- A finite set as its members in strictly ascending order. -/
structure SortedSet (α : Type) [Ord α] where
  /-- The members, smallest first. -/
  toList : List α
  /-- No member comes before a smaller or equal one. -/
  ascending : SortedSet.Ascending toList

namespace SortedSet

variable {α : Type} [Ord α]

/-! ### Member lists -/

/-- Put `x` at its place in an ascending list, unless it is there. -/
def insertMember (x : α) : List α → List α
  | [] => [x]
  | y :: rest =>
    match compare x y with
    | .lt => x :: y :: rest
    | .eq => y :: rest
    | .gt => y :: insertMember x rest

/-- After an insertion there are the old members and at most the new one. -/
theorem mem_of_mem_insertMember {x y : α} {members : List α} (h : y ∈ insertMember x members) :
    y = x ∨ y ∈ members := by
  induction members with
  | nil => simp_all [insertMember]
  | cons z rest ih =>
    rw [insertMember] at h
    split at h
    · exact List.mem_cons.1 h
    · exact .inr h
    · rcases List.mem_cons.1 h with rfl | h
      · exact .inr List.mem_cons_self
      · exact (ih h).imp id (List.mem_cons_of_mem _)

/-- Inserting keeps the members ascending. -/
theorem Ascending.insert [Std.TransOrd α] {members : List α} (h : Ascending members) (x : α) :
    Ascending (insertMember x members) := by
  induction members with
  | nil => exact List.pairwise_singleton _ _
  | cons y rest ih =>
    have ⟨below, tail⟩ := List.pairwise_cons.1 h
    rw [insertMember]
    split
    · rename_i hlt
      refine List.pairwise_cons.2 ⟨fun z hz => ?_, h⟩
      rcases List.mem_cons.1 hz with rfl | hz
      · exact hlt
      · exact Std.TransCmp.lt_trans hlt (below z hz)
    · exact h
    · rename_i hgt
      refine List.pairwise_cons.2 ⟨fun z hz => ?_, ih tail⟩
      rcases mem_of_mem_insertMember hz with rfl | hz
      · exact Std.OrientedCmp.gt_iff_lt.1 hgt
      · exact below z hz

/-! ### Sets -/

/-- The set without members. -/
def empty : SortedSet α := ⟨[], List.Pairwise.nil⟩

instance : Inhabited (SortedSet α) := ⟨empty⟩

instance : EmptyCollection (SortedSet α) := ⟨empty⟩

/-- Two sets are equal when their member lists are. -/
@[ext] theorem ext {s t : SortedSet α} (h : s.toList = t.toList) : s = t := by
  cases s; cases t; cases h; rfl

instance [DecidableEq α] : DecidableEq (SortedSet α) := fun s t =>
  if h : s.toList = t.toList then .isTrue (ext h) else .isFalse fun e => h (e ▸ rfl)

/-- Membership is membership in the list. -/
instance : Membership α (SortedSet α) := ⟨fun s x => x ∈ s.toList⟩

/-- How many members the set has. -/
def size (s : SortedSet α) : Nat := s.toList.length

/-- Whether `x` is a member. -/
def contains (s : SortedSet α) (x : α) : Bool := s.toList.any fun y => compare x y == .eq

variable [Std.TransOrd α]

/-- The set with `x` added. -/
def insert (s : SortedSet α) (x : α) : SortedSet α :=
  ⟨insertMember x s.toList, s.ascending.insert x⟩

/-- The set of the members of a list. -/
def ofList (members : List α) : SortedSet α := members.foldl insert empty

/-- The set with the members of `t` added. -/
def union (s t : SortedSet α) : SortedSet α := t.toList.foldl insert s

end SortedSet

end ImportAtlas
