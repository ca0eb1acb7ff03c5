import ImportAtlas.Sorted.Set
import Mathlib.Data.List.Sort
import Mathlib.Tactic.Lemma

/-!
# Membership in sorted sets

What the operations on a sorted set do to its members, and that a set is determined by them.

## Main results

* `ImportAtlas.SortedSet.mem_insert`, `ImportAtlas.SortedSet.mem_ofList`,
  `ImportAtlas.SortedSet.mem_union`: the members after an operation.
* `ImportAtlas.SortedSet.contains_iff`: a set is asked for a member by looking for it.
* `ImportAtlas.SortedSet.ext_mem`: two sets with the same members are equal.
* `ImportAtlas.SortedSet.toList_eq_filter`: a subset is listed by leaving out the other members.
* `ImportAtlas.SortedSet.ofList_toList`: a set is the set of its members.
-/

namespace ImportAtlas.SortedSet

variable {α : Type} [Ord α]

/-! ### Members -/

lemma not_mem_empty (x : α) : x ∉ (∅ : SortedSet α) := List.not_mem_nil

variable [Std.LawfulEqOrd α]

/-- After an insertion into a list the members are the old ones and the new one. -/
lemma mem_insertMember {x y : α} {members : List α} :
    y ∈ insertMember x members ↔ y = x ∨ y ∈ members := by
  refine ⟨mem_of_mem_insertMember, fun h => ?_⟩
  induction members with
  | nil => simpa [insertMember] using h
  | cons z rest ih =>
    rw [insertMember]
    cases hc : compare x z with
    | lt => exact List.mem_cons.2 h
    | eq =>
      obtain rfl := Std.LawfulEqCmp.eq_of_compare hc
      exact List.mem_cons.2 (h.elim .inl List.mem_cons.1)
    | gt =>
      rcases h with rfl | h
      · exact List.mem_cons_of_mem _ (ih (.inl rfl))
      · rcases List.mem_cons.1 h with rfl | h
        · exact List.mem_cons_self
        · exact List.mem_cons_of_mem _ (ih (.inr h))

/-- Whether a set has a member is what the test for it says. -/
lemma contains_iff {s : SortedSet α} {x : α} : s.contains x = true ↔ x ∈ s := by
  rw [contains, List.any_eq_true]
  constructor
  · rintro ⟨y, hy, hxy⟩
    obtain rfl := Std.LawfulEqCmp.eq_of_compare (beq_iff_eq.1 hxy)
    exact hy
  · exact fun h => ⟨x, h, by simp [Std.ReflCmp.compare_self]⟩

variable [Std.TransOrd α]

/-- An insertion adds the new member. -/
@[simp] lemma mem_insert {s : SortedSet α} {x y : α} : y ∈ s.insert x ↔ y = x ∨ y ∈ s :=
  mem_insertMember

/-- Insertions one after the other add the members of a list. -/
lemma mem_foldl_insert {s : SortedSet α} {l : List α} {y : α} :
    y ∈ l.foldl insert s ↔ y ∈ s ∨ y ∈ l := by
  induction l generalizing s with
  | nil => simp
  | cons x rest ih =>
    rw [List.foldl_cons, ih, mem_insert, List.mem_cons]
    tauto

/-- The set of a list has the members of the list. -/
@[simp] lemma mem_ofList {l : List α} {y : α} : y ∈ ofList l ↔ y ∈ l := by
  rw [ofList, mem_foldl_insert]
  exact or_iff_right (not_mem_empty y)

/-- A union has the members of both sets. -/
@[simp] lemma mem_union {s t : SortedSet α} {y : α} : y ∈ s.union t ↔ y ∈ s ∨ y ∈ t :=
  mem_foldl_insert

omit [Std.LawfulEqOrd α] in
/-- **Extensionality**: two sets with the same members are equal.

**Proof sketch.** Both member lists ascend strictly. -/
theorem ext_mem {s t : SortedSet α} (h : ∀ x, x ∈ s ↔ x ∈ t) : s = t := by
  have hasymm : Std.Asymm fun a b : α => compare a b = .lt :=
    ⟨fun _ _ hab hba => Std.OrientedCmp.not_lt_of_lt hab hba⟩
  exact ext (List.Pairwise.eq_of_mem_iff s.ascending t.ascending h)

omit [Std.LawfulEqOrd α] in
/-- The members with a property are listed in their old order. -/
lemma toList_eq_filter {s t : SortedSet α} {p : α → Prop} [DecidablePred p]
    (h : ∀ x, x ∈ s ↔ x ∈ t ∧ p x) : s.toList = t.toList.filter p := by
  have hpart : s = ⟨t.toList.filter p, t.ascending.filter _⟩ := by
    refine ext_mem fun x => (h x).trans ?_
    have hmem : x ∈ t.toList.filter p ↔ x ∈ t.toList ∧ p x := by
      rw [List.mem_filter, decide_eq_true_eq]
    exact hmem.symm
  exact congrArg toList hpart

omit [Std.TransOrd α] in
/-- No member is listed twice. -/
lemma nodup_toList (s : SortedSet α) : s.toList.Nodup := by
  refine List.Pairwise.imp (fun {a b} hab heq => ?_) s.ascending
  have hself : compare b b = .eq := Std.ReflCmp.compare_self
  rw [heq, hself] at hab
  cases hab

/-- A set is the set of its members. -/
lemma ofList_toList (s : SortedSet α) : ofList s.toList = s := ext_mem fun _ => mem_ofList

end ImportAtlas.SortedSet
