import ImportAtlas.Sorted.Map
import Mathlib.Algebra.BigOperators.Group.List.Lemmas
import Mathlib.Algebra.GroupWithZero.Nat
import Mathlib.Data.List.Dedup
import Mathlib.Data.List.Sort
import Mathlib.Tactic.Lemma

/-!
# Lookup in sorted maps

What the operations on a sorted map do to the value bound to a key, and that a map is determined by
its bindings. Proofs about maps go through `find?` and never look at the list of entries.

## Main results

* `ImportAtlas.SortedMap.find?_adjust_self`, `ImportAtlas.SortedMap.find?_adjust_of_ne`: rebinding
  one key.
* `ImportAtlas.SortedMap.find?_absorb`: adding the bindings of another map.
* `ImportAtlas.SortedMap.find?_filter`: keeping a part of the bindings.
* `ImportAtlas.SortedMap.ext_find?`: two maps with the same bindings are equal.
* `ImportAtlas.SortedMap.ofList_entries`: a map is the map of its entries.
* `ImportAtlas.SortedMap.entries_perm`: the entries of a map whose bindings are known.
* `ImportAtlas.SortedMap.Counts.add`, `ImportAtlas.SortedMap.Counts.absorb`: maps that count how
  often each key occurs in a list.
* `ImportAtlas.SortedMap.Counts.sum_values`: the counts of a list add up to its length.
-/

namespace ImportAtlas.SortedMap

variable {κ α : Type} [Ord κ]

/-! ### Entry lists -/

/-- A key below all keys of an entry list is not bound in it. -/
lemma lookup_eq_none_of_lt {key : κ} {entries : List (κ × α)}
    (h : ∀ e ∈ entries, compare key e.1 = .lt) : lookup key entries = none := by
  induction entries with
  | nil => rfl
  | cons e rest ih =>
    obtain ⟨k, v⟩ := e
    have hk : compare key k = .lt := h (k, v) List.mem_cons_self
    rw [lookup, if_neg (by simp [hk])]
    exact ih fun e he => h e (List.mem_cons_of_mem _ he)

/-- The head of an ascending entry list binds a key that the rest does not bind. -/
lemma lookup_tail_eq_none {k : κ} {v : α} {rest : List (κ × α)}
    (h : Ascending ((k, v) :: rest)) : lookup k rest = none :=
  lookup_eq_none_of_lt (List.pairwise_cons.1 h).1

variable [Std.LawfulEqOrd κ]

/-- An adjustment leaves the other keys alone. -/
lemma lookup_adjustEntries_of_ne {key other : κ} (hne : other ≠ key) (f : Option α → α)
    (entries : List (κ × α)) :
    lookup other (adjustEntries key f entries) = lookup other entries := by
  have hcmp : compare other key ≠ .eq := fun h => hne (Std.LawfulEqCmp.eq_of_compare h)
  induction entries with
  | nil => simp [adjustEntries, lookup, hcmp]
  | cons e rest ih =>
    obtain ⟨k, v⟩ := e
    rw [adjustEntries]
    cases hc : compare key k with
    | lt => simp [lookup, hcmp]
    | eq =>
      obtain rfl := Std.LawfulEqCmp.eq_of_compare hc
      simp [lookup, hcmp]
    | gt => simp [lookup, ih]

/-- In an ascending entry list the lookup finds exactly the entries. -/
lemma lookup_eq_some_iff {key : κ} {v : α} {entries : List (κ × α)} (h : Ascending entries) :
    lookup key entries = some v ↔ (key, v) ∈ entries := by
  induction entries with
  | nil => simp [lookup]
  | cons e rest ih =>
    obtain ⟨k, w⟩ := e
    have htail := lookup_tail_eq_none h
    rw [lookup, List.mem_cons, ← ih h.tail]
    split
    · rename_i heq
      obtain rfl := Std.LawfulEqCmp.eq_of_compare heq
      simp [htail, eq_comm]
    · rename_i hne
      have hk : key ≠ k := by
        rintro rfl
        exact hne Std.ReflCmp.compare_self
      simp [hk]

/-- A key of a map is bound to a value exactly when the pair is an entry. -/
lemma find?_eq_some_iff {m : SortedMap κ α} {key : κ} {v : α} :
    m.find? key = some v ↔ (key, v) ∈ m.entries :=
  lookup_eq_some_iff m.ascending

/-- No key is bound twice. -/
lemma nodup_keys (m : SortedMap κ α) : m.keys.Nodup := by
  refine List.Pairwise.map _ (fun a b hab heq => ?_) m.ascending
  have hself : compare b.1 b.1 = .eq := Std.ReflCmp.compare_self
  rw [heq, hself] at hab
  cases hab

/-- A map that binds just the members of a list, each to a value of its own, has one entry for each
of them. -/
lemma entries_perm [DecidableEq κ] {m : SortedMap κ α} {l : List κ} {f : κ → α}
    (h : ∀ key, m.find? key = if key ∈ l then some (f key) else none) :
    m.entries.Perm (l.dedup.map fun key => (key, f key)) := by
  have hleft : m.entries.Nodup := List.Nodup.of_map _ m.nodup_keys
  have hright : (l.dedup.map fun key => (key, f key)).Nodup :=
    (List.nodup_dedup l).map fun a b hab => congrArg Prod.fst hab
  refine (List.perm_ext_iff_of_nodup hleft hright).2 fun ⟨key, v⟩ => ?_
  rw [← find?_eq_some_iff, h key]
  by_cases hk : key ∈ l
  · simp [hk]
  · simp [hk]

variable [Std.TransOrd κ]

/-- After an adjustment the key is bound to the new value. -/
lemma lookup_adjustEntries_self (key : κ) (f : Option α → α) {entries : List (κ × α)}
    (h : Ascending entries) :
    lookup key (adjustEntries key f entries) = some (f (lookup key entries)) := by
  induction entries with
  | nil => simp [adjustEntries, lookup, Std.ReflCmp.compare_self]
  | cons e rest ih =>
    obtain ⟨k, v⟩ := e
    rw [adjustEntries]
    cases hc : compare key k with
    | lt =>
      have hnone : lookup key ((k, v) :: rest) = none := by
        refine lookup_eq_none_of_lt fun e he => ?_
        rcases List.mem_cons.1 he with rfl | he
        · exact hc
        · exact Std.TransCmp.lt_trans hc ((List.pairwise_cons.1 h).1 e he)
      rw [hnone]
      simp [lookup, Std.ReflCmp.compare_self]
    | eq => simp [lookup, hc]
    | gt => simpa [lookup, hc] using ih h.tail

/-! ### Bindings of a map -/

omit [Std.TransOrd κ] [Std.LawfulEqOrd κ] in
@[simp] lemma find?_empty (key : κ) : (∅ : SortedMap κ α).find? key = none := rfl

/-- Rebinding a key binds it to the new value. -/
@[simp] lemma find?_adjust_self (m : SortedMap κ α) (key : κ) (f : Option α → α) :
    (m.adjust key f).find? key = some (f (m.find? key)) :=
  lookup_adjustEntries_self key f m.ascending

/-- Rebinding a key leaves the other keys alone. -/
lemma find?_adjust_of_ne (m : SortedMap κ α) {key other : κ} (hne : other ≠ key)
    (f : Option α → α) : (m.adjust key f).find? other = m.find? other :=
  lookup_adjustEntries_of_ne hne f m.entries

/-- The bindings after a key was bound to a value. -/
lemma find?_insert [DecidableEq κ] (m : SortedMap κ α) (key other : κ) (v : α) :
    (m.insert key v).find? other = if other = key then some v else m.find? other := by
  by_cases h : other = key
  · subst h
    rw [if_pos rfl]
    exact find?_adjust_self m other fun _ => v
  · rw [if_neg h]
    exact find?_adjust_of_ne m h fun _ => v

/-- The binding of a key after a merge: what the second map binds is combined with what the first
map binds, and all other bindings of the first map stay.

**Proof sketch.** Induction on the entries of the second map, for every first map. The keys of the
entries ascend, so the entry at the head is the only one that touches its key. -/
lemma find?_absorb (combine : Option α → α → α) (m n : SortedMap κ α) (key : κ) :
    (m.absorb combine n).find? key =
      match n.find? key with
      | some v => some (combine (m.find? key) v)
      | none => m.find? key := by
  obtain ⟨entries, h⟩ := n
  simp only [absorb, find?]
  induction entries generalizing m with
  | nil => rfl
  | cons e rest ih =>
    obtain ⟨k, v⟩ := e
    have htail := lookup_tail_eq_none h
    rw [List.foldl_cons, ih _ h.tail]
    by_cases hk : key = k
    · subst hk
      rw [htail, lookup, if_pos Std.ReflCmp.compare_self]
      exact find?_adjust_self m key _
    · have hcmp : compare key k ≠ .eq := fun hc => hk (Std.LawfulEqCmp.eq_of_compare hc)
      have hsame := find?_adjust_of_ne m hk fun old => combine old v
      simp only [find?] at hsame
      rw [lookup, if_neg hcmp, hsame]

omit [Std.TransOrd κ] in
/-- The bindings of a part of a map are those that are accepted. -/
lemma find?_filter (m : SortedMap κ α) (p : κ → α → Bool) (key : κ) :
    (m.filter p).find? key = (m.find? key).filter (p key) := by
  ext v
  rw [find?_eq_some_iff, Option.filter_eq_some_iff, find?_eq_some_iff]
  exact List.mem_filter

omit [Std.TransOrd κ] in
/-- A key is bound to the changed value if the values of a map are changed. -/
lemma find?_mapValues {β : Type} (m : SortedMap κ α) (f : κ → α → β) (key : κ) :
    (m.mapValues f).find? key = (m.find? key).map (f key) := by
  ext v
  rw [find?_eq_some_iff, Option.map_eq_some_iff]
  simp only [find?_eq_some_iff, mapValues, List.mem_map, Prod.mk.injEq]
  constructor
  · rintro ⟨e, he, rfl, rfl⟩
    exact ⟨e.2, he, rfl⟩
  · rintro ⟨w, hw, rfl⟩
    exact ⟨(key, w), hw, rfl, rfl⟩

/-- **Extensionality**: two maps with the same bindings are equal.

**Proof sketch.** Maps with equal bindings have the same entries, and both lists of entries ascend
strictly. -/
theorem ext_find? {m n : SortedMap κ α} (h : ∀ key, m.find? key = n.find? key) : m = n := by
  have hasymm : Std.Asymm fun a b : κ × α => compare a.1 b.1 = .lt :=
    ⟨fun _ _ hab hba => Std.OrientedCmp.not_lt_of_lt hab hba⟩
  have hmem : ∀ e, e ∈ m.entries ↔ e ∈ n.entries := fun e => by
    rw [← find?_eq_some_iff, ← find?_eq_some_iff, h]
  exact ext (List.Pairwise.eq_of_mem_iff m.ascending n.ascending hmem)

/-- What the map of a list binds is in the list. -/
lemma mem_of_find?_ofList {l : List (κ × α)} {key : κ} {v : α} (h : (ofList l).find? key = some v) :
    (key, v) ∈ l := by
  have hfold : ∀ (l : List (κ × α)) (m : SortedMap κ α),
      (l.foldl (fun m e => m.insert e.1 e.2) m).find? key = some v →
        (key, v) ∈ l ∨ m.find? key = some v := by
    intro l
    induction l with
    | nil => exact fun m h => .inr h
    | cons e rest ih =>
      intro m h
      obtain hrest | hinsert := ih _ h
      · exact .inl (List.mem_cons_of_mem _ hrest)
      · by_cases hkey : key = e.1
        · subst hkey
          have hself := find?_adjust_self m e.1 fun _ => e.2
          obtain rfl := Option.some.inj (hself.symm.trans hinsert)
          exact .inl List.mem_cons_self
        · exact .inr ((find?_adjust_of_ne m hkey fun _ => e.2).symm.trans hinsert)
  exact (hfold l empty h).resolve_right (by simp [empty, find?, lookup])

/-- A map is the map of its entries. -/
lemma ofList_entries (m : SortedMap κ α) : ofList m.entries = m := by
  have habsorb : ofList m.entries = (∅ : SortedMap κ α).absorb (fun _ v => v) m := rfl
  refine ext_find? fun key => ?_
  rw [habsorb, find?_absorb]
  cases m.find? key <;> rfl

/-! ### Counting -/

/-- The map counts how often each key occurs in a list, and binds no other key. -/
def Counts [DecidableEq κ] (m : SortedMap κ Nat) (l : List κ) : Prop :=
  ∀ key, m.find? key = if key ∈ l then some (l.count key) else none

section Counts

variable [DecidableEq κ] {m n : SortedMap κ Nat} {l l' : List κ}

omit [Std.TransOrd κ] [Std.LawfulEqOrd κ] in
/-- The empty map counts the empty list. -/
lemma Counts.empty : Counts (∅ : SortedMap κ Nat) [] := fun key => by simp

/-- One more occurrence of a key. -/
lemma Counts.add (h : m.Counts l) (key : κ) :
    (m.adjust key fun n => n.getD 0 + 1).Counts (l ++ [key]) := by
  intro other
  by_cases hk : other = key
  · subst hk
    rw [find?_adjust_self, h other]
    by_cases hmem : other ∈ l
    · simp [hmem, List.count_append]
    · simp [hmem, List.count_append, List.count_eq_zero_of_not_mem hmem]
  · have hc : List.count other [key] = 0 := List.count_eq_zero_of_not_mem (by simpa using hk)
    rw [find?_adjust_of_ne m hk, h other]
    simp [hk, List.count_append, hc]

/-- The counts of two lists add up to those of the lists together. -/
lemma Counts.absorb (h : m.Counts l) (h' : n.Counts l') :
    (m.absorb (fun old k => old.getD 0 + k) n).Counts (l ++ l') := by
  intro key
  rw [find?_absorb, h key, h' key]
  by_cases hl : key ∈ l <;> by_cases hl' : key ∈ l' <;>
    simp [hl, hl', List.count_append, List.count_eq_zero_of_not_mem]

omit [Std.TransOrd κ] in
/-- The counts of a list add up to its length. -/
lemma Counts.sum_values (h : m.Counts l) : m.values.sum = l.length := by
  have hvalues := (entries_perm h).map (·.2)
  rw [List.map_map] at hvalues
  rw [values, hvalues.sum_eq]
  exact List.sum_map_count_dedup_eq_length l

/-- Counting does not see the order of a list. -/
lemma Counts.eq_of_perm (h : m.Counts l) (h' : n.Counts l') (hl : l.Perm l') : m = n :=
  ext_find? fun key => by rw [h key, h' key, hl.count_eq key, if_congr hl.mem_iff rfl rfl]

end Counts

end ImportAtlas.SortedMap
