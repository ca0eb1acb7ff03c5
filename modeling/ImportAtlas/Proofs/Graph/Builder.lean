import ImportAtlas.Proofs.Graph.Log

/-!
# What a builder holds

A builder that has taken a list of imports holds their edges, each once, and counts their targets,
each as often as it occurs. The list is all that it depends on, and the order of the list does not
count. All this follows from what builders do to logs, because every import contributes two entries
to a log: its edge, and a count of its target under the kind that its name gives.

## Main definitions

* `ImportAtlas.GraphBuilder.keep`: take one import.
* `ImportAtlas.GraphBuilder.Holds`: the builder holds just a list of imports.
* `ImportAtlas.GraphBuilder.contributions`: a list of imports as a log.

## Main results

* `ImportAtlas.GraphBuilder.holds_iff`: a builder holds imports just if it recalls them as a log.
* `ImportAtlas.GraphBuilder.Holds.keep`, `ImportAtlas.GraphBuilder.Holds.merge`: one more import,
  and those of another builder.
* `ImportAtlas.GraphBuilder.Holds.wrap_eq_self`: few imports fit in words.
* `ImportAtlas.GraphBuilder.Holds.eq_of_perm`: builders that hold the same imports are equal.
-/

namespace ImportAtlas.GraphBuilder

variable {b c : GraphBuilder} {l l' : List Edge}

/-- Take one import: note its edge, and count its target under the kind that its name gives. -/
def keep (b : GraphBuilder) (e : Edge) : GraphBuilder :=
  (b.recordEdge e.source e.target).2.count e.target (.classify e.target)

/-- The builder holds just the imports of a list. -/
structure Holds (b : GraphBuilder) (l : List Edge) : Prop where
  /-- The edges are the imports of other modules. -/
  edges : ∀ e, e ∈ b.edges ↔ e ∈ l ∧ e.source ≠ e.target
  /-- Every import counts, and the kind of a module is that of its name. -/
  targets : ∀ t, b.targets.find? t =
    if t ∈ l.map (·.target) then some ⟨.classify t, (l.map (·.target)).count t⟩ else none

/-! ### Imports as contributions -/

open Contribution

/-- What a list of imports contributes: each import an edge and a count of its target. -/
def contributions (l : List Edge) : List Contribution :=
  l.flatMap fun e => [.edge e.source e.target, .count e.target (.classify e.target)]

/-- Each import contributes its edge. -/
lemma edge_mem_contributions {e : Edge} :
    .edge e.source e.target ∈ contributions l ↔ e ∈ l := by
  rw [contributions, List.mem_flatMap]
  constructor
  · rintro ⟨e', he', hmem⟩
    obtain ⟨hsource, htarget⟩ : e.source = e'.source ∧ e.target = e'.target := by simpa using hmem
    cases e
    cases e'
    simp_all
  · exact fun he => ⟨e, he, List.mem_cons_self⟩

/-- A module is counted under the kind that its name gives, once for each of its imports. -/
lemma kindsOf_contributions (t : String) (l : List Edge) :
    kindsOf t (contributions l) = List.replicate ((l.map (·.target)).count t) (.classify t) := by
  induction l with
  | nil => rfl
  | cons e l ih =>
    have hcons : contributions (e :: l) =
        [.edge e.source e.target, .count e.target (.classify e.target)] ++ contributions l := rfl
    rw [hcons, kindsOf_append, ih, List.map_cons]
    by_cases ht : e.target = t
    · subst ht
      have hfirst :
          kindsOf e.target [.edge e.source e.target, .count e.target (.classify e.target)] =
          [.classify e.target] := by simp [kindsOf, List.filterMap_cons, kindFor?]
      rw [hfirst, List.count_cons_self, List.replicate_succ, List.singleton_append]
    · have hfirst : kindsOf t [.edge e.source e.target, .count e.target (.classify e.target)] =
          [] := by simp [kindsOf, kindFor?, ht]
      rw [hfirst, List.count_cons_of_ne ht, List.nil_append]

/-- No module is counted under two kinds, because its name decides. -/
lemma oneKind_contributions (l : List Edge) : OneKind (contributions l) := by
  intro module kind kind' h h'
  rw [← mem_kindsOf, kindsOf_contributions] at h h'
  rw [List.eq_of_mem_replicate h, List.eq_of_mem_replicate h']

/-- A builder holds a list of imports just if it recalls what they contribute. -/
lemma holds_iff : b.Holds l ↔ b.Recalls (contributions l) := by
  have htarget : ∀ t, ((kindsOf t (contributions l)).head?.map fun kind =>
      (⟨kind, (kindsOf t (contributions l)).length⟩ : ModuleInfo)) =
      if t ∈ l.map (·.target) then some ⟨.classify t, (l.map (·.target)).count t⟩ else none := by
    intro t
    rw [kindsOf_contributions, List.head?_replicate, List.length_replicate]
    by_cases ht : t ∈ l.map (·.target)
    · rw [if_neg (List.count_pos_iff.2 ht).ne', if_pos ht, Option.map_some]
    · rw [if_pos (List.count_eq_zero_of_not_mem ht), if_neg ht, Option.map_none]
  constructor
  · exact fun h => ⟨fun e => by rw [h.edges, edge_mem_contributions],
      fun t => by rw [h.targets, htarget]⟩
  · exact fun h => ⟨fun e => by rw [h.edges, edge_mem_contributions],
      fun t => by rw [h.targets, htarget]⟩

/-! ### Steps -/

/-- The empty builder holds nothing. -/
lemma Holds.empty : Holds .empty [] := holds_iff.2 .empty

/-- **One more import.** -/
lemma Holds.keep (h : b.Holds l) (e : Edge) : (b.keep e).Holds (l ++ [e]) := by
  have hlog : contributions (l ++ [e]) = contributions l ++
      [.edge e.source e.target] ++ [.count e.target (.classify e.target)] := by
    simp [contributions]
  rw [holds_iff, hlog]
  exact ((holds_iff.1 h).take (.edge e.source e.target)).take (.count e.target _)

/-- **Two builders together** hold the imports of both. -/
lemma Holds.merge (h : b.Holds l) (h' : c.Holds l') : (b.merge c).Holds (l ++ l') := by
  rw [holds_iff, contributions, List.flatMap_append]
  exact (holds_iff.1 h).merge (holds_iff.1 h')

/-- **The counts of a builder fit in words** if it holds no more imports than a word can count. -/
lemma Holds.wrap_eq_self (h : b.Holds l) (hshort : l.length ≤ Numeral.maxWord) : b.wrap = b := by
  refine (holds_iff.1 h).wrap_eq_self fun module => ?_
  rw [kindsOf_contributions, List.length_replicate]
  calc (l.map (·.target)).count module
    _ ≤ (l.map (·.target)).length := List.count_le_length
    _ = l.length := List.length_map ..
    _ ≤ Numeral.maxWord := hshort

/-! ### What the list decides -/

/-- **Builders that hold the same imports, in whatever order, are equal.** -/
lemma Holds.eq_of_perm (h : b.Holds l) (h' : c.Holds l') (hl : l.Perm l') : b = c := by
  have hlog : (contributions l).Perm (contributions l') := hl.flatMap_right _
  exact ((holds_iff.1 h).of_perm (oneKind_contributions l) hlog).eq (holds_iff.1 h')

end ImportAtlas.GraphBuilder
