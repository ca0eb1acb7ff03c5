import ImportAtlas.Graph.Basic
import ImportAtlas.Proofs.Sorted.Map
import Mathlib.Data.List.Sort
import Mathlib.Tactic.Lemma

/-!
# The ranking of imported modules

A ranking lists the targets of a graph by falling count, and those of equal count by name. The sort
only compares counts: the names are in order because the targets are sorted by name before, and
equal counts stay as they are. There is one such list of all targets, and the ranking down to a rank
is the front of it.

## Main definitions

* `ImportAtlas.RanksBefore`: one target comes before another one.
* `ImportAtlas.ModuleGraph.IsRanking`: a list has every target once, in the order of the ranking.

## Main results

* `ImportAtlas.pairwise_ranksBefore`: sorting by count alone puts ascending entries in order.
* `ImportAtlas.ModuleGraph.IsRanking.eq`: there is no other list of this kind.
* `ImportAtlas.ModuleGraph.ranking_front`: the ranking down to a rank is the front of that list.
-/

namespace ImportAtlas

/-- A target comes before another one: it is imported more often, or as often and its name is
smaller. -/
def RanksBefore (a b : String × ModuleInfo) : Prop :=
  b.2.count < a.2.count ∨ (a.2.count = b.2.count ∧ compare a.1 b.1 = .lt)

/-- Of two targets only one comes before the other. -/
lemma RanksBefore.asymm {a b : String × ModuleInfo} (h : RanksBefore a b) : ¬RanksBefore b a := by
  rcases h with h | ⟨heq, h⟩ <;> rintro (h' | ⟨heq', h'⟩)
  · exact lt_asymm h h'
  · exact absurd heq' h.ne
  · exact absurd heq h'.ne
  · exact Std.OrientedCmp.not_lt_of_lt h h'

/-- A list has every target of a graph once, in the order of the ranking. -/
structure ModuleGraph.IsRanking (g : ModuleGraph) (l : List (String × ModuleInfo)) : Prop where
  /-- Its entries are the targets, each with its kind and its count. -/
  entries : ∀ name info, (name, info) ∈ l ↔ g.targets.find? name = some info
  /-- No target is listed twice. -/
  nodup : (l.map (·.1)).Nodup
  /-- Each entry comes before those that follow it. -/
  ordered : l.Pairwise RanksBefore

/-! ### Sorting -/

/-- **Sorting by count alone puts ascending entries in the order of the ranking.**

**Proof sketch.** The induction is on the entries, the least name first. Only entries with a greater
count get in front of that one, and those behind it have no greater count and a greater name. -/
lemma pairwise_ranksBefore {entries : List (String × ModuleInfo)}
    (h : SortedMap.Ascending entries) :
    (entries.mergeSort fun a b => b.2.count ≤ a.2.count).Pairwise RanksBefore := by
  set le : String × ModuleInfo → String × ModuleInfo → Bool := fun a b => b.2.count ≤ a.2.count
    with hle
  have htrans : ∀ a b c, le a b = true → le b c = true → le a c = true := by
    simp only [hle, decide_eq_true_eq]
    exact fun a b c hab hbc => hbc.trans hab
  have htotal : ∀ a b, (le a b || le b a) = true := by
    simp only [hle, Bool.or_eq_true, decide_eq_true_eq]
    exact fun a b => le_total _ _
  induction entries with
  | nil => simp
  | cons a rest ih =>
    obtain ⟨front, back, hsort, hrest, hfront⟩ := List.mergeSort_cons htrans htotal a rest
    have hbefore : ∀ b ∈ front, RanksBefore b a := by
      intro b hb
      have hcount := hfront b hb
      simp only [hle, Bool.not_eq_true', decide_eq_false_iff_not, not_le] at hcount
      exact .inl hcount
    have hafter : ∀ b ∈ back, RanksBefore a b := by
      intro b hb
      have hsorted := List.pairwise_mergeSort htrans htotal (a :: rest)
      rw [hsort] at hsorted
      have hcount := List.rel_of_pairwise_cons (List.pairwise_append.1 hsorted).2.1 hb
      simp only [hle, decide_eq_true_eq] at hcount
      have hmem : b ∈ rest.mergeSort le := hrest ▸ List.mem_append_right _ hb
      have hname : compare a.1 b.1 = .lt :=
        (List.pairwise_cons.1 h).1 b (List.mem_mergeSort.1 hmem)
      exact hcount.lt_or_eq.imp id fun heq => ⟨heq.symm, hname⟩
    have hboth := ih h.tail
    rw [hrest, List.pairwise_append] at hboth
    obtain ⟨hpair, hpair', hacross⟩ := hboth
    rw [hsort]
    refine List.pairwise_append.2
      ⟨hpair, List.pairwise_cons.2 ⟨hafter, hpair'⟩, fun b hb c hc => ?_⟩
    rcases List.mem_cons.1 hc with rfl | hc
    · exact hbefore b hb
    · exact hacross b hb c hc

namespace ModuleGraph

variable {g : ModuleGraph} {l : List (String × ModuleInfo)}

/-! ### Rankings -/

/-- **There is one ranking only.** Two ordered lists of the same targets are equal. -/
lemma IsRanking.eq {l' : List (String × ModuleInfo)} (h : g.IsRanking l) (h' : g.IsRanking l') :
    l = l' := by
  have hasymm : Std.Asymm RanksBefore := ⟨fun _ _ => RanksBefore.asymm⟩
  exact h.ordered.eq_of_mem_iff h'.ordered fun (name, info) =>
    (h.entries name info).trans (h'.entries name info).symm

/-- A ranking is as long as there are targets. -/
lemma IsRanking.length_eq (h : g.IsRanking l) : l.length = g.targets.size := by
  have hnames : (l.map (·.1)).Perm g.targets.keys := by
    refine (List.perm_ext_iff_of_nodup h.nodup g.targets.nodup_keys).2 fun name => ?_
    simp [SortedMap.keys, h.entries, SortedMap.find?_eq_some_iff]
  simpa [SortedMap.keys, SortedMap.size] using hnames.length_eq

/-- The targets of a graph, sorted by count, are a ranking. -/
lemma isRanking_mergeSort (g : ModuleGraph) :
    g.IsRanking (g.targets.entries.mergeSort fun a b => b.2.count ≤ a.2.count) where
  entries name info := by rw [List.mem_mergeSort, SortedMap.find?_eq_some_iff]
  nodup := ((List.mergeSort_perm _ _).map _).nodup_iff.2 g.targets.nodup_keys
  ordered := pairwise_ranksBefore g.targets.ascending

/-- What is left out at a rank comes after all that is not. -/
lemma IsRanking.ranksBefore_of_not_mem_take {n : Nat} {a b : String × ModuleInfo}
    (h : g.IsRanking l) (ha : a ∈ l.take n) (hb : b ∈ l) (hout : b ∉ l.take n) :
    RanksBefore a b := by
  have hdrop : b ∈ l.drop n := by
    rw [← List.take_append_drop n l, List.mem_append] at hb
    exact hb.resolve_left hout
  have hordered := h.ordered
  rw [← List.take_append_drop n l, List.pairwise_append] at hordered
  exact hordered.2.2 a ha b hdrop

/-- **The ranking of the targets.** For every graph, whether its parts agree or not, there is
exactly one list that has every target once and in order, and the ranking down to a rank is the
front of it: as many targets as the rank says, or all if there are fewer. So a ranking down to a
higher rank begins with the one down to a lower rank, and a target that is left out comes after
every target that is not. -/
theorem ranking_front (g : ModuleGraph) :
    ∃ full, g.IsRanking full ∧ (∀ l, g.IsRanking l → l = full) ∧
      ∀ n, g.ranking n = full.take n ∧ (g.ranking n).length = min n g.targets.size ∧
        (∀ m, n ≤ m → g.ranking n <+: g.ranking m) ∧
        ∀ name info, g.targets.find? name = some info → (name, info) ∉ g.ranking n →
          ∀ a ∈ g.ranking n, RanksBefore a (name, info) := by
  have hfull := g.isRanking_mergeSort
  refine ⟨_, hfull, fun l hl => hl.eq hfull, fun n => ⟨rfl, ?_, ?_, ?_⟩⟩
  · rw [ranking, List.length_take, hfull.length_eq]
  · exact fun m hnm => List.take_prefix_take_left hnm
  · intro name info hinfo hout a ha
    exact hfull.ranksBefore_of_not_mem_take ha ((hfull.entries name info).2 hinfo) hout

end ModuleGraph

end ImportAtlas
