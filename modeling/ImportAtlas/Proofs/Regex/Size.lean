import ImportAtlas.Regex.Footprint
import Mathlib.Algebra.BigOperators.Ring.List
import Mathlib.Algebra.Order.BigOperators.Group.List
import Mathlib.Data.List.SplitBy
import Mathlib.Tactic.Ring

/-!
# The size of expressions

How much room an expression takes, by how it is put together. That of a sequence is the sum of that
of its parts. That of a set of characters is bounded by how many byte sequences the set has, so that
its automata need not be built.

## Main results

* `ImportAtlas.Regex.sum_stateSize_le`: the room of a trie by the number of its sequences.
* `ImportAtlas.Regex.charSize_bounds`, `ImportAtlas.Regex.Expr.size_chars_le`: bounds on the size of
  a character and of a set.
* `ImportAtlas.Regex.Expr.size_sequence`: the size of a sequence.
-/

namespace ImportAtlas.Regex

open Unicode

/-- Without its repetitions a list is a part of itself. -/
lemma eraseDups_sublist {α : Type} [BEq α] (l : List α) : l.eraseDups.Sublist l := by
  induction hlength : l.length using Nat.strong_induction_on generalizing l with
  | _ length ih =>
    cases l with
    | nil => exact .slnil
    | cons x l =>
      rw [List.eraseDups_cons]
      have hle : (l.filter fun y => !y == x).length < length := by
        rw [← hlength]
        exact Nat.lt_succ_of_le (List.length_filter_le _ _)
      exact .cons_cons x ((ih _ hle _ rfl).trans List.filter_sublist)

/-! ### Tries -/

/-- The room of a state of a trie. -/
def stateSize (sequences : List (List ByteRange)) : Nat := 32 + 8 * (groupTails sequences).length

variable {sequences : List (List ByteRange)}

/-- The groups of some sequences hold as many sequences together. -/
lemma sum_length_groupTails (sequences : List (List ByteRange)) :
    ((groupTails sequences).map List.length).sum = sequences.length := by
  have hflatten := congrArg List.length (List.flatten_splitBy
    (fun a b : List ByteRange => a.head? == b.head?) sequences)
  rw [List.length_flatten] at hflatten
  simpa [groupTails, Function.comp_def] using hflatten

/-- There are no more groups than sequences. -/
lemma length_groupTails_le (sequences : List (List ByteRange)) :
    (groupTails sequences).length ≤ sequences.length := by
  have hone : ∀ n ∈ (groupTails sequences).map List.length, 1 ≤ n := by
    simp only [groupTails, List.map_map, List.forall_mem_map, Function.comp_apply, List.length_map]
    exact fun g hg => List.length_pos_iff.2 (List.ne_nil_of_mem_splitBy hg)
  calc (groupTails sequences).length = ((groupTails sequences).map List.length).length := by simp
    _ ≤ ((groupTails sequences).map List.length).sum := List.length_le_sum_of_one_le _ hone
    _ = sequences.length := sum_length_groupTails sequences

/-- **The room of a trie** is bounded by the number of its levels and of its sequences.

**Proof sketch.** Induction on the levels. The state of a level has at most one transition for each
sequence, and the tails of the sequences are grouped below it without any of them being taken twice.
-/
lemma sum_stateSize_le (n : Nat) (sequences : List (List ByteRange)) :
    ((trieStates n sequences).map stateSize).sum ≤ 40 * n * sequences.length := by
  induction n generalizing sequences with
  | zero => simp [trieStates]
  | succ n ih =>
    rw [trieStates]
    split
    · simp
    · rename_i hsome
      have hpos : 1 ≤ sequences.length := by
        refine List.length_pos_iff.2 fun hnil => hsome ?_
        rw [hnil, List.all_nil]
      have hgroups := length_groupTails_le sequences
      have hbelow : (((groupTails sequences).flatMap (trieStates n)).map stateSize).sum ≤
          40 * n * sequences.length := by
        calc (((groupTails sequences).flatMap (trieStates n)).map stateSize).sum
            = ((groupTails sequences).map fun g => ((trieStates n g).map stateSize).sum).sum := by
              rw [List.map_flatMap, List.flatMap, List.sum_flatten, List.map_map]
              rfl
          _ ≤ ((groupTails sequences).map fun g => 40 * n * g.length).sum :=
              List.sum_le_sum fun g _ => ih g
          _ = 40 * n * sequences.length := by
              rw [List.sum_map_mul_left, sum_length_groupTails]
      rw [List.map_cons, List.sum_cons, stateSize]
      calc 32 + 8 * (groupTails sequences).length + _
          ≤ 40 * sequences.length + 40 * n * sequences.length := by omega
        _ = 40 * (n + 1) * sequences.length := by ring

/-- A sequence of byte ranges has no more of them than a character has bytes. -/
lemma length_le_of_mem_byteRanges {fuel low high : Nat} :
    ∀ s ∈ byteRanges fuel low high, s.length ≤ 4 := by
  induction fuel generalizing low high with
  | zero => simp [byteRanges]
  | succ fuel ih =>
    intro s hs
    rw [byteRanges] at hs
    split at hs
    · rcases List.mem_append.1 hs with hs | hs
      · exact ih s hs
      · exact ih s hs
    · obtain rfl := List.mem_singleton.1 hs
      have hlow : (encodeScalar low).length ≤ 4 := by
        unfold encodeScalar
        repeat' split
        all_goals simp
      rw [List.length_zip]
      omega

/-- The room of some states, added up one by one. -/
lemma foldl_stateSize (states : List (List (List ByteRange))) (start : Nat) :
    states.foldl (fun n s => n + (32 + 8 * (groupTails s).length)) start =
      start + (states.map stateSize).sum := by
  induction states generalizing start with
  | nil => simp
  | cons s states ih =>
    rw [List.foldl_cons, ih, List.map_cons, List.sum_cons, stateSize, Nat.add_assoc]

/-- The starts of the byte sequences of a set are no more than the bytes that these have. -/
lemma length_starts_le (set : CharSet) :
    ((setByteRanges set).flatMap fun s =>
      (List.range s.length).map fun n => s.take (n + 1)).length ≤ 4 * (setByteRanges set).length := by
  have hfour : ∀ s ∈ setByteRanges set, s.length ≤ 4 := by
    intro s hs
    obtain ⟨r, -, hs⟩ := List.mem_flatMap.1 hs
    exact length_le_of_mem_byteRanges s hs
  rw [List.length_flatMap]
  simp only [List.length_map, List.length_range]
  calc ((setByteRanges set).map fun s => s.length).sum
      ≤ ((setByteRanges set).map fun _ => 4).sum := List.sum_le_sum hfour
    _ = 4 * (setByteRanges set).length := by simp [Nat.mul_comm]

/-- A single character takes a state at least, and four at most. -/
lemma charSize_bounds (c : Char) : 32 ≤ charSize c ∧ charSize c ≤ 128 := by
  unfold charSize encodeScalar
  repeat' split
  all_goals simp

/-- The room of a set in the forward automaton. -/
lemma forwardSize_le (set : CharSet) :
    CharSet.forwardSize set ≤ 192 + 8 * set.ranges.length + 200 * (setByteRanges set).length := by
  unfold CharSet.forwardSize
  split
  · rename_i c _
    have hchar := charSize_bounds c
    omega
  · split
    · omega
    · split
      · rw [asciiSize]
        omega
      · have hless := (eraseDups_sublist (trieStates 5 (setByteRanges set))).map stateSize
        have hsum := hless.sum_le_sum fun _ _ => Nat.zero_le _
        have htrie := sum_stateSize_le 5 (setByteRanges set)
        rw [foldl_stateSize]
        omega

/-- The room of a set in the backward automaton. -/
lemma backwardSize_le (set : CharSet) :
    CharSet.backwardSize set ≤ 192 + 8 * set.ranges.length + 200 * (setByteRanges set).length := by
  unfold CharSet.backwardSize
  split
  · rename_i c _
    have hchar := charSize_bounds c
    omega
  · split
    · omega
    · split
      · rw [asciiSize]
        omega
      · have hsub := (eraseDups_sublist ((setByteRanges set).flatMap fun s =>
          (List.range s.length).map fun n => s.take (n + 1))).length_le
        have hstarts := length_starts_le set
        dsimp only
        omega

/-! ### Expressions -/

namespace Expr

variable {reading : Reading} {a b last : Expr} {parts before : List Expr}

@[simp] lemma size_look (kind : Look) : (Expr.look kind).size reading = 32 := by
  simp [size, innerSize, choiceFrame]

@[simp] lemma size_seq : (Expr.seq a b).size reading = a.size reading + b.size reading := rfl

/-- A star takes the room of its body and of a fork, if its body cannot be empty. -/
lemma size_star {greedy : Bool} (h : a.nullable = false) :
    (Expr.repetition 0 none greedy a).size reading = a.size reading + 40 := by
  simp [size, innerSize, choiceFrame, repetitionSize, h]

/-- A group takes the room of its body and of its two notes, if these are made. -/
lemma size_capture_le {index : Nat} :
    (Expr.capture index a).size reading ≤ a.size reading + 64 := by
  cases reading <;> simp [size, innerSize, choiceFrame]

/-- A single character takes a state for each of its bytes, in both directions. -/
lemma size_chars_single (c : Char) : (Expr.chars (.single c)).size reading = charSize c := by
  have hsingle : (CharSet.single c).single? = some c := by
    simp [CharSet.single?, CharSet.single]
  cases reading with
  | forward => simp [size, innerSize, choiceFrame, CharSet.forwardSize, hsingle]
  | backward => simp [size, innerSize, choiceFrame, CharSet.backwardSize, hsingle]

/-- **The size of a set** is bounded by how many ranges and byte sequences it has. -/
lemma size_chars_le (set : CharSet) :
    (Expr.chars set).size reading ≤
      192 + 8 * set.ranges.length + 200 * (setByteRanges set).length := by
  cases reading with
  | forward => simpa [size, innerSize, choiceFrame] using forwardSize_le set
  | backward => simpa [size, innerSize, choiceFrame] using backwardSize_le set

/-- The room of the set of all characters. -/
lemma size_chars_all :
    (Expr.chars .all).size reading =
      match reading with
      | .forward => 416
      | .backward => 964 := by
  have hforward : CharSet.forwardSize .all = 416 := by decide
  have hbackward : CharSet.backwardSize .all = 964 := by decide
  cases reading with
  | forward => simpa [size, innerSize, choiceFrame] using hforward
  | backward => simpa [size, innerSize, choiceFrame] using hbackward

/-- A sequence that is put together from its last part takes the room of its parts. -/
lemma size_foldl_seq :
    (before.foldl (fun e p => .seq p e) last).size reading =
      (before.map (size reading)).sum + last.size reading := by
  induction before generalizing last with
  | nil => simp
  | cons p before ih =>
    rw [List.foldl_cons, ih, size_seq, List.map_cons, List.sum_cons]
    omega

/-- A sequence that is put together from its last part is empty only if that is. -/
lemma isEmpty_foldl_seq (hlast : last.isEmpty = false) :
    (before.foldl (fun e p => .seq p e) last).isEmpty = false := by
  induction before generalizing last with
  | nil => exact hlast
  | cons p before ih => exact ih rfl

/-- A sequence of parts that are not empty is put together from its last part. -/
lemma sequence_concat (hparts : ∀ p ∈ before ++ [last], p.isEmpty = false) :
    sequence (before ++ [last]) = before.reverse.foldl (fun e p => .seq p e) last := by
  have hfilter : ((before ++ [last]).filter fun p => !p.isEmpty) = before ++ [last] :=
    List.filter_eq_self.2 fun p hp => by rw [hparts p hp]; rfl
  rw [sequence, hfilter, List.reverse_concat]

/-- A sequence takes the room of its parts. -/
lemma size_sequence (hne : parts ≠ []) (hparts : ∀ p ∈ parts, p.isEmpty = false) :
    (sequence parts).size reading = (parts.map (size reading)).sum := by
  obtain ⟨before, last, rfl⟩ := List.eq_nil_or_concat' parts |>.resolve_left hne
  rw [sequence_concat hparts, size_foldl_seq, List.map_reverse, List.sum_reverse]
  simp

/-- A sequence with parts is not empty. -/
lemma isEmpty_sequence (hne : parts ≠ []) (hparts : ∀ p ∈ parts, p.isEmpty = false) :
    (sequence parts).isEmpty = false := by
  obtain ⟨before, last, rfl⟩ := List.eq_nil_or_concat' parts |>.resolve_left hne
  rw [sequence_concat hparts]
  exact isEmpty_foldl_seq (hparts last (by simp))

end Expr

end ImportAtlas.Regex
