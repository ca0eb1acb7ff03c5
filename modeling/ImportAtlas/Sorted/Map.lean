/-!
# Sorted maps

A finite map kept as its list of entries in strictly ascending key order. The list is the view:
two maps with the same bindings are equal, and walking the list is walking the keys in order.

## Main definitions

* `ImportAtlas.SortedMap`: the entries with the proof that their keys ascend.
* `ImportAtlas.SortedMap.find?`: the value bound to a key.
* `ImportAtlas.SortedMap.adjust`: rebind one key as a function of what it was bound to.
* `ImportAtlas.SortedMap.absorb`: add every binding of another map, combining values on a clash.

## Main statements

* `ImportAtlas.SortedMap.Ascending.adjust`: rebinding one key keeps the keys ascending.
* `ImportAtlas.SortedMap.Ascending.filter`: so does keeping a part of the entries.
-/

namespace ImportAtlas

/-- Entries whose keys ascend strictly. -/
def SortedMap.Ascending {κ α : Type} [Ord κ] (entries : List (κ × α)) : Prop :=
  entries.Pairwise fun a b => compare a.1 b.1 = .lt

/-- A finite map as its entries in strictly ascending key order. -/
structure SortedMap (κ α : Type) [Ord κ] where
  /-- The bindings, smallest key first. -/
  entries : List (κ × α)
  /-- No key comes before a smaller or equal one. -/
  ascending : SortedMap.Ascending entries

namespace SortedMap

variable {κ α β : Type} [Ord κ]

/-! ### Entry lists -/

/-- The value bound to `key` in an entry list. -/
def lookup (key : κ) : List (κ × α) → Option α
  | [] => none
  | (k, v) :: rest => if compare key k = .eq then some v else lookup key rest

/-- Rebind `key` to `f` of its present value, at its place in the order. -/
def adjustEntries (key : κ) (f : Option α → α) : List (κ × α) → List (κ × α)
  | [] => [(key, f none)]
  | (k, v) :: rest =>
    match compare key k with
    | .lt => (key, f none) :: (k, v) :: rest
    | .eq => (k, f (some v)) :: rest
    | .gt => (k, v) :: adjustEntries key f rest

/-- An entry after an adjustment is an old one, or holds the adjusted key or its old spelling. -/
theorem key_of_mem_adjustEntries {key : κ} {f : Option α → α} {entries : List (κ × α)} {e : κ × α}
    (he : e ∈ adjustEntries key f entries) : e.1 = key ∨ ∃ v, (e.1, v) ∈ entries := by
  induction entries with
  | nil => simp_all [adjustEntries]
  | cons head rest ih =>
    obtain ⟨k, v⟩ := head
    rw [adjustEntries] at he
    split at he
    · rcases List.mem_cons.1 he with rfl | he
      · exact .inl rfl
      · exact .inr ⟨e.2, he⟩
    · rcases List.mem_cons.1 he with rfl | he
      · exact .inr ⟨v, List.mem_cons_self⟩
      · exact .inr ⟨e.2, List.mem_cons_of_mem _ he⟩
    · rcases List.mem_cons.1 he with rfl | he
      · exact .inr ⟨v, List.mem_cons_self⟩
      · rcases ih he with h | ⟨w, hw⟩
        · exact .inl h
        · exact .inr ⟨w, List.mem_cons_of_mem _ hw⟩

theorem Ascending.nil : Ascending ([] : List (κ × α)) := List.Pairwise.nil

theorem Ascending.tail {e : κ × α} {rest : List (κ × α)} (h : Ascending (e :: rest)) :
    Ascending rest := (List.pairwise_cons.1 h).2

/-- Rebinding one key keeps the keys ascending. -/
theorem Ascending.adjust [Std.TransOrd κ] {entries : List (κ × α)} (h : Ascending entries)
    (key : κ) (f : Option α → α) : Ascending (adjustEntries key f entries) := by
  induction entries with
  | nil => exact List.pairwise_singleton _ _
  | cons head rest ih =>
    obtain ⟨k, v⟩ := head
    have below := (List.pairwise_cons.1 h).1
    rw [adjustEntries]
    split
    · rename_i hlt
      refine List.pairwise_cons.2 ⟨fun e he => ?_, h⟩
      rcases List.mem_cons.1 he with rfl | he
      · exact hlt
      · exact Std.TransCmp.lt_trans hlt (below e he)
    · exact List.pairwise_cons.2 ⟨below, h.tail⟩
    · rename_i hgt
      refine List.pairwise_cons.2 ⟨fun e he => ?_, ih h.tail⟩
      rcases key_of_mem_adjustEntries he with hk | ⟨w, hw⟩
      · simpa [hk] using Std.OrientedCmp.gt_iff_lt.1 hgt
      · exact below (e.1, w) hw

/-- Keeping a part of the entries keeps the keys ascending. -/
theorem Ascending.filter {entries : List (κ × α)} (h : Ascending entries) (p : κ × α → Bool) :
    Ascending (entries.filter p) := List.Pairwise.filter p h

/-- Changing the values leaves the keys as they are. -/
theorem Ascending.mapValues {entries : List (κ × α)} (h : Ascending entries) (f : κ → α → β) :
    Ascending (entries.map fun e => (e.1, f e.1 e.2)) :=
  List.pairwise_map.2 h

/-! ### Maps -/

/-- The map without bindings. -/
def empty : SortedMap κ α := ⟨[], .nil⟩

instance : Inhabited (SortedMap κ α) := ⟨empty⟩

instance : EmptyCollection (SortedMap κ α) := ⟨empty⟩

/-- Two maps are equal when their entries are. -/
@[ext] theorem ext {m n : SortedMap κ α} (h : m.entries = n.entries) : m = n := by
  cases m; cases n; cases h; rfl

instance [DecidableEq κ] [DecidableEq α] : DecidableEq (SortedMap κ α) := fun m n =>
  if h : m.entries = n.entries then .isTrue (ext h) else .isFalse fun e => h (e ▸ rfl)

/-- The value bound to `key`. -/
def find? (m : SortedMap κ α) (key : κ) : Option α := lookup key m.entries

/-- Whether `key` is bound. -/
def contains (m : SortedMap κ α) (key : κ) : Bool := (m.find? key).isSome

/-- The keys in ascending order. -/
def keys (m : SortedMap κ α) : List κ := m.entries.map (·.1)

/-- The values in the order of their keys. -/
def values (m : SortedMap κ α) : List α := m.entries.map (·.2)

/-- How many keys are bound. -/
def size (m : SortedMap κ α) : Nat := m.entries.length

/-- Whether nothing is bound. -/
def isEmpty (m : SortedMap κ α) : Bool := m.entries.isEmpty

/-- The map with the bindings that `p` accepts. -/
def filter (p : κ → α → Bool) (m : SortedMap κ α) : SortedMap κ α :=
  ⟨m.entries.filter fun e => p e.1 e.2, m.ascending.filter _⟩

/-- The map with each value replaced by `f` of its key and itself. -/
def mapValues (f : κ → α → β) (m : SortedMap κ α) : SortedMap κ β :=
  ⟨m.entries.map fun e => (e.1, f e.1 e.2), m.ascending.mapValues f⟩

variable [Std.TransOrd κ]

/-- Rebind `key` to `f` of its present value. -/
def adjust (m : SortedMap κ α) (key : κ) (f : Option α → α) : SortedMap κ α :=
  ⟨adjustEntries key f m.entries, m.ascending.adjust key f⟩

/-- Bind `key` to `value`, whatever it was bound to. -/
def insert (m : SortedMap κ α) (key : κ) (value : α) : SortedMap κ α :=
  m.adjust key fun _ => value

/-- Add the bindings of a list, a later one replacing an earlier one of the same key. -/
def ofList (entries : List (κ × α)) : SortedMap κ α :=
  entries.foldl (fun m e => m.insert e.1 e.2) empty

/-- Add every binding of `n` to `m`. `combine` gives the value of a key from what `m` binds it to,
if anything, and the value in `n`. -/
def absorb (combine : Option α → α → α) (m n : SortedMap κ α) : SortedMap κ α :=
  n.entries.foldl (fun acc e => acc.adjust e.1 fun old => combine old e.2) m

end SortedMap

end ImportAtlas
