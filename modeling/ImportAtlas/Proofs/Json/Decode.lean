import ImportAtlas.Json.Decode
import ImportAtlas.Proofs.Steps
import Mathlib.Data.List.Nodup

/-!
# Decoding what was encoded

A decoder that undoes the encoding of the parts undoes that of the whole.

## Main results

* `ImportAtlas.Json.Value.asList_array`: lists.
* `ImportAtlas.Json.Value.asBindings_record`: named values.
* `ImportAtlas.Json.Value.asRecord_record`: records whose fields have different names.
-/

namespace ImportAtlas.Json.Value

variable {α : Type}

/-- A run over a list gives what each of its steps gives. -/
lemma mapM_map_eq_ok {β γ ε : Type} {write : α → β} {read : β → Except ε γ} {value : α → γ}
    {items : List α} (h : ∀ x ∈ items, read (write x) = .ok (value x)) :
    (items.map write).mapM read = .ok (items.map value) := by
  rw [mapM_eq_ok_iff, List.map_map, List.map_map]
  exact List.map_congr_left h

/-- **A list is decoded item by item.** -/
lemma asList_array {write : α → Value} {read : Value → Except DecodeError α} {items : List α}
    (h : ∀ x ∈ items, read (write x) = .ok x) :
    (array (items.map write)).asList read = .ok items := by
  rw [asList, mapM_map_eq_ok h, List.map_id']

/-- **Named values are decoded one by one.** -/
lemma asBindings_record {write : α → Value} {read : Value → Except DecodeError α}
    {entries : List (String × α)} (h : ∀ e ∈ entries, read (write e.2) = .ok e.2) :
    (record (entries.map fun e => (e.1, write e.2))).asBindings read = .ok entries := by
  have hentry : ∀ e ∈ entries, (read (write e.2)).map (fun x => (e.1, x)) = .ok (id e) := by
    intro e he
    rw [h e he]
    rfl
  rw [record, asBindings, List.map_map]
  exact (mapM_map_eq_ok hentry).trans (by rw [List.map_id])

/-- A field is found under its name if no other field has that name. -/
lemma field_of_mem {fields : List (String × Value)} (hnodup : (fields.map (·.1)).Nodup)
    {f : String × Value} (hf : f ∈ fields) :
    field (fields.map fun f => (some f.1, f.2)) f.1 = .ok f.2 := by
  have hfilter : (fields.map fun f => (some f.1, f.2)).filter (fun g => g.1 == some f.1) =
      [(some f.1, f.2)] := by
    induction fields with
    | nil => simp at hf
    | cons g rest ih =>
      obtain ⟨hg, hrest⟩ := List.nodup_cons.1 hnodup
      have hname : ∀ h ∈ rest, h.1 ≠ g.1 := fun h hh heq =>
        hg (List.mem_map.2 ⟨h, hh, heq⟩)
      rcases List.mem_cons.1 hf with rfl | hf
      · rw [List.map_cons, List.filter_cons_of_pos (by simp), List.filter_map,
          List.filter_eq_nil_iff.2 (by simpa using fun a b h => hname (a, b) h)]
        rfl
      · rw [List.map_cons, List.filter_cons_of_neg (by simpa using (hname f hf).symm),
          ih hrest hf]
  rw [field, hfilter]

/-- **A record is decoded into its fields** if these have different names. -/
lemma asRecord_record (fields : List (String × Value)) (hnodup : (fields.map (·.1)).Nodup) :
    (record fields).asRecord (fields.map (·.1)) = .ok (fields.map (·.2)) := by
  rw [record, asRecord, if_pos (by simp)]
  exact mapM_map_eq_ok fun f => field_of_mem hnodup

end ImportAtlas.Json.Value
