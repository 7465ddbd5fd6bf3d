import JsonWorkbench.Proofs.Equality
import Mathlib.Data.List.Perm.Subperm

/-!
# Equality up to the Order of Keys

Two values are reorderings of each other if they differ at most in the order in which the members
of objects stand. The relation is stated without any walk over the values: arrays agree index by
index, and two objects have the same keys and, under every key, reorderings of each other.

Equality as data also takes `1` and `1.0` for the same. Where all numbers are integers there is
nothing of the kind, and the two relations are one.

## Main definitions

* `Value.Reordered` — the relation.

## Main results

* `Value.looseEq_iff_reordered` — equality as data of values whose numbers are integers.
-/

namespace JsonWorkbench

/-! ### Lists -/

/-- Two lists are related position by position if they are equally long and related at every
index. -/
theorem forall₂_iff_getElem? {α β : Type} {R : α → β → Prop} {xs : List α} {ys : List β} :
    List.Forall₂ R xs ys ↔ xs.length = ys.length ∧
      ∀ (i : Nat) (x : α) (y : β), xs[i]? = some x → ys[i]? = some y → R x y := by
  rw [List.forall₂_iff_get]
  refine and_congr_right fun hlen => ⟨fun h i x y hx hy => ?_, fun h i hi hi' => ?_⟩
  · obtain ⟨hi, rfl⟩ := List.getElem?_eq_some_iff.mp hx
    obtain ⟨hi', rfl⟩ := List.getElem?_eq_some_iff.mp hy
    exact h i hi hi'
  · exact h i _ _ (List.getElem?_eq_getElem hi) (List.getElem?_eq_getElem hi')

/-! ### Keys -/

/-- A list of different keys that occur in another one has as many of them exactly if no other key
occurs there. -/
theorem Keyed.length_eq_iff_subset {α β : Type} {ps : List (String × α)} {qs : List (String × β)}
    (hps : (ps.map (·.1)).Nodup) (hqs : (qs.map (·.1)).Nodup)
    (hsub : ps.map (·.1) ⊆ qs.map (·.1)) :
    ps.length = qs.length ↔ qs.map (·.1) ⊆ ps.map (·.1) := by
  have hsubperm : (ps.map (·.1)).Subperm (qs.map (·.1)) := hps.subperm hsub
  constructor
  · intro hlen
    have hperm : (ps.map (·.1)).Perm (qs.map (·.1)) :=
      hsubperm.perm_of_length_le (by simp [hlen])
    exact hperm.symm.subset
  · intro hsub'
    have hle : (ps.map (·.1)).length ≤ (qs.map (·.1)).length := hsubperm.length_le
    have hge : (qs.map (·.1)).length ≤ (ps.map (·.1)).length := (hqs.subperm hsub').length_le
    simpa using Nat.le_antisymm hle hge

namespace Value

/-! ### The relation -/

/-- Two values are the same but for the order of members in objects, at any depth. -/
inductive Reordered : Value → Value → Prop
  /-- Nothing can be reordered in null. -/
  | null : Reordered .null .null
  /-- Truth values are the same. -/
  | bool (b : Bool) : Reordered (.bool b) (.bool b)
  /-- Numbers are the same. -/
  | number (n : Number) : Reordered (.number n) (.number n)
  /-- Texts are the same. -/
  | string (s : String) : Reordered (.string s) (.string s)
  /-- Arrays have as many items, which are reorderings index by index. -/
  | array {vs ws : List Value} (hlen : vs.length = ws.length)
      (hitem : ∀ (i : Nat) (v w : Value), vs[i]? = some v → ws[i]? = some w → Reordered v w) :
      Reordered (.array vs) (.array ws)
  /-- Objects have the same keys in any order, and reorderings under every key. -/
  | object {ms ns : Members} (hkeys : (ms.map (·.1)).Perm (ns.map (·.1)))
      (hmember : ∀ (k : String) (v w : Value), (k, v) ∈ ms → (k, w) ∈ ns → Reordered v w) :
      Reordered (.object ms) (.object ns)

/-- Arrays are reorderings if their items are so position by position. -/
theorem reordered_array_iff {vs ws : List Value} :
    Reordered (.array vs) (.array ws) ↔ List.Forall₂ Reordered vs ws := by
  rw [forall₂_iff_getElem?]
  constructor
  · rintro (_ | _ | _ | _ | ⟨hlen, hitem⟩)
    exact ⟨hlen, hitem⟩
  · rintro ⟨hlen, hitem⟩
    exact .array hlen hitem

/-- Objects without repeated keys are reorderings if they have equally many members and every
member has a reordering under its key. -/
theorem reordered_object_iff {ms ns : Members} (hms : (ms.map (·.1)).Nodup)
    (hns : (ns.map (·.1)).Nodup) :
    Reordered (.object ms) (.object ns) ↔ ms.length = ns.length ∧
      ∀ k v, (k, v) ∈ ms → ∃ w, Members.get? ns k = some w ∧ Reordered v w := by
  constructor
  · rintro (_ | _ | _ | _ | _ | ⟨hkeys, hmember⟩)
    refine ⟨by simpa using hkeys.length_eq, fun k v hm => ?_⟩
    obtain ⟨w, hw⟩ := Keyed.exists_mem_of_subset hkeys.subset hm
    exact ⟨w, Keyed.get?_of_mem hns hw, hmember k v w hm hw⟩
  · rintro ⟨hlen, hget⟩
    have hsub : ms.map (·.1) ⊆ ns.map (·.1) :=
      Keyed.subset_of_get? fun k v hm => (hget k v hm).imp fun _ h => h.1
    refine .object ((hms.subperm hsub).perm_of_length_le (by simp [hlen])) ?_
    intro k v w hv hw
    obtain ⟨w', hw', hvw⟩ := hget k v hv
    obtain rfl : w' = w := Option.some.inj (hw'.symm.trans (Keyed.get?_of_mem hns hw))
    exact hvw

/-- Scalars are reorderings of themselves only. -/
theorem reordered_scalar_iff {v w : Value} (hv : v.isContainer = false) :
    Reordered v w ↔ v = w := by
  constructor
  · intro h
    cases h with
    | null | bool | number | string => rfl
    | array | object => exact Bool.noConfusion hv
  · rintro rfl
    cases v with
    | null => exact .null
    | bool b => exact .bool b
    | number n => exact .number n
    | string s => exact .string s
    | array vs | object ms => exact Bool.noConfusion hv

/-- A reordering can be undone. -/
theorem Reordered.symm {v w : Value} (h : v.Reordered w) : w.Reordered v := by
  induction h with
  | null => exact .null
  | bool b => exact .bool b
  | number n => exact .number n
  | string s => exact .string s
  | array hlen _ ih => exact .array hlen.symm fun i w v hw hv => ih i v w hv hw
  | object hkeys _ ih => exact .object hkeys.symm fun k w v hw hv => ih k v w hv hw

/-- Two reorderings one after another are one. -/
theorem Reordered.trans {u v w : Value} (h : u.Reordered v) (h' : v.Reordered w) :
    u.Reordered w := by
  induction h generalizing w with
  | null | bool _ | number _ | string _ => exact h'
  | @array us vs hlen hitem ih =>
      obtain _ | _ | _ | _ | ⟨hlen', hitem'⟩ := h'
      refine .array (hlen.trans hlen') fun i u w hu hw => ?_
      obtain ⟨hi, -⟩ := List.getElem?_eq_some_iff.mp hu
      have hv : vs[i]? = some vs[i] := List.getElem?_eq_getElem (hlen ▸ hi)
      exact ih i u vs[i] hu hv (hitem' i vs[i] w hv hw)
  | @object ms ns hkeys hmember ih =>
      obtain _ | _ | _ | _ | _ | ⟨hkeys', hmember'⟩ := h'
      refine .object (hkeys.trans hkeys') fun k u w hu hw => ?_
      obtain ⟨v, hv⟩ := Keyed.exists_mem_of_subset hkeys.subset hu
      exact ih k u v hu hv (hmember' k v w hv hw)

/-! ### Values with integers only -/

/-- **Equality as data of values whose numbers are integers** is equality up to the order of
keys. -/
theorem looseEq_iff_reordered {v w : Value} (hv : v.WellFormed) (hw : w.WellFormed)
    (hv' : v.IsIntegral) (hw' : w.IsIntegral) : v.looseEq w = true ↔ v.Reordered w := by
  induction v using Value.induct generalizing w with
  | null =>
      rw [reordered_scalar_iff rfl]
      cases w <;> simp [looseEq]
  | bool b =>
      rw [reordered_scalar_iff rfl]
      cases w <;> simp [looseEq]
  | string s =>
      rw [reordered_scalar_iff rfl]
      cases w <;> simp [looseEq]
  | number m =>
      rw [reordered_scalar_iff rfl]
      cases w with
      | number n =>
          cases m with
          | double x => exact absurd hv' not_false
          | integer m =>
              cases n with
              | double y => exact absurd hw' not_false
              | integer n => simp [looseEq, Number.looseEq]
      | null | bool | string | array | object => simp [looseEq]
  | array vs ih =>
      cases w with
      | array ws =>
          rw [wellFormed_array_iff] at hv hw
          rw [isIntegral_array_iff] at hv' hw'
          rw [looseEq_array_iff, reordered_array_iff]
          rw [List.forall₂_iff_zip, List.forall₂_iff_zip]
          refine and_congr_right fun _ => forall₃_congr fun v w hmem => ?_
          obtain ⟨hmv, hmw⟩ := List.of_mem_zip hmem
          exact ih v hmv (hv.2 v hmv) (hw.2 w hmw) (hv' v hmv) (hw' w hmw)
      | null | bool | number | string | object =>
          exact iff_of_false Bool.false_ne_true fun h => by cases h
  | object ms ih =>
      cases w with
      | object ns =>
          rw [wellFormed_object_iff] at hv hw
          rw [isIntegral_object_iff] at hv' hw'
          rw [looseEq_object_iff, reordered_object_iff hv.1 hw.1]
          refine and_congr_right fun _ => forall₃_congr fun k v hm => ?_
          refine exists_congr fun w => and_congr_right fun hget => ?_
          have hmem : (k, w) ∈ ns := Keyed.mem_of_get? hget
          exact ih k v hm (hv.2 k v hm) (hw.2 k w hmem) (hv' k v hm) (hw' k w hmem)
      | null | bool | number | string | array =>
          exact iff_of_false Bool.false_ne_true fun h => by cases h

end Value

end JsonWorkbench
