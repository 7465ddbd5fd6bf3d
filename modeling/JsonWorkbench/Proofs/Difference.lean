import JsonWorkbench.Diff.Basic
import JsonWorkbench.Proofs.Reordering

/-!
# Documents without Differences

The walk that lists differences goes through the longer of two arrays and through the keys of both
objects; equality as data counts the members and looks keys up on one side only. They agree because
no key is repeated: as many members on both sides, all those of the left among those of the right,
leave no key over on the right.

## Main results

* `diff_eq_nil_iff` — there is no difference exactly between documents that are equal as data, which
  for documents with integers only means up to the order of keys.
-/

namespace JsonWorkbench

/-- The only difference between a scalar and another value is a change of its kind or of itself. -/
theorem differences_scalar {l : Value} (hl : l.isContainer = false) (path : Path) (r : Value) :
    differences path l r =
      if l.kind = r.kind then
        if l.looseEq r then [] else [{ path, change := .valueChange l r }]
      else [{ path, change := .kindChange l.kind r.kind r }] := by
  cases l <;> first | rfl | exact Bool.noConfusion hl

/-- A scalar has no difference to the values that are equal to it as data. -/
theorem differences_scalar_eq_nil_iff {l : Value} (hl : l.isContainer = false) (path : Path)
    (r : Value) : differences path l r = [] ↔ l.looseEq r = true := by
  rw [differences_scalar hl]
  by_cases hkind : l.kind = r.kind
  · rw [if_pos hkind]
    by_cases heq : l.looseEq r = true <;> simp [heq]
  · rw [if_neg hkind]
    exact iff_of_false (List.cons_ne_nil _ _) fun heq => hkind (Value.kind_eq_of_looseEq heq)

/-- Items have no differences if they have none position by position and none is left over. -/
theorem differencesItems_eq_nil_iff {ls rs : List Value} {path : Path} {i : Nat}
    (h : ∀ l ∈ ls, ∀ r ∈ rs, ∀ path, differences path l r = [] ↔ l.looseEq r = true) :
    differencesItems path i ls rs = [] ↔
      List.Forall₂ (fun l r => l.looseEq r = true) ls rs := by
  induction ls generalizing rs i with
  | nil =>
      cases rs with
      | nil => simp [differencesItems]
      | cons r rs => simp [differencesItems]
  | cons l ls ih =>
      cases rs with
      | nil => simp [differencesItems]
      | cons r rs =>
          have hrest : ∀ l' ∈ ls, ∀ r' ∈ rs, ∀ path,
              differences path l' r' = [] ↔ l'.looseEq r' = true := fun l' hl' r' hr' =>
            h l' (List.mem_cons_of_mem _ hl') r' (List.mem_cons_of_mem _ hr')
          rw [differencesItems, List.append_eq_nil_iff, List.forall₂_cons,
            h l (List.mem_cons_self ..) r (List.mem_cons_self ..), ih hrest]

/-- The differences of a member on the left: those to the value under its key, or that it is
gone. -/
def memberDifferences (path : Path) (rs : Members) (m : String × Value) : List Difference :=
  match Members.get? rs m.1 with
  | some r => differences (path ++ [.key m.1]) m.2 r
  | none => [{ path := path ++ [.key m.1], change := .removed m.2 }]

/-- The differences of members are listed member by member. -/
theorem differencesMembers_eq_flatMap (path : Path) (ls rs : Members) :
    differencesMembers path ls rs = ls.flatMap (memberDifferences path rs) := by
  induction ls with
  | nil => rfl
  | cons m ls ih =>
      rw [differencesMembers, ih, List.flatMap_cons]
      rfl

/-- A member has no difference if there is an equal value under its key on the right. -/
theorem memberDifferences_eq_nil_iff {path : Path} {rs : Members} {k : String} {l : Value}
    (h : ∀ r, Members.get? rs k = some r → ∀ path,
      differences path l r = [] ↔ l.looseEq r = true) :
    memberDifferences path rs (k, l) = [] ↔
      ∃ r, Members.get? rs k = some r ∧ l.looseEq r = true := by
  unfold memberDifferences
  split
  · next r hget => simp [hget, h r hget]
  · next hget => simp [hget]

/-- There is a new member on the right unless all its keys are on the left. -/
theorem newMembers_eq_nil_iff {path : Path} {ls rs : Members} :
    ((rs.filter fun (k, _) => !Members.has ls k).map fun (k, v) =>
        ({ path := path ++ [Segment.key k], change := .added v } : Difference)) = [] ↔
      rs.map (·.1) ⊆ ls.map (·.1) := by
  rw [List.map_eq_nil_iff, List.filter_eq_nil_iff, List.subset_def, List.forall_mem_map]
  refine forall₂_congr fun m _ => ?_
  rw [Bool.not_eq_true', Bool.not_eq_false, Members.has, Keyed.has_iff]

/-! ### Documents -/

/-- **Two values have no differences, wherever they stand**, exactly if they are equal as data. -/
theorem differences_eq_nil_iff {l r : Value} (hl : l.WellFormed) (hr : r.WellFormed)
    (path : Path) : differences path l r = [] ↔ l.looseEq r = true := by
  induction l using Value.induct generalizing r path with
  | null | bool _ | number _ | string _ => exact differences_scalar_eq_nil_iff rfl path r
  | array ls ih =>
      cases r with
      | array rs =>
          rw [Value.wellFormed_array_iff] at hl hr
          have hitems : differencesItems path 0 ls rs = [] ↔
              List.Forall₂ (fun l r => l.looseEq r = true) ls rs :=
            differencesItems_eq_nil_iff fun l hml r hmr path =>
              ih l hml (hl.2 l hml) (hr.2 r hmr) path
          rw [differences, List.append_eq_nil_iff, hitems, Value.looseEq_array_iff,
            and_iff_right_iff_imp]
          intro h
          rw [if_pos h.length_eq]
      | null | bool | number | string | object =>
          exact iff_of_false (List.cons_ne_nil _ _) Bool.false_ne_true
  | object ls ih =>
      cases r with
      | object rs =>
          rw [Value.wellFormed_object_iff] at hl hr
          have hmembers : differencesMembers path ls rs = [] ↔
              ∀ k l, (k, l) ∈ ls → ∃ r, Members.get? rs k = some r ∧ l.looseEq r = true := by
            rw [differencesMembers_eq_flatMap, List.flatMap_eq_nil_iff, Prod.forall]
            refine forall₃_congr fun k l hm => memberDifferences_eq_nil_iff fun r hget path => ?_
            exact ih k l hm (hl.2 k l hm) (hr.2 k r (Keyed.mem_of_get? hget)) path
          rw [differences, List.append_eq_nil_iff, hmembers, newMembers_eq_nil_iff,
            Value.looseEq_object_iff, and_comm]
          refine and_congr_left fun hget => ?_
          have hsub : ls.map (·.1) ⊆ rs.map (·.1) :=
            Keyed.subset_of_get? fun k l hm => (hget k l hm).imp fun _ h => h.1
          exact (Keyed.length_eq_iff_subset hl.1 hr.1 hsub).symm
      | null | bool | number | string | array =>
          exact iff_of_false (List.cons_ne_nil _ _) Bool.false_ne_true

/-- **Two documents have no differences** exactly if they are equal as data, and documents with
integers only exactly if they are the same up to the order of keys. -/
theorem diff_eq_nil_iff {l r : Value} (hl : l.WellFormed) (hr : r.WellFormed) :
    (diff l r = [] ↔ l.looseEq r = true) ∧
      (l.IsIntegral → r.IsIntegral → (diff l r = [] ↔ l.Reordered r)) := by
  have hdiff : diff l r = [] ↔ l.looseEq r = true := differences_eq_nil_iff hl hr []
  exact ⟨hdiff, fun hl' hr' => hdiff.trans (Value.looseEq_iff_reordered hl hr hl' hr')⟩

/-- A document with an object in a list. -/
def listedPair : Value :=
  .object [("list", .array [.object [("x", .int 1), ("y", .null)]]), ("total", .int (-1))]

/-- The same data with the members of both objects the other way round. -/
def swappedPair : Value :=
  .object [("total", .int (-1)), ("list", .array [.object [("y", .null), ("x", .int 1)]])]

/-- Members that have been swapped at two depths are no difference. -/
theorem diff_eq_nil_iff_swappedPair :
    (listedPair.WellFormed ∧ swappedPair.WellFormed ∧ listedPair.IsIntegral ∧
      swappedPair.IsIntegral) ∧ diff listedPair swappedPair = [] ∧
      listedPair.Reordered swappedPair := by
  have hl : listedPair.WellFormed := by decide
  have hr : swappedPair.WellFormed := by decide
  have hl' : listedPair.IsIntegral := by decide
  have hr' : swappedPair.IsIntegral := by decide
  have hiff := diff_eq_nil_iff hl hr
  have hempty : diff listedPair swappedPair = [] := hiff.1.mpr (by decide)
  exact ⟨⟨hl, hr, hl', hr'⟩, hempty, (hiff.2 hl' hr').mp hempty⟩

end JsonWorkbench
