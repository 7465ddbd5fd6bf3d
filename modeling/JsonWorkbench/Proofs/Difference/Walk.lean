import JsonWorkbench.Proofs.Difference
import Mathlib.Data.List.Basic

/-!
# The Walk over Two Documents

The differences between two values are what has changed at their place itself, and then, segment
by segment, the differences between what stands one segment further on the left and on the right.
Two arrays are compared at their indices, two objects at their keys, and all other values at no
segment. So written, the walk is the same for values of every kind: a proof about it has one case
for the place itself and one for a segment, and the induction is on what a segment leads to.

## Main definitions

* `ownChanges` — what has changed at the place of two values.
* `comparedSegments` — the segments at which two values are compared further.
* `differencesAt` — the differences between two values of which either may be missing.

## Main results

* `Value.induct_step` — induction on values, one segment at a time.
* `differences_eq` — the differences between two values by the segments at which they are compared.
-/

namespace JsonWorkbench

/-! ### One segment further -/

namespace Value

variable {φ : Type}

/-- A segment leads to an item of an array or to the value of a member. -/
theorem cases_of_step {v w : Value} {s : Segment φ} (h : step v s = some w) :
    (∃ vs, v = .array vs ∧ w ∈ vs) ∨ ∃ ms k, v = .object ms ∧ (k, w) ∈ ms := by
  cases v with
  | array vs =>
      cases s with
      | key k =>
          obtain ⟨i, -, hi⟩ := Option.bind_eq_some_iff.mp h
          exact .inl ⟨vs, rfl, List.mem_of_getElem? hi⟩
      | index i => exact .inl ⟨vs, rfl, List.mem_of_getElem? h⟩
      | wildcard | slice _ _ | filter _ | descendant _ =>
          exact absurd h (Option.some_ne_none w).symm
  | object ms =>
      cases s with
      | key k => exact .inr ⟨ms, k, rfl, Keyed.mem_of_get? h⟩
      | index _ | wildcard | slice _ _ | filter _ | descendant _ =>
          exact absurd h (Option.some_ne_none w).symm
  | null | bool _ | number _ | string _ => exact absurd h (Option.some_ne_none w).symm

/-- **Induction on values, one segment at a time**: what holds of a value as soon as it holds of
all that a segment leads to holds of every value. -/
theorem induct_step {motive : Value → Prop}
    (ih : ∀ v, (∀ (s : Segment φ) w, step v s = some w → motive w) → motive v) (v : Value) :
    motive v := by
  have hscalar : ∀ v : Value, v.isContainer = false → motive v := by
    intro v hv
    refine ih v fun s w h => ?_
    rcases cases_of_step h with ⟨vs, rfl, -⟩ | ⟨ms, k, rfl, -⟩ <;> exact Bool.noConfusion hv
  induction v using Value.induct with
  | null | bool _ | number _ | string _ => exact hscalar _ rfl
  | array vs hvs =>
      refine ih _ fun s w h => ?_
      rcases cases_of_step h with ⟨vs', heq, hw⟩ | ⟨ms, k, heq, -⟩
      · obtain rfl : vs = vs' := Value.array.inj heq
        exact hvs w hw
      · exact Value.noConfusion heq
  | object ms hms =>
      refine ih _ fun s w h => ?_
      rcases cases_of_step h with ⟨vs, heq, -⟩ | ⟨ms', k, heq, hw⟩
      · exact Value.noConfusion heq
      · obtain rfl : ms = ms' := Value.object.inj heq
        exact hms k w hw

/-- What a segment of a well-formed value leads to is well formed. -/
theorem WellFormed.step {v w : Value} (hv : v.WellFormed) {s : Segment φ}
    (h : step v s = some w) : w.WellFormed := by
  rcases cases_of_step h with ⟨vs, rfl, hw⟩ | ⟨ms, k, rfl, hw⟩
  · exact (wellFormed_array_iff.mp hv).2 w hw
  · exact (wellFormed_object_iff.mp hv).2 k w hw

/-- Where all numbers are integers, they are so in what a segment leads to. -/
theorem IsIntegral.step {v w : Value} (hv : v.IsIntegral) {s : Segment φ}
    (h : step v s = some w) : w.IsIntegral := by
  rcases cases_of_step h with ⟨vs, rfl, hw⟩ | ⟨ms, k, rfl, hw⟩
  · exact isIntegral_array_iff.mp hv w hw
  · exact isIntegral_object_iff.mp hv k w hw

end Value

/-- A path is followed to its end by following its two parts. -/
theorem locate_append {φ : Type} (v : Value) (p q : Segments φ) :
    locate v (p ++ q) = (locate v p).bind (locate · q) := by
  induction p generalizing v with
  | nil => rfl
  | cons s p ih =>
      rw [List.cons_append, locate, locate, Option.bind_assoc]
      exact congrArg (step v s).bind (funext ih)

/-! ### What is compared -/

/-- What has changed at the place of two values itself. -/
def ownChanges (l r : Value) : List Change :=
  if l.kind = r.kind then
    match l, r with
    | .array ls, .array rs =>
      if ls.length = rs.length then [] else [.arrayLength ls.length rs.length]
    | .object _, .object _ => []
    | _, _ => if l.looseEq r then [] else [.valueChange l r]
  else [.kindChange l.kind r.kind r]

/-- The segments at which two values are compared further: the indices of the longer of two
arrays, and the keys of two objects, those of the left one first. -/
def comparedSegments : Value → Value → Path
  | .array ls, .array rs => (List.range (max ls.length rs.length)).map .index
  | .object ls, .object rs =>
    (ls.map (·.1) ++ (rs.filter fun (k, _) => !Members.has ls k).map (·.1)).map .key
  | _, _ => []

/-- The differences between two values at a path, of which either may be missing. -/
def differencesAt (path : Path) : Option Value → Option Value → List Difference
  | some l, some r => differences path l r
  | some l, none => [{ path, change := .removed l }]
  | none, some r => [{ path, change := .added r }]
  | none, none => []

/-- A scalar has changed in its kind or in itself. -/
theorem ownChanges_scalar {l : Value} (hl : l.isContainer = false) (r : Value) :
    ownChanges l r =
      if l.kind = r.kind then if l.looseEq r then [] else [.valueChange l r]
      else [.kindChange l.kind r.kind r] := by
  cases l <;> first | rfl | exact Bool.noConfusion hl

/-- A scalar is compared no further. -/
theorem comparedSegments_scalar {l : Value} (hl : l.isContainer = false) (r : Value) :
    comparedSegments l r = [] := by
  cases l <;> first | rfl | exact Bool.noConfusion hl

/-- No segment is named twice. -/
theorem nodup_comparedSegments {l r : Value} (hl : l.WellFormed) (hr : r.WellFormed) :
    (comparedSegments l r).Nodup := by
  unfold comparedSegments
  split
  · exact List.nodup_range.map fun i j h => Segment.index.inj h
  · next ls rs =>
      rw [Value.wellFormed_object_iff] at hl hr
      refine List.Nodup.map (fun k k' h => Segment.key.inj h) (hl.1.append ?_ ?_)
      · exact hr.1.sublist (List.filter_sublist.map _)
      · intro k hkl hkr
        obtain ⟨⟨k, r⟩, hm, rfl⟩ := List.mem_map.mp hkr
        have hnew : Members.has ls k = false := by simpa using (List.mem_filter.mp hm).2
        rw [Members.has, Keyed.has_iff.mpr hkl] at hnew
        exact Bool.noConfusion hnew
  · exact List.nodup_nil

/-! ### The walk, segment by segment -/

/-- Items are compared index by index. -/
theorem differencesItems_eq (path : Path) (i : Nat) (ls rs : List Value) :
    differencesItems path i ls rs =
      (List.range (max ls.length rs.length)).flatMap fun j =>
        differencesAt (path ++ [.index (i + j)]) ls[j]? rs[j]? := by
  have hrange : ∀ (n : Nat) (f : Nat → List Difference),
      (List.range (n + 1)).flatMap f = f 0 ++ (List.range n).flatMap fun j => f (j + 1) := by
    intro n f
    rw [List.range_succ_eq_map, List.flatMap_cons, List.flatMap_map]
  have hshift : ∀ j, i + 1 + j = i + (j + 1) := fun j => by omega
  induction ls generalizing rs i with
  | nil =>
      induction rs generalizing i with
      | nil => rfl
      | cons r rs ih =>
          have hrest := ih (i + 1) fun j => by omega
          have hfirst : differencesItems path i [] (r :: rs) =
              { path := path ++ [.index i], change := .added r } ::
                differencesItems path (i + 1) [] rs := by
            rw [differencesItems, differencesItems, List.zipIdx_cons, List.map_cons]
          simp only [List.length_nil, Nat.zero_max, List.getElem?_nil] at hrest
          simp only [hfirst, hrest, hrange, List.length_nil, List.length_cons, Nat.zero_max,
            List.getElem?_nil, List.getElem?_cons_zero, List.getElem?_cons_succ, Nat.add_zero,
            hshift, differencesAt, List.singleton_append]
  | cons l ls ih =>
      cases rs with
      | nil =>
          have hrest := ih (i + 1) [] fun j => by omega
          simp only [List.length_nil, Nat.max_zero, List.getElem?_nil] at hrest
          simp only [differencesItems, hrest, hrange, List.length_nil, List.length_cons,
            Nat.max_zero, List.getElem?_nil, List.getElem?_cons_zero, List.getElem?_cons_succ,
            Nat.add_zero, hshift, differencesAt, List.singleton_append]
      | cons r rs =>
          have hrest := ih (i + 1) rs fun j => by omega
          simp only [differencesItems, hrest, hrange, List.length_cons, Nat.succ_max_succ,
            Nat.succ_eq_add_one, List.getElem?_cons_zero, List.getElem?_cons_succ, Nat.add_zero,
            hshift, differencesAt]

/-- Members are compared key by key. -/
theorem differencesMembers_append_added {ls rs : Members} (hls : (ls.map (·.1)).Nodup)
    (hrs : (rs.map (·.1)).Nodup) (path : Path) :
    differencesMembers path ls rs ++
        ((rs.filter fun (k, _) => !Members.has ls k).map fun (k, v) =>
          ({ path := path ++ [.key k], change := .added v } : Difference)) =
      (ls.map (·.1) ++ (rs.filter fun (k, _) => !Members.has ls k).map (·.1)).flatMap fun k =>
        differencesAt (path ++ [.key k]) (Members.get? ls k) (Members.get? rs k) := by
  rw [List.flatMap_append, differencesMembers_eq_flatMap, List.flatMap_map, List.flatMap_map,
    ← List.flatMap_pure_eq_map]
  congr 1
  · refine List.flatMap_congr fun m hm => ?_
    have hleft : Members.get? ls m.1 = some m.2 := Keyed.get?_of_mem hls hm
    rw [hleft, memberDifferences]
    cases Members.get? rs m.1 <;> rfl
  · refine List.flatMap_congr fun m hm => ?_
    obtain ⟨hmem, hnew⟩ := List.mem_filter.mp hm
    have hleft : Members.get? ls m.1 = none := by simpa [Members.has, Keyed.has] using hnew
    have hright : Members.get? rs m.1 = some m.2 := Keyed.get?_of_mem hrs hmem
    rw [hleft, hright]
    rfl

/-- **The differences between two values** are the changes at their place and, for every segment
at which they are compared, the differences between what it leads to. -/
theorem differences_eq {l r : Value} (hl : l.WellFormed) (hr : r.WellFormed) (path : Path) :
    differences path l r =
      (ownChanges l r).map (Difference.mk path) ++
        (comparedSegments l r).flatMap fun s =>
          differencesAt (path ++ [s]) (step l s) (step r s) := by
  have hscalar : ∀ v : Value, v.isContainer = false → differences path v r =
      (ownChanges v r).map (Difference.mk path) ++
        (comparedSegments v r).flatMap fun s =>
          differencesAt (path ++ [s]) (step v s) (step r s) := by
    intro v hv
    rw [differences_scalar hv, ownChanges_scalar hv, comparedSegments_scalar hv]
    split_ifs <;> rfl
  cases l with
  | null | bool _ | number _ | string _ => exact hscalar _ rfl
  | array ls =>
      cases r with
      | array rs =>
          rw [differences, differencesItems_eq, comparedSegments, List.flatMap_map]
          simp only [Nat.zero_add]
          congr 1
          by_cases hlen : ls.length = rs.length <;> simp [ownChanges, Value.kind, hlen]
      | null | bool _ | number _ | string _ | object _ => rfl
  | object ls =>
      cases r with
      | object rs =>
          rw [Value.wellFormed_object_iff] at hl hr
          rw [differences, differencesMembers_append_added hl.1 hr.1, comparedSegments,
            List.flatMap_map]
          rfl
      | null | bool _ | number _ | string _ | array _ => rfl

/-- A difference is a change at the place itself or a difference below one of the segments. -/
theorem mem_differences_iff {l r : Value} (hl : l.WellFormed) (hr : r.WellFormed) {path : Path}
    {d : Difference} :
    d ∈ differences path l r ↔
      (∃ c ∈ ownChanges l r, d = { path, change := c }) ∨
        ∃ s ∈ comparedSegments l r, d ∈ differencesAt (path ++ [s]) (step l s) (step r s) := by
  rw [differences_eq hl hr, List.mem_append, List.mem_map, List.mem_flatMap]
  simp only [eq_comm]

end JsonWorkbench
