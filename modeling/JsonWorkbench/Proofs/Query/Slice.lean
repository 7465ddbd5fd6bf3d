import JsonWorkbench.Proofs.Query

/-!
# Slices of Arrays

A slice asks for the items from one bound up to another one, and both bounds may be anything: they
are cut to the array first, and to each other. So used, they are a range of the array
(`sliceBounds`), empty where the second bound lies before the first. Two slices that meet in a bound
are the slice from the first to the last bound, cut in two; what a path finds in the items is found
item by item, so that the results are cut at the same place.

## Main definitions

* `sliceBounds` — the bounds of a slice as they are used on an array.

## Main results

* `sliceOf_eq_extract` — a slice is the range of the array between these bounds.
* `sliceOf_append_sliceOf` — two slices that meet.
* `query_slices` — what a path with a slice in it selects.
-/

namespace JsonWorkbench

/-! ### Bounds -/

/-- The bounds of a slice as they are used on an array of a length: the first is cut to the array,
and the second to what is left of the array from there on. -/
def sliceBounds (first last : Option Nat) (length : Nat) : Nat × Nat :=
  let start := min (first.getD 0) length
  (start, max start (min (last.getD length) length))

/-- The bounds that are used lie within the array, and not the wrong way round. -/
theorem sliceBounds_within (first last : Option Nat) (length : Nat) :
    (sliceBounds first last length).1 ≤ (sliceBounds first last length).2 ∧
      (sliceBounds first last length).2 ≤ length := by
  rw [sliceBounds]
  omega

/-! ### Slices of a list -/

section Lists

variable (first last : Option Nat) (vs : List Value)

/-- The items of a slice by its own bounds: what is dropped in front need not be cut to the
array. -/
theorem sliceOf_eq :
    sliceOf first last vs = (vs.take (last.getD vs.length)).drop (first.getD 0) := by
  rw [sliceOf]
  rcases Nat.le_total (first.getD 0) vs.length with hle | hle
  · rw [Nat.min_eq_left hle]
  · have htake : (vs.take (last.getD vs.length)).length ≤ vs.length := List.length_take_le' ..
    rw [Nat.min_eq_right hle, List.drop_eq_nil_of_le htake,
      List.drop_eq_nil_of_le (Nat.le_trans htake hle)]

/-- **A slice is a range of the array**, that between the bounds as they are used. -/
theorem sliceOf_eq_extract :
    sliceOf first last vs =
      vs.extract (sliceBounds first last vs.length).1 (sliceBounds first last vs.length).2 := by
  rw [sliceOf, List.extract_eq_take_drop, List.drop_take, sliceBounds, List.take_eq_take_iff,
    List.length_drop]
  omega

/-- A slice without bounds is the whole list. -/
theorem sliceOf_none_none : sliceOf none none vs = vs := by
  rw [sliceOf_eq, Option.getD_none, Option.getD_none, List.take_length, List.drop_zero]

/-- A missing first bound is 0. -/
theorem sliceOf_none : sliceOf none last vs = sliceOf (some 0) last vs := rfl

/-- A missing second bound is any that is not before the end of the list. -/
theorem sliceOf_none_right {n : Nat} (h : vs.length ≤ n) :
    sliceOf first none vs = sliceOf first (some n) vs := by
  rw [sliceOf_eq, sliceOf_eq, Option.getD_none, Option.getD_some, List.take_length,
    List.take_of_length_le h]

/-- **Two slices that meet** are the slice from the first to the last bound. -/
theorem sliceOf_append_sliceOf {first last : Option Nat} {middle : Nat}
    (hfirst : first.getD 0 ≤ middle) (hlast : ∀ bound, last = some bound → middle ≤ bound) :
    sliceOf first (some middle) vs ++ sliceOf (some middle) last vs = sliceOf first last vs := by
  have hbetween : ∀ bound, middle ≤ bound →
      sliceOf first (some middle) vs ++ sliceOf (some middle) (some bound) vs =
        sliceOf first (some bound) vs := by
    intro bound hle
    obtain ⟨n, rfl⟩ := Nat.exists_eq_add_of_le hfirst
    rw [sliceOf_eq, sliceOf_eq, sliceOf_eq, Option.getD_some, Option.getD_some, Option.getD_some]
    let start := first.getD 0
    calc (vs.take (start + n)).drop start ++ (vs.take bound).drop (start + n)
        = ((vs.take bound).take (start + n)).drop start ++ (vs.take bound).drop (start + n) := by
          rw [List.take_take, Nat.min_eq_left hle]
      _ = ((vs.take bound).drop start).take n ++ ((vs.take bound).drop start).drop n := by
          rw [List.drop_take, List.drop_drop, Nat.add_sub_cancel_left]
      _ = (vs.take bound).drop start := List.take_append_drop ..
  cases last with
  | some bound => exact hbetween bound (hlast bound rfl)
  | none =>
      -- a bound behind both the list and the bound in the middle
      have hend : vs.length ≤ max middle vs.length := Nat.le_max_right ..
      rw [sliceOf_none_right _ _ hend, sliceOf_none_right _ _ hend]
      exact hbetween _ (Nat.le_max_left ..)

end Lists

/-! ### Slices in paths -/

/-- A path of literal segments opens no level. -/
theorem collectors_of_isLiteral {p : Path} (hp : p.isLiteral = true) : p.collectors = 0 := by
  rw [Path.collectors, List.countP_eq_zero]
  intro s hs
  simp [List.all_eq_true.mp hp s hs]

/-- Behind a path of literal segments a segment is followed from what the path leads to. -/
theorem query_append_cons {p : Path} (hp : p.isLiteral = true) (s : Segment Condition) (r : Path)
    (d : Value) : query (p ++ s :: r) d = (query p d).bind (query (s :: r)) := by
  rw [query_append_eq, collectors_of_isLiteral hp]
  rfl

/-- **What a path with a slice in it selects.** Slices of one place that meet in a bound select the
results of the slice between the outer bounds, one part each, or nothing where there is no array. A
missing first bound is 0, and a missing second one any that is not before the end; without both
the slice selects what a star does. Whatever the bounds are, the items that are followed are a
range of the array. -/
theorem query_slices {p : Path} (hp : p.isLiteral = true) (r : Path) (d : Value) :
    (∀ first middle last, first.getD 0 ≤ middle → (∀ bound, last = some bound → middle ≤ bound) →
        (query (p ++ .slice first (some middle) :: r) d = none ∧
            query (p ++ .slice (some middle) last :: r) d = none ∧
            query (p ++ .slice first last :: r) d = none) ∨
          ∃ xs ys, query (p ++ .slice first (some middle) :: r) d = some (.array xs) ∧
            query (p ++ .slice (some middle) last :: r) d = some (.array ys) ∧
            query (p ++ .slice first last :: r) d = some (.array (xs ++ ys))) ∧
      (∀ last, query (p ++ .slice none last :: r) d = query (p ++ .slice (some 0) last :: r) d) ∧
      (∀ vs first n, query p d = some (.array vs) → vs.length ≤ n →
        query (p ++ .slice first none :: r) d = query (p ++ .slice first (some n) :: r) d) ∧
      query (p ++ .slice none none :: r) d = query (p ++ .wildcard :: r) d ∧
      ∀ vs first last, query p d = some (.array vs) →
        (sliceBounds first last vs.length).1 ≤ (sliceBounds first last vs.length).2 ∧
          (sliceBounds first last vs.length).2 ≤ vs.length ∧
          query (p ++ .slice first last :: r) d =
            some (.array ((vs.extract (sliceBounds first last vs.length).1
              (sliceBounds first last vs.length).2).filterMap (query r))) := by
  have hslice : ∀ first last, query (p ++ .slice first last :: r) d =
      (query p d).bind (query (.slice first last :: r)) := fun _ _ => query_append_cons hp _ r d
  refine ⟨?meet, ?noFirst, ?noLast, ?noBounds, ?range⟩
  case meet =>
    intro first middle last hfirst hlast
    rw [hslice, hslice, hslice]
    rcases hd : query p d with - | v
    · exact .inl ⟨rfl, rfl, rfl⟩
    cases v with
    | array vs =>
        refine .inr ⟨_, _, rfl, rfl, ?_⟩
        rw [← List.filterMap_append, sliceOf_append_sliceOf vs hfirst hlast]
        rfl
    | null | bool _ | number _ | string _ | object _ => exact .inl ⟨rfl, rfl, rfl⟩
  case noFirst =>
    intro last
    rw [hslice, hslice]
    congr 1
    funext v
    cases v with
    | array vs => rw [query, query, sliceOf_none]
    | null | bool _ | number _ | string _ | object _ => rfl
  case noLast =>
    intro vs first n hd hle
    rw [hslice, hslice, hd, Option.bind_some, Option.bind_some, query, query,
      sliceOf_none_right first vs hle]
  case noBounds =>
    rw [hslice, query_append_cons hp]
    congr 1
    funext v
    cases v with
    | array vs => rw [query, query, sliceOf_none_none]
    | null | bool _ | number _ | string _ | object _ => rfl
  case range =>
    intro vs first last hd
    obtain ⟨hle, hlength⟩ := sliceBounds_within first last vs.length
    refine ⟨hle, hlength, ?_⟩
    rw [hslice, hd, Option.bind_some, query, sliceOf_eq_extract]

/-- A list of records under a key, of which one lacks the member that is asked for. -/
def recordList : Value :=
  .object [("list", .array [.object [("a", .int 1)], .object [], .object [("a", .int 3)]])]

/-- To the list of records. -/
def pathToList : Path := [.key "list"]

/-- The slice up to the second record and the one from there on, with a bound far behind the end,
are parts of the whole; bounds the wrong way round select nothing. -/
theorem query_slices_recordList :
    (pathToList.isLiteral = true ∧ (none : Option Nat).getD 0 ≤ 2 ∧ 2 ≤ 900 ∧
        query pathToList recordList =
          some (.array [.object [("a", .int 1)], .object [], .object [("a", .int 3)]])) ∧
      ((query (pathToList ++ [.slice none (some 2), .key "a"]) recordList = none ∧
          query (pathToList ++ [.slice (some 2) (some 900), .key "a"]) recordList = none ∧
          query (pathToList ++ [.slice none (some 900), .key "a"]) recordList = none) ∨
        ∃ xs ys,
          query (pathToList ++ [.slice none (some 2), .key "a"]) recordList = some (.array xs) ∧
          query (pathToList ++ [.slice (some 2) (some 900), .key "a"]) recordList =
            some (.array ys) ∧
          query (pathToList ++ [.slice none (some 900), .key "a"]) recordList =
            some (.array (xs ++ ys))) ∧
      query (pathToList ++ [.slice (some 2) (some 1), .key "a"]) recordList = some (.array []) := by
  have hp : pathToList.isLiteral = true := rfl
  have hd : query pathToList recordList =
      some (.array [.object [("a", .int 1)], .object [], .object [("a", .int 3)]]) := rfl
  obtain ⟨hmeet, -, -, -, hrange⟩ := query_slices hp [.key "a"] recordList
  refine ⟨⟨hp, by decide, by decide, hd⟩, ?_, (hrange _ (some 2) (some 1) hd).2.2⟩
  exact hmeet none 2 (some 900) (by decide) fun bound h => by
    obtain rfl := Option.some.inj h
    decide

end JsonWorkbench
