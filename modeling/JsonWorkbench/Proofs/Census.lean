import JsonWorkbench.Proofs.Pointer.Resolution
import JsonWorkbench.Proofs.Query.Descent
import JsonWorkbench.Transform.Census
import Mathlib.Data.Set.Card

/-!
# What a Census Counts

The walk that counts the values of a document takes one record of counts through all containers.
It comes to the places of the document in the order in which they are listed, so that its counts
are those of a single pass over this list (`countValues_eq`). What a pass does follows from what
one place adds to the counts: one to the sum, one to the count of the kind that stands there, and
its depth to the depths of which the greatest is kept.

A location is a path of keys taken at objects and of indices taken at arrays that leads to a value.
No location is listed twice and none is left out, and the depth of a value is the length of the
path to it.

## Main definitions

* `locations` — the locations in a value.
* `Census.ofKind` — the count of a kind.
* `Census.countPlaces` — the counts of a pass over places.

## Main results

* `leads_iff` — the paths to locations are those that are followed to a value and have no numeral
  in the place of an index.
* `countValues_eq` — the walk is a pass over the places.
* `census_locations` — a census counts every location once.
-/

namespace JsonWorkbench

/-! ### One place -/

namespace Census

/-- The count of the values of a kind. -/
def ofKind (c : Census) : Kind → Nat
  | .null => c.nulls
  | .boolean => c.booleans
  | .number => c.numbers
  | .string => c.strings
  | .array => c.arrays
  | .object => c.objects

/-- A value adds one to the sum of the counts. -/
theorem total_count (c : Census) (depth : Nat) (kind : Kind) :
    (c.count depth kind).total = c.total + 1 := by
  cases kind <;> simp only [count, total] <;> omega

/-- A value adds one to the count of its kind and leaves the others as they are. -/
theorem ofKind_count (c : Census) (depth : Nat) (kind k : Kind) :
    (c.count depth kind).ofKind k = c.ofKind k + if kind = k then 1 else 0 := by
  cases kind <;> cases k <;> rfl

/-- The greatest depth is kept. -/
theorem maxDepth_count (c : Census) (depth : Nat) (kind : Kind) :
    (c.count depth kind).maxDepth = max c.maxDepth depth := by
  cases kind <;> rfl

/-! ### A pass over places -/

/-- The counts with the values at some places added one after another; the paths lead on from a
value at a depth. -/
def countPlaces (c : Census) (depth : Nat) (ps : List (Path × Value)) : Census :=
  ps.foldl (fun c x => c.count (depth + x.1.length) x.2.kind) c

variable (c : Census) (depth : Nat) (ps : List (Path × Value))

/-- The places in a child are one deeper. -/
theorem countPlaces_under (s : Segment Condition) :
    c.countPlaces depth (ps.map (under s)) = c.countPlaces (depth + 1) ps := by
  rw [countPlaces, countPlaces, List.foldl_map]
  refine List.foldl_ext _ _ c fun c x _ => ?_
  rw [under, List.length_cons, Nat.add_right_comm, Nat.add_assoc]

/-- A pass adds the number of places to the sum of the counts. -/
theorem total_countPlaces : (c.countPlaces depth ps).total = c.total + ps.length := by
  induction ps generalizing c with
  | nil => rfl
  | cons x ps ih =>
      calc ((c.count (depth + x.1.length) x.2.kind).countPlaces depth ps).total
          = (c.count (depth + x.1.length) x.2.kind).total + ps.length := ih _
        _ = c.total + (x :: ps).length := by
              rw [total_count, List.length_cons, Nat.add_assoc, Nat.add_comm 1]

/-- A pass adds to the count of a kind the number of places with a value of the kind. -/
theorem ofKind_countPlaces (k : Kind) :
    (c.countPlaces depth ps).ofKind k = c.ofKind k + ps.countP (·.2.kind = k) := by
  induction ps generalizing c with
  | nil => rfl
  | cons x ps ih =>
      calc ((c.count (depth + x.1.length) x.2.kind).countPlaces depth ps).ofKind k
          = (c.count (depth + x.1.length) x.2.kind).ofKind k + ps.countP (·.2.kind = k) := ih _
        _ = c.ofKind k + (x :: ps).countP (·.2.kind = k) := by
              simp only [ofKind_count, List.countP_cons, decide_eq_true_eq]
              omega

/-- The greatest depth after a pass is the least bound of the greatest one before it and of the
depths of the places. -/
theorem maxDepth_countPlaces_le_iff {n : Nat} :
    (c.countPlaces depth ps).maxDepth ≤ n ↔
      c.maxDepth ≤ n ∧ ∀ x ∈ ps, depth + x.1.length ≤ n := by
  induction ps generalizing c with
  | nil => simp [countPlaces]
  | cons x ps ih =>
      have hstep : c.countPlaces depth (x :: ps) =
          (c.count (depth + x.1.length) x.2.kind).countPlaces depth ps := rfl
      rw [hstep, ih, maxDepth_count, Nat.max_le, List.forall_mem_cons, and_assoc]

end Census

/-! ### The walk -/

/-- Items are counted one after another. -/
theorem countItems_eq_foldl (c : Census) (depth : Nat) (vs : List Value) :
    countItems c depth vs = vs.foldl (fun c v => countValues c depth v) c := by
  induction vs generalizing c with
  | nil => rfl
  | cons v vs ih => rw [countItems, ih, List.foldl_cons]

/-- The values of members are counted one after another. -/
theorem countMembers_eq_foldl (c : Census) (depth : Nat) (ms : Members) :
    countMembers c depth ms = ms.foldl (fun c m => countValues c depth m.2) c := by
  induction ms generalizing c with
  | nil => rfl
  | cons m ms ih => rw [countMembers, ih, List.foldl_cons]

/-- A value is counted before its children, and these one after another. -/
theorem countValues_children (c : Census) (depth : Nat) (v : Value) :
    countValues c depth v =
      v.children.foldl (fun c x => countValues c (depth + 1) x.2) (c.count depth v.kind) := by
  cases v with
  | null | bool _ | number _ | string _ => rfl
  | array vs =>
      have hitems : (Value.array vs).children.map (·.2) = vs := by
        rw [Value.children, List.map_map]
        exact List.zipIdx_map_fst 0 vs
      calc countItems (c.count depth .array) (depth + 1) vs
          = ((Value.array vs).children.map (·.2)).foldl
              (fun c v => countValues c (depth + 1) v) (c.count depth .array) := by
                rw [countItems_eq_foldl, hitems]
        _ = _ := List.foldl_map
  | object ms =>
      rw [countValues, countMembers_eq_foldl, Value.children, List.foldl_map]
      rfl

/-- **The walk over a value is a pass over the places in it.** -/
theorem countValues_eq (c : Census) (depth : Nat) (v : Value) :
    countValues c depth v = c.countPlaces depth (places v) := by
  induction v using Value.induct_children generalizing c depth with
  | ih v ih =>
      rw [countValues_children, places_eq, Census.countPlaces, List.foldl_cons, placesBelow,
        List.foldl_flatMap]
      refine List.foldl_ext _ _ _ fun c x hx => ?_
      rw [ih x hx]
      exact (c.countPlaces_under depth (places x.2) x.1).symm

/-! ### Locations -/

/-- The locations in a value: the paths of keys taken at objects and of indices taken at arrays
that lead to a value. -/
def locations (v : Value) : Set Path := {p | ∃ w, Leads v p w}

variable {v w : Value} {p : Path}

/-- A path leads through the child that its first segment names. -/
theorem leads_cons_iff (hv : v.WellFormed) {s : Segment Condition} :
    Leads v (s :: p) w ↔ ∃ child, (s, child) ∈ v.children ∧ Leads child p w := by
  constructor
  · intro h
    cases h with
    | key hget h =>
        exact ⟨_, Value.mem_children_object_iff.mpr ⟨_, rfl, Keyed.mem_of_get? hget⟩, h⟩
    | index hget h => exact ⟨_, Value.mem_children_array_iff.mpr ⟨_, rfl, hget⟩, h⟩
  · rintro ⟨child, hchild, h⟩
    cases v with
    | null | bool _ | number _ | string _ => exact absurd hchild List.not_mem_nil
    | array vs =>
        obtain ⟨i, rfl, hget⟩ := Value.mem_children_array_iff.mp hchild
        exact .index hget h
    | object ms =>
        obtain ⟨k, rfl, hm⟩ := Value.mem_children_object_iff.mp hchild
        exact .key (Keyed.get?_of_mem (Value.wellFormed_object_iff.mp hv).1 hm) h

/-- The places listed are what those paths lead to. -/
theorem mem_places_iff_leads (hv : v.WellFormed) : (p, w) ∈ places v ↔ Leads v p w := by
  induction p generalizing v with
  | nil =>
      constructor
      · intro h
        obtain rfl : v = w := Option.some.inj ((mem_places_iff hv).mp h).1
        exact .here v
      · rintro ⟨⟩
        rw [places_eq]
        exact List.mem_cons_self ..
  | cons s p ih =>
      have hhere : (s :: p, w) ≠ ([], v) := fun h => List.cons_ne_nil s p (Prod.mk.inj h).1
      rw [leads_cons_iff hv, places_eq, List.mem_cons, or_iff_right hhere, mem_placesBelow_iff]
      constructor
      · rintro ⟨s', p', child, hpath, hchild, h⟩
        obtain ⟨rfl, rfl⟩ := List.cons.inj hpath
        exact ⟨child, hchild, (ih (hv.step ((Value.mem_children_iff hv).mp hchild).1)).mp h⟩
      · rintro ⟨child, hchild, h⟩
        have hstep := ((Value.mem_children_iff hv).mp hchild).1
        exact ⟨s, p, child, rfl, hchild, (ih (hv.step hstep)).mpr h⟩

/-- **Where paths of keys at objects and indices at arrays lead** is where they are followed to; of
the paths that are followed to a value they are the ones without a numeral in the place of an
index. -/
theorem leads_iff (hv : v.WellFormed) :
    Leads v p w ↔ locate v p = some w ∧ location v p = p := by
  rw [← mem_places_iff_leads hv, mem_places_iff hv]

/-- No two places have one path. -/
theorem nodup_paths_places (hv : v.WellFormed) : ((places v).map (·.1)).Nodup := by
  refine List.pairwise_map.mpr ((pairwise_precedes_places hv).imp fun {x y} hxy heq => ?_)
  exact not_precedes_self hv x.1 (by rwa [← heq] at hxy)

/-- A set that a list without repetitions lists has as many elements as the list. -/
theorem encard_eq_length {α : Type} {s : Set α} {l : List α} (hl : l.Nodup)
    (hs : ∀ a, a ∈ s ↔ a ∈ l) : s.encard = l.length := by
  classical
  have hset : s = ↑l.toFinset := by
    ext a
    rw [hs, Finset.mem_coe, List.mem_toFinset]
  rw [hset, Set.encard_coe_eq_coe_finsetCard, List.toFinset_card_of_nodup hl]

/-- The locations with a value of some sort are as many as there are such places in the list. -/
theorem encard_leads (hv : v.WellFormed) (q : Value → Bool) :
    {p | ∃ w, Leads v p w ∧ q w = true}.encard = (places v).countP (q ·.2) := by
  have hmem : ∀ p, p ∈ {p | ∃ w, Leads v p w ∧ q w = true} ↔
      p ∈ ((places v).filter (q ·.2)).map (·.1) := by
    simp [mem_places_iff_leads hv]
  have hnodup : (((places v).filter (q ·.2)).map (·.1)).Nodup :=
    (nodup_paths_places hv).sublist (List.filter_sublist.map _)
  rw [encard_eq_length hnodup hmem, List.length_map, List.countP_eq_length_filter]

/-- The greatest depth is the least bound of the lengths of locations. -/
theorem maxDepth_census_le_iff (hv : v.WellFormed) {n : Nat} :
    (census v).maxDepth ≤ n ↔ ∀ p ∈ locations v, p.length ≤ n := by
  rw [census, countValues_eq, Census.maxDepth_countPlaces_le_iff]
  constructor
  · rintro ⟨-, h⟩ p ⟨w, hw⟩
    simpa using h (p, w) ((mem_places_iff_leads hv).mpr hw)
  · intro h
    refine ⟨Nat.zero_le n, fun x hx => ?_⟩
    simpa using h x.1 ⟨x.2, (mem_places_iff_leads hv).mp hx⟩

/-! ### Documents -/

/-- **A census counts every location once**: the sum of its counts is the number of locations, each
count is the number of the locations with a value of the kind, and the depth is the greatest length
of a location. The locations are the paths of keys at objects and of indices at arrays that can be
followed to a value. -/
theorem census_locations (hv : v.WellFormed) :
    (∀ p, p ∈ locations v ↔ (∃ w, locate v p = some w) ∧ location v p = p) ∧
      (locations v).encard = (census v).total ∧
      (∀ k, {p ∈ locations v | (locate v p).map Value.kind = some k}.encard =
        (census v).ofKind k) ∧
      IsGreatest (List.length '' locations v) (census v).maxDepth := by
  refine ⟨fun p => ?followed, ?total, fun k => ?kind, ?attained, ?bound⟩
  case followed => simp only [locations, Set.mem_ofPred_eq, leads_iff hv, exists_and_right]
  case total =>
    have hall : locations v = {p | ∃ w, Leads v p w ∧ true = true} := by simp [locations]
    rw [hall, encard_leads hv fun _ => true, List.countP_true, census, countValues_eq,
      Census.total_countPlaces, show Census.zero.total = 0 from rfl, Nat.zero_add]
  case kind =>
    have hkind : {p ∈ locations v | (locate v p).map Value.kind = some k} =
        {p | ∃ w, Leads v p w ∧ decide (w.kind = k) = true} := by
      ext p
      constructor
      · rintro ⟨⟨w, hw⟩, hk⟩
        rw [hw.locate_eq, Option.map_some, Option.some.injEq] at hk
        exact ⟨w, hw, decide_eq_true hk⟩
      · rintro ⟨w, hw, hk⟩
        refine ⟨⟨w, hw⟩, ?_⟩
        rw [hw.locate_eq, Option.map_some, of_decide_eq_true hk]
    have hzero : Census.zero.ofKind k = 0 := by cases k <;> rfl
    rw [hkind, encard_leads hv fun w => decide (w.kind = k), census, countValues_eq,
      Census.ofKind_countPlaces, hzero, Nat.zero_add]
  case attained =>
    -- a depth of no location could be lowered by one, as the root keeps it from being 0
    by_contra hnone
    have hless : ∀ p ∈ locations v, p.length < (census v).maxDepth := fun p hp =>
      lt_of_le_of_ne ((maxDepth_census_le_iff hv).mp le_rfl p hp) fun heq => hnone ⟨p, hp, heq⟩
    have hroot := hless [] ⟨v, .here v⟩
    have hbound := (maxDepth_census_le_iff hv).mpr fun p hp => Nat.le_sub_one_of_lt (hless p hp)
    omega
  case bound =>
    rintro n ⟨p, hp, rfl⟩
    exact (maxDepth_census_le_iff hv).mp le_rfl p hp

/-- A document with values of all kinds and with numerals for keys. -/
def numberedBranches : Value :=
  .object [("0", .array [.int 1, .string "x", .null, .object [("1", .bool true)]]), ("1", .array [])]

/-- Eight values, two of them objects, and the deepest one behind three steps. -/
theorem census_locations_numberedBranches :
    numberedBranches.WellFormed ∧ (locations numberedBranches).encard = 8 ∧
      {p ∈ locations numberedBranches |
        (locate numberedBranches p).map Value.kind = some .object}.encard = 2 ∧
      IsGreatest (List.length '' locations numberedBranches) 3 := by
  have hv : numberedBranches.WellFormed := by decide
  obtain ⟨-, htotal, hkind, hdepth⟩ := census_locations hv
  exact ⟨hv, htotal, hkind .object, hdepth⟩

end JsonWorkbench
