import JsonWorkbench.Proofs.Difference.Place
import JsonWorkbench.Proofs.Write

/-!
# What a Write Leaves Alone

A write touches the place that it names and makes what is missing on the way there. Two texts can
name one place, as a numeral is an index where there is an array; so paths are compared by their
locations in the document, in which a numeral that names an item is written as its index. What
stands at a location apart from that of the write stands there afterwards. Where the two
locations part, they name different slots of one container, and filling a slot changes no other
one that holds something; up to there the write is one into the value that both paths lead to.

The containers on the way are kept as well: an object keeps its keys in order and gets at most one
new one, and an array keeps its other items and gets nulls up to the index that is written.

## Main definitions

* `location` — a path with the index in the place of every numeral that names an item.
* `GrowsAt` — a container is another one after something has been put in it at a segment.

## Main results

* `write_frame` — what a write leaves alone.
-/

namespace JsonWorkbench

variable {φ : Type}

/-! ### Locations -/

/-- The segment as it names a place in a value: a numeral that names an item is its index. -/
def placeIn : Value → Segment φ → Segment φ
  | .array _, .key k =>
    match keyIndex? k with
    | some i => .index i
    | none => .key k
  | _, s => s

/-- The path as it leads from a value, with the index in the place of every numeral that names an
item. Behind the last value that it leads to, the path is kept. -/
def location : Value → Segments φ → Segments φ
  | _, [] => []
  | v, s :: path =>
    placeIn v s ::
      match step v s with
      | some w => location w path
      | none => path

/-- The place of an index in an array is that index. -/
theorem placeIn_array {s : Segment φ} {i : Nat} (h : arrayIndex? s = some i) (vs : List Value) :
    placeIn (.array vs) s = .index i := by
  cases s with
  | index j => exact congrArg Segment.index (Option.some.inj h)
  | key k =>
      have hk : keyIndex? k = some i := h
      rw [placeIn, hk]
  | wildcard | slice _ _ | filter _ | descendant _ => exact absurd h (Option.some_ne_none i).symm

/-- The place of a segment in an array is an index only where it names the item at it. -/
theorem arrayIndex?_of_placeIn {s : Segment φ} {i : Nat} {vs : List Value}
    (h : placeIn (.array vs) s = .index i) : arrayIndex? s = some i := by
  cases s with
  | index j => exact congrArg some (Segment.index.inj h)
  | key k =>
      rw [placeIn] at h
      cases hk : keyIndex? k with
      | none => simp [hk] at h
      | some j =>
          rw [hk] at h
          exact hk.trans (congrArg some (Segment.index.inj h))
  | wildcard | slice _ _ | filter _ | descendant _ => simp [placeIn] at h

/-- Where there is no array, a segment is its own place. -/
theorem placeIn_object (ms : Members) (s : Segment φ) : placeIn (.object ms) s = s := by
  cases s <;> rfl

/-- The location of a path whose first segment leads to a value. -/
theorem location_cons {v w : Value} {s : Segment φ} (h : step v s = some w) (path : Segments φ) :
    location v (s :: path) = placeIn v s :: location w path := by
  rw [location, h]

section Slots

variable {s t : Segment φ} {v w : Value} {place : Slot}

/-- Segments of one place have one slot, if one of them leads to a value. -/
theorem slot?_of_placeIn_eq (h : slot? v s = some place) (hstep : step v t = some w)
    (hst : placeIn v s = placeIn v t) : slot? v t = some place := by
  obtain ⟨vs, i, rfl, hi, rfl⟩ | ⟨ms, k, rfl, rfl, rfl⟩ := slot?_cases h
  · rw [step_array, Option.bind_eq_some_iff] at hstep
    obtain ⟨j, hj, -⟩ := hstep
    rw [placeIn_array hi, placeIn_array hj] at hst
    rw [slot?, hj, ← Segment.index.inj hst, Option.map_some]
  · rw [placeIn_object, placeIn_object] at hst
    exact hst ▸ h

/-- Segments of one place lead to one value. -/
theorem step_of_placeIn_eq (h : step v t = some w) (hst : placeIn v s = placeIn v t) :
    step v s = some w := by
  obtain ⟨place, hslot, -⟩ := exists_slot_of_step h
  obtain ⟨vs, i, rfl, hi, -⟩ | ⟨ms, k, rfl, rfl, -⟩ := slot?_cases hslot
  · rw [step_array] at h ⊢
    rw [placeIn_array hi] at hst
    rw [arrayIndex?_of_placeIn hst, ← hi, h]
  · rw [placeIn_object, placeIn_object] at hst
    exact hst ▸ h

/-- A write through the place of a value goes on in that value. -/
theorem writeAt_of_placeIn_eq {new : Value} {p : Segments φ}
    (h : (writeAt new (s :: p) v).fault = none) (hstep : step v t = some w)
    (hst : placeIn v s = placeIn v t) :
    (writeAt new p w).fault = none ∧
      step (writeAt new (s :: p) v).document t = some (writeAt new p w).document := by
  obtain ⟨place, hslot, hfault, hdoc⟩ := exists_slot_of_fault_eq_none h
  rw [openFor_of_step hstep] at hslot
  obtain ⟨rfl, -⟩ := content_of_step hslot (step_of_placeIn_eq hstep hst)
  rw [hdoc]
  exact ⟨hfault, step_put (slot?_of_placeIn_eq hslot hstep hst) _⟩

/-- Filling a slot changes nothing in another place. -/
theorem step_put_of_placeIn_ne (h : slot? v s = some place) (hstep : step v t = some w)
    (hst : placeIn v s ≠ placeIn v t) (x : Value) : step (place.put x) t = some w := by
  obtain ⟨vs, i, rfl, hi, rfl⟩ | ⟨ms, k, rfl, rfl, rfl⟩ := slot?_cases h
  · rw [step_array, Option.bind_eq_some_iff] at hstep
    obtain ⟨j, hj, hget⟩ := hstep
    have hij : i ≠ j := by
      rintro rfl
      exact hst (by rw [placeIn_array hi, placeIn_array hj])
    obtain ⟨hlt, -⟩ := List.getElem?_eq_some_iff.mp hget
    rw [itemSlot, step_array, hj, Option.bind_some, List.getElem?_set_ne hij, getElem?_padTo,
      if_pos hlt, hget]
  · cases t with
    | key l =>
        have hkl : k ≠ l := by
          rintro rfl
          exact hst rfl
        rw [memberSlot, step, Members.get?, Keyed.get?_insert, if_neg hkl]
        exact hstep
    | index _ | wildcard | slice _ _ | filter _ | descendant _ =>
        exact absurd hstep (Option.some_ne_none w).symm

end Slots

/-! ### Places apart -/

/-- Paths are apart that begin with different segments, or with one and go on apart. -/
theorem apart_cons_iff {s t : Segment Condition} {p q : Path} :
    Apart (s :: p) (t :: q) ↔ s ≠ t ∨ Apart p q := by
  simp only [Apart, List.cons_prefix_cons]
  by_cases hst : s = t
  · simp [hst]
  · simp [hst, Ne.symm hst]

/-- **What stands apart from a write stays**, as long as the write meets no fault. -/
theorem locate_writeAt_of_apart {v w : Value} {p q : Path} {d : Value}
    (h : (writeAt v p d).fault = none) (hq : locate d q = some w)
    (hpq : Apart (location d p) (location d q)) :
    locate (writeAt v p d).document q = some w := by
  -- along the written path, with the other one cut segment by segment
  induction p generalizing d q with
  | nil => exact absurd List.nil_prefix hpq.1
  | cons s p ih =>
      rcases q with - | ⟨t, q⟩
      · exact absurd List.nil_prefix hpq.2
      obtain ⟨child, hstep, hchild⟩ := Option.bind_eq_some_iff.mp hq
      rw [location, location, apart_cons_iff] at hpq
      by_cases hst : placeIn d s = placeIn d t
      case neg =>
        obtain ⟨place, hslot, -, hdoc⟩ := exists_slot_of_fault_eq_none h
        rw [openFor_of_step hstep] at hslot
        rw [hdoc, locate, step_put_of_placeIn_ne hslot hstep hst, Option.bind_some, hchild]
      case pos =>
        -- both paths lead to the child, in which the write goes on
        obtain ⟨hfault, hdoc⟩ := writeAt_of_placeIn_eq h hstep hst
        have hrest := hpq.resolve_left (not_not_intro hst)
        rw [hstep, step_of_placeIn_eq hstep hst] at hrest
        rw [locate, hdoc, Option.bind_some]
        exact ih hfault hchild hrest

/-! ### Containers on the way -/

/-- A container is another one after something has been put in it at a segment. -/
inductive GrowsAt (s : Segment φ) : Value → Value → Prop
  /-- The other items are kept, and nulls fill the list up to the index. -/
  | array {vs ws : List Value} {i : Nat} (hindex : arrayIndex? s = some i)
      (hlength : ws.length = max vs.length (i + 1))
      (hkept : ∀ j, j < vs.length → j ≠ i → ws[j]? = vs[j]?)
      (hnull : ∀ j, vs.length ≤ j → j < i → ws[j]? = some .null) :
      GrowsAt s (.array vs) (.array ws)
  /-- The keys are kept in order, with at most the written one new and behind them, and the values
  under the other keys are kept. -/
  | object {ms ns : Members} {k : String} (hkey : s = .key k)
      (hkeys : ns.keys = ms.keys ∨ (k ∉ ms.keys ∧ ns.keys = ms.keys ++ [k]))
      (hkept : ∀ l, l ≠ k → ns.get? l = ms.get? l) :
      GrowsAt s (.object ms) (.object ns)

/-- A container grows at the slot that is filled. -/
theorem growsAt_put {s : Segment φ} {v : Value} {place : Slot} (h : slot? v s = some place)
    (x : Value) : GrowsAt s v (place.put x) := by
  obtain ⟨vs, i, rfl, hi, rfl⟩ | ⟨ms, k, rfl, rfl, rfl⟩ := slot?_cases h
  · refine .array hi (by rw [List.length_set, length_padTo]) ?_ ?_
    · intro j hlt hji
      rw [List.getElem?_set_ne hji.symm, getElem?_padTo, if_pos hlt]
    · intro j hle hlt
      rw [List.getElem?_set_ne (by omega), getElem?_padTo, if_neg (by omega), if_pos (by omega)]
  · refine .object rfl (Keyed.keys_insert ms k x) fun l hl => ?_
    rw [Members.get?, Keyed.get?_insert, if_neg hl.symm]

/-- A container on the way of a write grows at the segment behind it. -/
theorem exists_growsAt {v c : Value} {front : Segments φ} {s : Segment φ} {rest : Segments φ}
    {d : Value} (h : (writeAt v (front ++ s :: rest) d).fault = none)
    (hc : locate d front = some c) (hcontainer : c.isContainer = true) :
    ∃ c', locate (writeAt v (front ++ s :: rest) d).document front = some c' ∧
      GrowsAt s c c' := by
  induction front generalizing d with
  | nil =>
      obtain rfl : d = c := Option.some.inj hc
      obtain ⟨place, hslot, -, hdoc⟩ := exists_slot_of_fault_eq_none h
      have hnull : d ≠ .null := by
        rintro rfl
        exact Bool.noConfusion hcontainer
      rw [openFor_of_ne hnull] at hslot
      exact ⟨_, rfl, by rw [List.nil_append, hdoc]; exact growsAt_put hslot _⟩
  | cons t front ih =>
      obtain ⟨child, hstep, hchild⟩ := Option.bind_eq_some_iff.mp hc
      rw [List.cons_append] at h ⊢
      obtain ⟨place, hslot, hfault, hdoc⟩ := exists_slot_of_fault_eq_none h
      rw [openFor_of_step hstep] at hslot
      obtain ⟨rfl, -⟩ := content_of_step hslot hstep
      rw [hdoc, locate, step_put hslot, Option.bind_some]
      exact ih hfault hchild

/-! ### Documents -/

/-- **A write touches only its own location.** What stands at a location apart from it stands
there afterwards, and every container on the way grows at the segment behind it only. -/
theorem write_frame {p : Path} {d d' v : Value} (h : p.write v d = (d', none)) :
    (∀ q w, locate d q = some w → Apart (location d p) (location d q) → locate d' q = some w) ∧
      ∀ front s rest c, p = front ++ s :: rest → locate d front = some c →
        c.isContainer = true → ∃ c', locate d' front = some c' ∧ GrowsAt s c c' := by
  obtain ⟨-, hfault, rfl⟩ := write_eq_none_iff.mp h
  constructor
  · intro q w hq hpq
    exact locate_writeAt_of_apart hfault hq hpq
  · rintro front s rest c rfl hc hcontainer
    exact exists_growsAt hfault hc hcontainer

/-- The write into the null of the list keeps the item behind it, which another numeral names, and
the list grows at the first numeral. -/
theorem write_frame_sparseList :
    pathIntoNull.write (.int 7) sparseList = (filledList, none) ∧
      Apart (location sparseList pathIntoNull) (location sparseList [.key "list", .key "+1"]) ∧
      locate filledList ([.key "list", .key "+1"] : Path) = some (.int 1) ∧
      ∃ c, locate filledList ([.key "list"] : Path) = some c ∧
        GrowsAt (.key "0" : Segment Condition) (.array [.null, .int 1]) c := by
  have hwrite : pathIntoNull.write (.int 7) sparseList = (filledList, none) := rfl
  have hapart : Apart (location sparseList pathIntoNull)
      (location sparseList [.key "list", .key "+1"]) := by
    have hhere : location sparseList pathIntoNull =
        [.key "list", .index 0, .key "deep", .index 1] := rfl
    have hthere : location sparseList ([.key "list", .key "+1"] : Path) =
        [.key "list", .index 1] := rfl
    simp [hhere, hthere, apart_cons_iff]
  obtain ⟨hkept, hgrows⟩ := write_frame hwrite
  exact ⟨hwrite, hapart, hkept _ _ rfl hapart,
    hgrows [.key "list"] (.key "0") [.key "deep", .index 1] _ rfl rfl rfl⟩

end JsonWorkbench
