import JsonWorkbench.Path.Update
import JsonWorkbench.Proofs.Keyed
import Mathlib.Data.List.Basic

/-!
# Writing at a Path

A write walks down and builds the document again on its way back. One segment of it is a `Slot`:
what stands at the segment in a container, and what the container becomes when something else is
put there. An array has a slot for every index, those behind its end after padding; an object has
one for every key. `writeAt_cons` says once what a write does at a segment, and the laws of a slot
say how it agrees with following the segment. Everything about whole paths is an induction that
uses nothing else.

A write and a look-up are the two halves of a lens: what is written is found, a later write at the
same path wins, and writing what is found changes nothing. A write can fail only where it meets a
value that was there before: a container it has made itself is always of the kind that the next
segment needs. So a failed write has not made anything.

## Main definitions

* `Slot`, `slot?` — the slot of a value for a segment.

## Main results

* `writeAt_cons` — what a write does at a segment.
* `write_lens` — writing and looking up are a lens.
* `write_atomic` — a failed write leaves the document as it was.
-/

namespace JsonWorkbench

variable {φ : Type}

/-! ### Arrays at an index -/

/-- A list that is long enough is not lengthened. -/
theorem padTo_of_le {n : Nat} {vs : List Value} (h : n ≤ vs.length) : padTo n vs = vs := by
  rw [padTo, Nat.sub_eq_zero_of_le h, List.replicate_zero, List.append_nil]

/-- The length of a lengthened list. -/
@[simp]
theorem length_padTo (n : Nat) (vs : List Value) : (padTo n vs).length = max vs.length n := by
  rw [padTo, List.length_append, List.length_replicate]
  omega

/-- The items of a lengthened list: its own, and then nulls. -/
theorem getElem?_padTo (n : Nat) (vs : List Value) (j : Nat) :
    (padTo n vs)[j]? = if j < vs.length then vs[j]? else if j < n then some .null else none := by
  rw [padTo]
  rcases Nat.lt_or_ge j vs.length with h | h
  · rw [if_pos h, List.getElem?_append_left h]
  · have hcount : j - vs.length < n - vs.length ↔ j < n := by omega
    rw [if_neg (by omega), List.getElem?_append_right h, List.getElem?_replicate]
    simp only [hcount]

/-- A segment of an array leads to the item at its index. -/
theorem step_array (vs : List Value) (s : Segment φ) :
    step (.array vs) s = (arrayIndex? s).bind (vs[·]?) := by
  cases s <;> rfl

/-- Only a literal segment leads to a value. -/
theorem isLiteral_of_step {v w : Value} {s : Segment φ} (h : step v s = some w) :
    s.isLiteral = true := by
  cases s with
  | key _ | index _ => rfl
  | wildcard | slice _ _ | filter _ | descendant _ => cases v <;> simp [step] at h

/-! ### Slots -/

/-- A place directly in a container. -/
structure Slot where
  /-- What stands there; null where nothing does. -/
  content : Value
  /-- The container with something else there. -/
  put : Value → Value

/-- The slot of an array at an index. -/
def itemSlot (vs : List Value) (i : Nat) : Slot where
  content := (padTo (i + 1) vs)[i]?.getD .null
  put w := .array ((padTo (i + 1) vs).set i w)

/-- The slot of an object under a key. -/
def memberSlot (ms : Members) (k : String) : Slot where
  content := (Members.get? ms k).getD .null
  put w := .object (Members.insert ms k w)

/-- The slot of a value for a segment. -/
def slot? : Value → Segment φ → Option Slot
  | .array vs, s => (arrayIndex? s).map (itemSlot vs)
  | .object ms, .key k => some (memberSlot ms k)
  | _, _ => none

/-- **One segment of a write**: a null is opened, and what is written below the segment is put in
its slot. Without a slot the write ends. -/
theorem writeAt_cons (new : Value) (s : Segment φ) (path : Segments φ) (v : Value) :
    writeAt new (s :: path) v =
      match slot? (openFor s v) s with
      | some place => (writeAt new path place.content).within place.put
      | none =>
        { document := openFor s v
          fault := some { found := (openFor s v).kind, atEnd := path.isEmpty } } := by
  cases h : openFor s v with
  | array vs =>
      simp only [writeAt, h, slot?]
      cases arrayIndex? s <;> rfl
  | object ms =>
      cases s with
      | key k =>
          simp only [writeAt, h, slot?]
          rfl
      | index _ | wildcard | slice _ _ | filter _ | descendant _ => simp only [writeAt, h, slot?]
  | null | bool _ | number _ | string _ => simp only [writeAt, h, slot?]

section Slots

variable {s : Segment φ} {v w : Value} {place : Slot}

/-- The values that have slots, and their slots. -/
theorem slot?_cases (h : slot? v s = some place) :
    (∃ vs i, v = .array vs ∧ arrayIndex? s = some i ∧ place = itemSlot vs i) ∨
      ∃ ms k, v = .object ms ∧ s = .key k ∧ place = memberSlot ms k := by
  cases v with
  | array vs =>
      obtain ⟨i, hi, rfl⟩ := Option.map_eq_some_iff.mp h
      exact .inl ⟨vs, i, rfl, hi, rfl⟩
  | object ms =>
      cases s with
      | key k => exact .inr ⟨ms, k, rfl, rfl, (Option.some.inj h).symm⟩
      | index _ | wildcard | slice _ _ | filter _ | descendant _ =>
          exact absurd h (Option.some_ne_none place).symm
  | null | bool _ | number _ | string _ => exact absurd h (Option.some_ne_none place).symm

/-- What is put in a slot is what the segment leads to. -/
theorem step_put (h : slot? v s = some place) (w : Value) : step (place.put w) s = some w := by
  obtain ⟨vs, i, rfl, hi, rfl⟩ | ⟨ms, k, rfl, rfl, rfl⟩ := slot?_cases h
  · rw [itemSlot, step_array, hi, Option.bind_some]
    exact List.getElem?_set_self (by rw [length_padTo]; omega)
  · simp [memberSlot, step, Members.insert, Keyed.get?_insert]

/-- A slot that has been filled stays the same slot, with another content. -/
theorem slot?_put (h : slot? v s = some place) (w : Value) :
    slot? (place.put w) s = some { content := w, put := place.put } := by
  obtain ⟨vs, i, rfl, hi, rfl⟩ | ⟨ms, k, rfl, rfl, rfl⟩ := slot?_cases h
  · have hpad : padTo (i + 1) ((padTo (i + 1) vs).set i w) = (padTo (i + 1) vs).set i w :=
      padTo_of_le (by rw [List.length_set, length_padTo]; omega)
    have hget : ((padTo (i + 1) vs).set i w)[i]? = some w :=
      List.getElem?_set_self (by rw [length_padTo]; omega)
    rw [itemSlot, slot?, hi, Option.map_some, itemSlot, hpad, hget]
    simp only [Option.getD_some, List.set_set]
  · simp [memberSlot, slot?, Members.insert, Keyed.get?_insert, Keyed.insert_insert]

/-- Where a segment leads to a value, that value stands in its slot, and putting it there again
changes nothing. -/
theorem exists_slot_of_step (h : step v s = some w) :
    ∃ place, slot? v s = some place ∧ place.content = w ∧ place.put w = v := by
  cases v with
  | array vs =>
      rw [step_array, Option.bind_eq_some_iff] at h
      obtain ⟨i, hi, hget⟩ := h
      obtain ⟨hlt, rfl⟩ := List.getElem?_eq_some_iff.mp hget
      have hpad : padTo (i + 1) vs = vs := padTo_of_le hlt
      exact ⟨itemSlot vs i, by rw [slot?, hi, Option.map_some], by simp [itemSlot, hpad, hget],
        by simp [itemSlot, hpad]⟩
  | object ms =>
      cases s with
      | key k =>
          have hget : Members.get? ms k = some w := h
          exact ⟨memberSlot ms k, rfl, by rw [memberSlot, hget, Option.getD_some],
            congrArg Value.object (Keyed.insert_of_get? hget)⟩
      | index _ | wildcard | slice _ _ | filter _ | descendant _ =>
          exact absurd h (Option.some_ne_none w).symm
  | null | bool _ | number _ | string _ => exact absurd h (Option.some_ne_none w).symm

/-- The slot of a segment that leads to a value holds this value. -/
theorem content_of_step (h : slot? v s = some place) (hstep : step v s = some w) :
    place.content = w ∧ place.put w = v := by
  obtain ⟨place', hslot, hcontent⟩ := exists_slot_of_step hstep
  obtain rfl : place' = place := Option.some.inj (hslot.symm.trans h)
  exact hcontent

/-- Where a segment leads nowhere, its slot holds a null. -/
theorem content_of_step_eq_none (h : slot? v s = some place) (hstep : step v s = none) :
    place.content = .null := by
  obtain ⟨vs, i, rfl, hi, rfl⟩ | ⟨ms, k, rfl, rfl, rfl⟩ := slot?_cases h
  · rw [step_array, hi, Option.bind_some, List.getElem?_eq_none_iff] at hstep
    rw [itemSlot, getElem?_padTo, if_neg (by omega), if_pos (by omega), Option.getD_some]
  · have hget : Members.get? ms k = none := hstep
    rw [memberSlot, hget, Option.getD_none]

/-- A container with a filled slot is not opened. -/
theorem openFor_put (h : slot? v s = some place) (t : Segment φ) (w : Value) :
    openFor t (place.put w) = place.put w := by
  obtain ⟨vs, i, rfl, hi, rfl⟩ | ⟨ms, k, rfl, rfl, rfl⟩ := slot?_cases h <;> rfl

/-- Only a null is opened. -/
theorem openFor_of_ne (h : v ≠ .null) (t : Segment φ) : openFor t v = v := by
  cases v with
  | null => exact absurd rfl h
  | bool _ | number _ | string _ | array _ | object _ => rfl

/-- A value from which a segment leads on is not opened. -/
theorem openFor_of_step (h : step v s = some w) (t : Segment φ) : openFor t v = v := by
  refine openFor_of_ne ?_ t
  rintro rfl
  exact absurd h (Option.some_ne_none w).symm

/-- The container that is made for a segment has a slot for it, with a null in it. -/
theorem exists_slot_containerFor (hs : s.isLiteral = true) :
    ∃ place, slot? (containerFor s) s = some place ∧ place.content = .null := by
  cases s with
  | key k => exact ⟨memberSlot [] k, rfl, rfl⟩
  | index i =>
      have hslot : slot? (.array []) (.index i : Segment φ) = some (itemSlot [] i) := rfl
      exact ⟨itemSlot [] i, hslot, content_of_step_eq_none hslot rfl⟩
  | wildcard | slice _ _ | filter _ | descendant _ => exact Bool.noConfusion hs

/-- Where a value has a slot, a write goes on in it. -/
theorem writeAt_of_slot (h : slot? (openFor s v) s = some place) (new : Value)
    (path : Segments φ) :
    writeAt new (s :: path) v = (writeAt new path place.content).within place.put := by
  rw [writeAt_cons, h]

/-- What is written below a slot that has been filled is put in the slot. -/
theorem writeAt_put (h : slot? v s = some place) (new : Value) (path : Segments φ) (w : Value) :
    writeAt new (s :: path) (place.put w) = (writeAt new path w).within place.put := by
  rw [writeAt_cons, openFor_put h, slot?_put h]

/-- A write that succeeds has found a slot. -/
theorem exists_slot_of_fault_eq_none {new : Value} {path : Segments φ}
    (h : (writeAt new (s :: path) v).fault = none) :
    ∃ place, slot? (openFor s v) s = some place ∧ (writeAt new path place.content).fault = none ∧
      (writeAt new (s :: path) v).document = place.put (writeAt new path place.content).document := by
  rw [writeAt_cons] at h ⊢
  cases hslot : slot? (openFor s v) s with
  | none =>
      rw [hslot] at h
      exact absurd h (Option.some_ne_none _)
  | some place =>
      rw [hslot] at h
      exact ⟨place, rfl, h, rfl⟩

end Slots

/-! ### The lens -/

/-- Whether a write fails, and why, does not depend on what is written. -/
theorem fault_writeAt (v w : Value) (p : Segments φ) (d : Value) :
    (writeAt v p d).fault = (writeAt w p d).fault := by
  induction p generalizing d with
  | nil => rfl
  | cons s p ih =>
      rw [writeAt_cons, writeAt_cons]
      cases slot? (openFor s d) s with
      | none => rfl
      | some place => exact ih place.content

/-- What has been written is found. -/
theorem locate_writeAt {v : Value} {p : Segments φ} {d : Value}
    (h : (writeAt v p d).fault = none) : locate (writeAt v p d).document p = some v := by
  induction p generalizing d with
  | nil => rfl
  | cons s p ih =>
      obtain ⟨place, hslot, hfault, hdoc⟩ := exists_slot_of_fault_eq_none h
      rw [hdoc, locate, step_put hslot, Option.bind_some]
      exact ih hfault

/-- A later write at the same path wins. -/
theorem writeAt_writeAt {v : Value} (w : Value) {p : Segments φ} {d : Value}
    (h : (writeAt v p d).fault = none) : writeAt w p (writeAt v p d).document = writeAt w p d := by
  induction p generalizing d with
  | nil => rfl
  | cons s p ih =>
      obtain ⟨place, hslot, hfault, hdoc⟩ := exists_slot_of_fault_eq_none h
      rw [hdoc, writeAt_put hslot, ih hfault, writeAt_of_slot hslot]

/-- Writing what is found changes nothing. -/
theorem writeAt_of_locate {v : Value} {p : Segments φ} {d : Value} (h : locate d p = some v) :
    writeAt v p d = { document := d, fault := none } := by
  induction p generalizing d with
  | nil =>
      obtain rfl : d = v := Option.some.inj h
      rfl
  | cons s p ih =>
      obtain ⟨child, hstep, hchild⟩ := Option.bind_eq_some_iff.mp h
      obtain ⟨place, hslot, rfl, hput⟩ := exists_slot_of_step hstep
      rw [← openFor_of_step hstep s] at hslot
      rw [writeAt_of_slot hslot, ih hchild, Written.within, hput]

/-- A path that leads to a value has literal segments only. -/
theorem isLiteral_of_locate {v : Value} {p : Path} {d : Value} (h : locate d p = some v) :
    p.isLiteral = true := by
  induction p generalizing d with
  | nil => rfl
  | cons s p ih =>
      obtain ⟨child, hstep, hchild⟩ := Option.bind_eq_some_iff.mp h
      rw [Path.isLiteral, List.all_cons, Bool.and_eq_true]
      exact ⟨isLiteral_of_step hstep, ih hchild⟩

/-- A path has literal segments only if there is no other one to find. -/
theorem isLiteral_iff_find? {p : Path} :
    p.isLiteral = true ↔ p.find? (!·.isLiteral) = none := by
  simp [Path.isLiteral]

/-- A write at a path of literal segments. -/
theorem write_eq_writeAt {p : Path} (hp : p.isLiteral = true) (v d : Value) :
    p.write v d = ((writeAt v p d).document, (writeAt v p d).fault.map (·.error p)) := by
  rw [Path.write, isLiteral_iff_find?.mp hp]

/-- A write succeeds at a path of literal segments where it meets no fault. -/
theorem write_eq_none_iff {p : Path} {v d d' : Value} :
    p.write v d = (d', none) ↔
      p.isLiteral = true ∧ (writeAt v p d).fault = none ∧ (writeAt v p d).document = d' := by
  rw [isLiteral_iff_find?, Path.write]
  cases p.find? (!·.isLiteral) with
  | none => simp [and_comm]
  | some s => simp

/-- **Writing and looking up at a path are a lens.** What has been written is found, and writing
again at the path is as if the first write had not been; whether a write succeeds does not depend
on what is written; and writing what is found succeeds and changes nothing. -/
theorem write_lens (p : Path) (d v w : Value) :
    (∀ d', p.write v d = (d', none) → locate d' p = some v ∧ p.write w d' = p.write w d) ∧
      ((p.write v d).2 = none ↔ (p.write w d).2 = none) ∧
      (locate d p = some v → p.write v d = (d, none)) := by
  refine ⟨?found, ?succeeds, ?unchanged⟩
  case found =>
    intro d' h
    obtain ⟨hp, hfault, rfl⟩ := write_eq_none_iff.mp h
    refine ⟨locate_writeAt hfault, ?_⟩
    rw [write_eq_writeAt hp, write_eq_writeAt hp, writeAt_writeAt w hfault]
  case succeeds =>
    have hiff : ∀ v, (p.write v d).2 = none ↔ p.isLiteral = true ∧ (writeAt v p d).fault = none :=
      fun v => ⟨fun h => (write_eq_none_iff.mp (Prod.ext rfl h)).imp_right And.left,
        fun h => congrArg Prod.snd (write_eq_none_iff.mpr ⟨h.1, h.2, rfl⟩)⟩
    rw [hiff v, hiff w, fault_writeAt v w]
  case unchanged =>
    intro h
    rw [write_eq_none_iff, writeAt_of_locate h]
    exact ⟨isLiteral_of_locate h, rfl, rfl⟩

/-- A list with a null, in an object that has a text behind it. -/
def sparseList : Value := .object [("list", .array [.null, .int 1]), ("note", .string "x")]

/-- Into the null, which a numeral names, and there behind the end of a new list. -/
def pathIntoNull : Path := [.key "list", .key "0", .key "deep", .index 1]

/-- The list with a value at the end of that path. -/
def filledList : Value :=
  .object [("list", .array [.object [("deep", .array [.null, .int 7])], .int 1]),
    ("note", .string "x")]

/-- The laws of the lens at a path that opens a null and makes a list in it. -/
theorem write_lens_sparseList :
    pathIntoNull.write (.int 7) sparseList = (filledList, none) ∧
      locate filledList pathIntoNull = some (.int 7) ∧
      pathIntoNull.write .null filledList = pathIntoNull.write .null sparseList ∧
      pathIntoNull.write (.int 7) filledList = (filledList, none) := by
  have hwrite : pathIntoNull.write (.int 7) sparseList = (filledList, none) := rfl
  obtain ⟨hfound, hagain⟩ := (write_lens pathIntoNull sparseList (.int 7) .null).1 _ hwrite
  have hsame := (write_lens pathIntoNull filledList (.int 7) .null).2.2 hfound
  exact ⟨hwrite, hfound, hagain, hsame⟩

/-! ### Failed writes -/

/-- A write into a null succeeds: every container on the way is made for its segment. -/
theorem fault_writeAt_null (v : Value) {p : Segments φ} (hp : p.all Segment.isLiteral = true) :
    (writeAt v p .null).fault = none := by
  induction p with
  | nil => rfl
  | cons s p ih =>
      rw [List.all_cons, Bool.and_eq_true] at hp
      obtain ⟨place, hslot, hnull⟩ := exists_slot_containerFor hp.1
      rw [writeAt_of_slot (v := .null) hslot, hnull]
      exact ih hp.2

/-- A write that fails has made nothing. -/
theorem document_of_fault {v : Value} {p : Segments φ} (hp : p.all Segment.isLiteral = true)
    {d : Value} {f : WriteFault} (h : (writeAt v p d).fault = some f) :
    (writeAt v p d).document = d := by
  induction p generalizing d with
  | nil => exact absurd h (Option.some_ne_none f).symm
  | cons s p ih =>
      have hnull : d ≠ .null := by
        rintro rfl
        rw [fault_writeAt_null v hp] at h
        exact absurd h (Option.some_ne_none f).symm
      rw [List.all_cons, Bool.and_eq_true] at hp
      rw [writeAt_cons, openFor_of_ne hnull] at h ⊢
      cases hslot : slot? d s with
      | none => rfl
      | some place =>
          rw [hslot] at h
          replace h : (writeAt v p place.content).fault = some f := h
          -- the slot was there before, as a write into an empty one does not fail
          cases hstep : step d s with
          | none =>
              rw [content_of_step_eq_none hslot hstep] at h
              exact absurd (h.symm.trans (fault_writeAt_null v hp.2)) (Option.some_ne_none f)
          | some child =>
              obtain ⟨rfl, hput⟩ := content_of_step hslot hstep
              exact (congrArg place.put (ih hp.2 h)).trans hput

/-- **A failed write leaves the document as it was**, whatever its path is. -/
theorem write_atomic {p : Path} {v d d' : Value} {e : Error} (h : p.write v d = (d', some e)) :
    d' = d := by
  rw [Path.write] at h
  cases hfind : p.find? (!·.isLiteral) with
  | some s =>
      rw [hfind] at h
      exact (Prod.mk.inj h).1.symm
  | none =>
      rw [hfind] at h
      obtain ⟨rfl, herror⟩ := Prod.mk.inj h
      obtain ⟨f, hf, -⟩ := Option.map_eq_some_iff.mp herror
      exact document_of_fault (isLiteral_iff_find?.mpr hfind) hf

/-- Into the text behind the list, as if it were a list. -/
def pathIntoText : Path := [.key "note", .index 2, .key "deep"]

/-- A write that meets a text on its way changes nothing. -/
theorem write_atomic_pathIntoText :
    (pathIntoText.write .null sparseList).2 =
        some (.mismatch (.onTheWay "$.note[2].deep" .string)) ∧
      (pathIntoText.write .null sparseList).1 = sparseList := by
  have herror : (pathIntoText.write .null sparseList).2 =
      some (.mismatch (.onTheWay "$.note[2].deep" .string)) := rfl
  exact ⟨herror, write_atomic (Prod.ext rfl herror)⟩

end JsonWorkbench
