import JsonWorkbench.Proofs.Write
import JsonWorkbench.Query

/-!
# All Walks Find the Same Place

Four walks follow the segments of a path: the look-up, the query, the change of a value that is
there, and the write, which makes what is missing. Each reads a segment in its own way, and each
must take a numeral for an index at the same arrays as the others. They do: a change goes through
the slot of a segment, as a write does, but only where the segment leads to something. Where the
look-up finds a value, the change is made on that value, a replacement is a write, and the query
of a literal path selects it; where it finds none, there is nothing to change or to select.

## Main results

* `modifyAt_cons` — what a change does at a segment.
* `walks_agree` — look-up, query, change and write find the same place.
-/

namespace JsonWorkbench

variable {φ : Type}

/-! ### Changes -/

/-- A change of an item is put in the slot of its index. -/
theorem modifyAt_index (f : Value → Option Value) (i : Nat) (path : Segments φ)
    (vs : List Value) :
    modifyAt f (.index i :: path) (.array vs) =
      vs[i]?.bind fun child => (modifyAt f path child).map (itemSlot vs i).put := by
  rw [modifyAt]
  rcases hget : vs[i]? with - | child
  · rfl
  · obtain ⟨hlt, -⟩ := List.getElem?_eq_some_iff.mp hget
    simp only [itemSlot, padTo_of_le (Nat.succ_le_of_lt hlt), Option.bind_some]

/-- A numeral is an index for a change, too. -/
theorem modifyAt_array (f : Value → Option Value) (s : Segment φ) (path : Segments φ)
    (vs : List Value) :
    modifyAt f (s :: path) (.array vs) =
      (arrayIndex? s).bind fun i => modifyAt f (.index i :: path) (.array vs) := by
  cases s with
  | index i => rfl
  | key k =>
      rw [modifyAt, arrayIndex?]
      cases keyIndex? k <;> rfl
  | wildcard | slice _ _ | filter _ | descendant _ => rfl

/-- **One segment of a change**: what the segment leads to is changed and put in its slot. -/
theorem modifyAt_cons (f : Value → Option Value) (s : Segment φ) (path : Segments φ) (v : Value) :
    modifyAt f (s :: path) v =
      (slot? v s).bind fun place =>
        (step v s).bind fun child => (modifyAt f path child).map place.put := by
  cases v with
  | array vs =>
      rw [modifyAt_array, slot?, step_array]
      rcases arrayIndex? s with - | i
      · rfl
      · exact modifyAt_index f i path vs
  | object ms =>
      cases s with
      | key k =>
          rw [modifyAt, slot?, step]
          rcases Members.get? ms k with - | child <;> rfl
      | index _ | wildcard | slice _ _ | filter _ | descendant _ => rfl
  | null | bool _ | number _ | string _ => cases s <;> rfl

/-- Where a segment leads nowhere, there is nothing to change. -/
theorem modifyAt_of_step_eq_none {s : Segment φ} {v : Value} (h : step v s = none)
    (f : Value → Option Value) (path : Segments φ) : modifyAt f (s :: path) v = none := by
  rw [modifyAt_cons, h]
  cases slot? v s <;> rfl

/-- A change below a segment is put in its slot. -/
theorem modifyAt_of_step {s : Segment φ} {v child : Value} {place : Slot}
    (hslot : slot? v s = some place) (hstep : step v s = some child) (f : Value → Option Value)
    (path : Segments φ) : modifyAt f (s :: path) v = (modifyAt f path child).map place.put := by
  rw [modifyAt_cons, hslot, hstep, Option.bind_some, Option.bind_some]

/-- **A change is made on the value that is found**, and the result replaces it. -/
theorem modifyAt_eq (f : Value → Option Value) (p : Segments φ) (d : Value) :
    modifyAt f p d = (locate d p).bind fun x => (f x).bind (replaceAt p d) := by
  induction p generalizing d with
  | nil => exact (Option.bind_fun_some (f d)).symm
  | cons s p ih =>
      cases hstep : step d s with
      | none =>
          rw [modifyAt_of_step_eq_none hstep, locate, hstep, Option.bind_none, Option.bind_none]
      | some child =>
          obtain ⟨place, hslot, -, -⟩ := exists_slot_of_step hstep
          have hreplace : replaceAt (s :: p) d = fun w => (replaceAt p child w).map place.put :=
            funext fun w => modifyAt_of_step hslot hstep _ p
          rw [modifyAt_of_step hslot hstep, ih, locate, hstep, Option.bind_some, hreplace]
          simp only [Option.map_bind, Function.comp_def]

/-- There is a value to replace where one is found, and replacing it is writing. -/
theorem replaceAt_eq (p : Segments φ) (d v : Value) :
    replaceAt p d v = (locate d p).map fun _ => (writeAt v p d).document := by
  induction p generalizing d with
  | nil => rfl
  | cons s p ih =>
      cases hstep : step d s with
      | none => rw [replaceAt, modifyAt_of_step_eq_none hstep, locate, hstep]; rfl
      | some child =>
          obtain ⟨place, hslot, rfl, -⟩ := exists_slot_of_step hstep
          have hopen : slot? (openFor s d) s = some place := by rw [openFor_of_step hstep, hslot]
          have hreplace : replaceAt (s :: p) d v = (replaceAt p place.content v).map place.put :=
            modifyAt_of_step hslot hstep _ p
          rw [hreplace, ih, locate, hstep, Option.bind_some, Option.map_map,
            writeAt_of_slot hopen]
          rfl

/-- A write meets no fault where a value is found. -/
theorem fault_writeAt_of_locate {p : Segments φ} {d x : Value} (h : locate d p = some x)
    (v : Value) : (writeAt v p d).fault = none := by
  rw [fault_writeAt v x, writeAt_of_locate h]

/-! ### Queries -/

/-- A path of literal segments selects what it leads to. -/
theorem query_eq_locate {p : Path} (hp : p.isLiteral = true) (d : Value) :
    query p d = locate d p := by
  induction p generalizing d with
  | nil => rfl
  | cons s p ih =>
      rw [Path.isLiteral, List.all_cons, Bool.and_eq_true] at hp
      have hquery : query (s :: p) d = (step d s).bind (query p) := by
        cases s with
        | key _ | index _ => rfl
        | wildcard | slice _ _ | filter _ | descendant _ => exact Bool.noConfusion hp.1
      rw [hquery, locate]
      congr 1
      funext child
      exact ih hp.2 child

/-- A path of literal segments does not slice, filter or descend. -/
theorem isAdvanced_eq_false {p : Path} (hp : p.isLiteral = true) : p.isAdvanced = false := by
  rw [Path.isAdvanced, List.any_eq_false]
  intro s hs
  have hliteral := List.all_eq_true.mp hp s hs
  cases s with
  | key _ | index _ => exact Bool.false_ne_true
  | wildcard | slice _ _ | filter _ | descendant _ => exact Bool.noConfusion hliteral

/-! ### Documents -/

/-- **Look-up, change, query and write find the same place.** Whatever a change is, it is made on
the value that the look-up finds, and there is one to replace exactly where the look-up finds one.
At a path of literal segments, both queries select what the look-up finds, and replacing it is
writing. -/
theorem walks_agree (p : Path) (d : Value) :
    (∀ f, modifyAt f p d = (locate d p).bind fun x => (f x).bind (replaceAt p d)) ∧
      (∀ v, (replaceAt p d v).isSome = (locate d p).isSome) ∧
      (p.isLiteral = true →
        query p d = locate d p ∧ querySimple p d = .ok (locate d p) ∧
          ∀ v d', replaceAt p d v = some d' → p.write v d = (d', none)) := by
  refine ⟨fun f => modifyAt_eq f p d, fun v => ?_, fun hp => ⟨query_eq_locate hp d, ?_, ?_⟩⟩
  · rw [replaceAt_eq, Option.isSome_map]
  · rw [querySimple, isAdvanced_eq_false hp, query_eq_locate hp]
    rfl
  · intro v d' h
    rw [replaceAt_eq, Option.map_eq_some_iff] at h
    obtain ⟨x, hx, rfl⟩ := h
    exact write_eq_none_iff.mpr ⟨hp, fault_writeAt_of_locate hx v, rfl⟩

/-- To the second item of the list, by way of a numeral. -/
def pathToItem : Path := [.key "list", .key "1"]

/-- All walks find the item that a numeral names. -/
theorem walks_agree_pathToItem :
    pathToItem.isLiteral = true ∧
      query pathToItem sparseList = some (.int 1) ∧
      replaceAt pathToItem sparseList .null =
        some (.object [("list", .array [.null, .null]), ("note", .string "x")]) ∧
      pathToItem.write .null sparseList =
        (.object [("list", .array [.null, .null]), ("note", .string "x")], none) := by
  have hp : pathToItem.isLiteral = true := rfl
  have hreplace : replaceAt pathToItem sparseList .null =
      some (.object [("list", .array [.null, .null]), ("note", .string "x")]) := rfl
  obtain ⟨-, -, hliteral⟩ := walks_agree pathToItem sparseList
  obtain ⟨hquery, -, hwrite⟩ := hliteral hp
  exact ⟨hp, hquery, hreplace, hwrite _ _ hreplace⟩

end JsonWorkbench
