import JsonWorkbench.Proofs.Keyed
import JsonWorkbench.Proofs.Value
import JsonWorkbench.Value.Equality

/-!
# The Laws of Equality as Data

Equality as data holds between two arrays if it holds item by item, and between two objects if
they have equally many members and each member of the one has an equal one under its key in the
other. Well-formed values are equal to themselves; a double that is no number would not be.

## Main results

* `Value.looseEq_array_iff`, `Value.looseEq_object_iff` — equality of containers by their parts.
* `Value.looseEq_self` — a well-formed value is equal to itself.
* `Number.looseEq_comm`, `Value.looseEq_comm_scalar` — equality of numbers and of scalars is
  symmetric.
-/

namespace JsonWorkbench

/-! ### Numbers -/

open Float.Model in
/-- A finite double is equal to itself as it is unpacked. -/
theorem unpacked_beq_self {u : UnpackedFloat} (h : u.isFinite = true) : u.beq u = true := by
  cases u with
  | infinity s => exact absurd h Bool.false_ne_true
  | notANumber => exact absurd h Bool.false_ne_true
  | zero s => rfl
  | finite s m e hm =>
      have horder : (compare e e).then (compare m m) = .eq := by simp
      cases s with
      | negative => exact congrArg (fun o => some o.swap == some .eq) horder
      | positive => exact congrArg (fun o => some o == some .eq) horder

/-- A finite double is equal to itself. -/
theorem float_beq_self {x : Float} (h : x.isFinite = true) : (x == x) = true :=
  unpacked_beq_self h

open Float.Model in
/-- Comparing two doubles as they are unpacked the other way round swaps the answer. -/
theorem unpacked_compare_swap (u v : UnpackedFloat) :
    u.compare v = (v.compare u).map Ordering.swap := by
  have hfinite (m n : Nat) (e f : Int) :
      (compare e f).then (compare m n) = ((compare f e).then (compare n m)).swap := by
    rw [Ordering.swap_then, Int.compare_swap, Nat.compare_swap]
  cases u with
  | notANumber => cases v <;> rfl
  | infinity s =>
      cases v with
      | notANumber => rfl
      | infinity t | zero t | finite t => cases s <;> cases t <;> rfl
  | zero s =>
      cases v with
      | notANumber => rfl
      | infinity t | zero t | finite t => cases t <;> rfl
  | finite s m e hm =>
      cases v with
      | notANumber => rfl
      | infinity t | zero t => cases s <;> cases t <;> rfl
      | finite t n f hn =>
          cases s <;> cases t
          · exact congrArg (fun o => some o.swap) (hfinite m n e f)
          · rfl
          · rfl
          · exact congrArg some (hfinite m n e f)

/-- Equality of doubles is symmetric. -/
theorem float_beq_comm (x y : Float) : (x == y) = (y == x) := by
  have hbeq (x y : Float) :
      (x == y) = (x.toModel.unpack.compare y.toModel.unpack == some .eq) := rfl
  rw [hbeq, hbeq, unpacked_compare_swap x.toModel.unpack]
  cases y.toModel.unpack.compare x.toModel.unpack with
  | none => rfl
  | some o => cases o <;> rfl

/-- Equality of what two numbers denote is symmetric. -/
theorem Number.looseEq_comm (a b : Number) : a.looseEq b = b.looseEq a := by
  cases a with
  | integer m =>
      cases b with
      | integer n => exact BEq.comm
      | double y => exact float_beq_comm _ _
  | double x => cases b <;> exact float_beq_comm _ _

/-- A number that can be represented is equal to itself. -/
theorem Number.looseEq_self {n : Number} (h : n.WellFormed) : n.looseEq n = true := by
  cases n with
  | integer n => simp [Number.looseEq]
  | double x => exact float_beq_self h

namespace Value

/-! ### Containers -/

/-- Items are equal position by position. -/
theorem looseEqItems_iff {vs ws : List Value} :
    looseEqItems vs ws = true ↔ List.Forall₂ (fun v w => v.looseEq w = true) vs ws := by
  induction vs generalizing ws with
  | nil => cases ws <;> simp [looseEqItems]
  | cons v vs ih =>
      cases ws with
      | nil => simp [looseEqItems]
      | cons w ws => simp [looseEqItems, ih]

/-- Members are equal to those under the same keys. -/
theorem looseEqMembers_iff {ms ns : Members} :
    looseEqMembers ms ns = true ↔
      ∀ k v, (k, v) ∈ ms → ∃ w, Members.get? ns k = some w ∧ v.looseEq w = true := by
  induction ms with
  | nil => simp [looseEqMembers]
  | cons m ms ih =>
      obtain ⟨k, v⟩ := m
      rcases hget : Members.get? ns k with - | u
      · simp only [looseEqMembers, hget, Bool.false_and]
        refine iff_of_false Bool.false_ne_true fun h => ?_
        obtain ⟨w, hw, -⟩ := h k v (List.mem_cons_self ..)
        exact Option.some_ne_none w (hw.symm.trans hget)
      · simp only [looseEqMembers, hget, Bool.and_eq_true, ih, List.mem_cons, Prod.mk.injEq]
        constructor
        · rintro ⟨hv, hms⟩ k' v' (⟨rfl, rfl⟩ | hm)
          · exact ⟨u, hget, hv⟩
          · exact hms k' v' hm
        · intro h
          obtain ⟨w, hw, hvw⟩ := h k v (.inl ⟨rfl, rfl⟩)
          obtain rfl : u = w := Option.some.inj (hget.symm.trans hw)
          exact ⟨hvw, fun k' v' hm => h k' v' (.inr hm)⟩

/-- Arrays are equal if they are so position by position. -/
theorem looseEq_array_iff {vs ws : List Value} :
    (Value.array vs).looseEq (.array ws) = true ↔
      List.Forall₂ (fun v w => v.looseEq w = true) vs ws := by
  rw [looseEq, looseEqItems_iff]

/-- Objects are equal if they have equally many members and these are so key by key. -/
theorem looseEq_object_iff {ms ns : Members} :
    (Value.object ms).looseEq (.object ns) = true ↔ ms.length = ns.length ∧
      ∀ k v, (k, v) ∈ ms → ∃ w, Members.get? ns k = some w ∧ v.looseEq w = true := by
  rw [looseEq, Bool.and_eq_true, beq_iff_eq, looseEqMembers_iff]

/-- Only values of one kind are equal. -/
theorem kind_eq_of_looseEq {v w : Value} (h : v.looseEq w = true) : v.kind = w.kind := by
  cases v <;> cases w <;> first | rfl | exact absurd h Bool.false_ne_true

/-- Equality of a scalar with another value is symmetric. -/
theorem looseEq_comm_scalar {v : Value} (hv : v.isContainer = false) (w : Value) :
    v.looseEq w = w.looseEq v := by
  cases v with
  | null => cases w <;> rfl
  | bool a =>
      cases w with
      | bool b => exact BEq.comm
      | null | number | string | array | object => rfl
  | number a =>
      cases w with
      | number b => exact Number.looseEq_comm a b
      | null | bool | string | array | object => rfl
  | string a =>
      cases w with
      | string b => exact BEq.comm
      | null | bool | number | array | object => rfl
  | array _ | object _ => exact Bool.noConfusion hv

/-- **A well-formed value is equal to itself.** -/
theorem looseEq_self {v : Value} (hv : v.WellFormed) : v.looseEq v = true := by
  induction v using Value.induct with
  | null => rfl
  | bool b => simp [looseEq]
  | number n => exact Number.looseEq_self hv
  | string s => simp [looseEq]
  | array vs ih =>
      rw [wellFormed_array_iff] at hv
      rw [looseEq_array_iff, List.forall₂_same]
      exact fun v hm => ih v hm (hv.2 v hm)
  | object ms ih =>
      rw [wellFormed_object_iff] at hv
      rw [looseEq_object_iff]
      exact ⟨rfl, fun k v hm => ⟨v, Keyed.get?_of_mem hv.1 hm, ih k v hm (hv.2 k v hm)⟩⟩

end Value

end JsonWorkbench
