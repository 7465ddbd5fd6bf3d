import JsonWorkbench.Transform.Sorting
import Mathlib.Data.List.Basic
import Mathlib.Order.Compare

/-!
# The Laws of Sorting Arrays

Two values are compared by their kinds, then by the numbers that they are or stand for, then by
their texts (`compareValues_eq`). Each of the three is a comparison of natural numbers, integers or
texts, so that the comparison of values is a total preorder, and with it that of items by one of
their fields, in both directions. Doubles are compared by integers (`totalKey`), so that there is
no pair of them that cannot be compared.

What a stable sort is is said without an algorithm: a permutation, in order, in which every class
of items that compare equal stands as it stood before. There is exactly one such list
(`StableSort.unique`).

## Main definitions

* `StableSort` — a list is the stable sort of another one.

## Main results

* `transCmp_compareItems` — the comparison of items is a total preorder.
* `sortItems_stableSort` — sorting by a field gives the stable sort.
-/

namespace JsonWorkbench

/-! ### The order of fields -/

section Comparisons

variable {α β : Type} {cmp : α → α → Ordering}

/-- What a function gives can be compared instead of what it is given. -/
theorem transCmp_comap (h : Std.TransCmp cmp) (f : β → α) :
    Std.TransCmp fun a b => cmp (f a) (f b) where
  eq_swap := Std.OrientedCmp.eq_swap
  isLE_trans := Std.TransCmp.isLE_trans

/-- The greatest can come first. -/
theorem transCmp_swap (h : Std.TransCmp cmp) : Std.TransCmp fun a b => (cmp a b).swap := by
  have hswap : (fun a b => (cmp a b).swap) = fun a b => cmp b a := by
    funext a b
    exact Std.OrientedCmp.eq_swap.symm
  rw [hswap]
  exact Std.TransCmp.opposite

end Comparisons

namespace Value

/-- The number by which a value is ordered among those of its kind. -/
def amount : Value → Int
  | .bool b => b.toNat
  | .number n => totalKey n.toFloat
  | _ => 0

/-- The text by which a value is ordered among those of its kind. -/
def wording : Value → String
  | .string s => s
  | _ => ""

/-- The order of values: by kind, then by number, then by text. -/
def order : Value → Value → Ordering :=
  compareLex (compareOn (·.kind.rank)) (compareLex (compareOn amount) (compareOn wording))

/-- The order of values is a total preorder. -/
theorem transCmp_order : Std.TransCmp order := by
  unfold order
  infer_instance

end Value

/-- Fields are in the order of values, where a missing one is null. -/
theorem compareValues_eq (left right : Option Value) :
    compareValues left right = (left.getD .null).order (right.getD .null) := by
  unfold compareValues
  generalize left.getD .null = v
  generalize right.getD .null = w
  cases v with
  | bool a =>
      cases w with
      | bool b => cases a <;> cases b <;> rfl
      | null | number _ | string _ | array _ | object _ => rfl
  | number m =>
      cases w with
      | number n =>
          have hthen : (Value.number m).order (.number n) =
              (compare (totalKey m.toFloat) (totalKey n.toFloat)).then .eq := rfl
          rw [hthen, Ordering.then_eq]
      | null | bool _ | string _ | array _ | object _ => rfl
  | string s =>
      cases w with
      | string t => rfl
      | null | bool _ | number _ | array _ | object _ => rfl
  | null | array _ | object _ => cases w <;> rfl

/-- The comparison of fields, as values or as numbers, is a total preorder. -/
theorem transCmp_fields (numeric : Bool) : Std.TransCmp fun left right : Option Value =>
    if numeric then compare (totalKey (numericKey left)) (totalKey (numericKey right))
    else compareValues left right := by
  cases numeric with
  | true => exact transCmp_comap (inferInstance : Std.TransOrd Int) fun field =>
      totalKey (numericKey field)
  | false =>
      simp only [compareValues_eq]
      exact transCmp_comap Value.transCmp_order fun field : Option Value => field.getD .null

/-- **The comparison of items is a total preorder**, whatever the field is and in both
directions. -/
theorem transCmp_compareItems (o : SortOptions) (field : Path) :
    Std.TransCmp (compareItems o field) := by
  have hfields := transCmp_comap (transCmp_fields o.numeric) fun item : Value => locate item field
  unfold compareItems
  cases o.descending with
  | true => exact transCmp_swap hfields
  | false => exact hfields

/-! ### Stable sorts -/

section Stable

variable {α : Type} {cmp : α → α → Ordering} {items sorted other : List α}

/-- A list is the stable sort of another one by a comparison. -/
structure StableSort (cmp : α → α → Ordering) (items sorted : List α) : Prop where
  /-- It has the same items. -/
  perm : sorted.Perm items
  /-- None is greater than one behind it. -/
  ordered : sorted.Pairwise fun a b => (cmp a b).isLE = true
  /-- Items that compare equal stand as they stood before. -/
  stable : ∀ a, sorted.filter (cmp a · == .eq) = items.filter (cmp a · == .eq)

/-- Of two lists in order that have the same items, and the same list of those that compare equal
with any one, there is only one. -/
theorem eq_of_ordered [Std.TransCmp cmp] (hperm : sorted.Perm other)
    (hsorted : sorted.Pairwise fun a b => (cmp a b).isLE = true)
    (hother : other.Pairwise fun a b => (cmp a b).isLE = true)
    (hclass : ∀ a, sorted.filter (cmp a · == .eq) = other.filter (cmp a · == .eq)) :
    sorted = other := by
  induction sorted generalizing other with
  | nil => exact hperm.nil_eq
  | cons a sorted ih =>
      obtain ⟨b, others, rfl⟩ := List.exists_cons_of_ne_nil (l := other) fun hnil =>
        List.cons_ne_nil a sorted (hnil ▸ hperm).eq_nil
      -- Each of the two first items is among the other ones, so that they compare equal.
      have hab : cmp a b = .eq := by
        rcases List.mem_cons.mp (hperm.subset (List.mem_cons_self ..)) with rfl | hmem
        · exact Std.ReflCmp.compare_self
        · rcases List.mem_cons.mp (hperm.symm.subset (List.mem_cons_self ..)) with rfl | hmem'
          · exact Std.ReflCmp.compare_self
          · exact Std.OrientedCmp.isLE_antisymm (List.rel_of_pairwise_cons hsorted hmem')
              (List.rel_of_pairwise_cons hother hmem)
      have hself : ∀ c, cmp c c = .eq := fun c => Std.ReflCmp.compare_self
      have hfirst := hclass a
      rw [List.filter_cons_of_pos (by simp [hself]),
        List.filter_cons_of_pos (by simp [hab])] at hfirst
      obtain ⟨rfl, -⟩ := List.cons.inj hfirst
      refine congrArg _ (ih hperm.cons_inv hsorted.of_cons hother.of_cons fun c => ?_)
      have hc := hclass c
      cases hca : cmp c a == .eq with
      | true => simpa [List.filter_cons, hca] using hc
      | false => simpa [List.filter_cons, hca] using hc

/-- There is only one stable sort. -/
theorem StableSort.unique [Std.TransCmp cmp] (h : StableSort cmp items sorted)
    (h' : StableSort cmp items other) : sorted = other :=
  eq_of_ordered (h.perm.trans h'.perm.symm) h.ordered h'.ordered fun a =>
    (h.stable a).trans (h'.stable a).symm

/-- Sorting by merging gives the stable sort. -/
theorem stableSort_mergeSort (cmp : α → α → Ordering) [Std.TransCmp cmp] (items : List α) :
    StableSort cmp items (items.mergeSort fun a b => cmp a b != .gt) := by
  have hle : (fun a b => cmp a b != .gt) = fun a b => (cmp a b).isLE := by
    funext a b
    cases cmp a b <;> rfl
  have htrans : ∀ a b c, (cmp a b).isLE = true → (cmp b c).isLE = true → (cmp a c).isLE = true :=
    fun _ _ _ => Std.TransCmp.isLE_trans
  have htotal : ∀ a b, ((cmp a b).isLE || (cmp b a).isLE) = true := fun a b => by
    rw [@Std.OrientedCmp.eq_swap _ cmp _ a b]
    cases cmp b a <;> rfl
  rw [hle]
  have hperm := List.mergeSort_perm items fun a b => (cmp a b).isLE
  refine ⟨hperm, List.pairwise_mergeSort htrans htotal items, fun a => ?_⟩
  -- The items of a class are in order as they stand, so that the sort keeps them as they stand.
  have hclass : (items.filter (cmp a · == .eq)).Pairwise fun b c => (cmp b c).isLE = true := by
    refine List.pairwise_of_forall_mem_list fun b hb c hc => ?_
    have hab : cmp b a = .eq := Std.OrientedCmp.eq_symm (by simpa using (List.mem_filter.mp hb).2)
    have hac : cmp a c = .eq := by simpa using (List.mem_filter.mp hc).2
    exact htrans b a c (by rw [hab]; rfl) (by rw [hac]; rfl)
  have hsub := (List.sublist_mergeSort htrans htotal hclass List.filter_sublist).filter
    (cmp a · == .eq)
  rw [List.filter_filter] at hsub
  simp only [Bool.and_self] at hsub
  exact (hsub.eq_of_length (hperm.filter _).length_eq.symm).symm

end Stable

/-! ### Sorting items -/

/-- **Sorting by a field gives the stable sort.** The comparison of items by a field that can be
read is a total preorder, whatever kinds of values the field has and where it is missing; and the
items are permuted into its order, those that compare equal staying in theirs. No other list is
such a permutation. -/
theorem sortItems_stableSort (o : SortOptions) {field : String} {path : Path}
    (hfield : fieldPath field = .ok path) :
    (∀ a b, compareItems o path a b = (compareItems o path b a).swap) ∧
      (∀ a b, (compareItems o path a b).isLE = true ∨ (compareItems o path b a).isLE = true) ∧
      (∀ a b c, (compareItems o path a b).isLE = true → (compareItems o path b c).isLE = true →
        (compareItems o path a c).isLE = true) ∧
      ∀ items, ∃ sorted, sortItems o field items = .ok sorted ∧
        ∀ other, StableSort (compareItems o path) items other ↔ other = sorted := by
  have hcmp : Std.TransCmp (compareItems o path) := transCmp_compareItems o path
  have hswap : ∀ a b, compareItems o path a b = (compareItems o path b a).swap :=
    fun _ _ => Std.OrientedCmp.eq_swap
  refine ⟨hswap, fun a b => ?_, fun _ _ _ => Std.TransCmp.isLE_trans, fun items => ?_⟩
  · rw [hswap a b]
    cases compareItems o path b a with
    | lt | eq => exact .inr rfl
    | gt => exact .inl rfl
  · have hsort := stableSort_mergeSort (compareItems o path) items
    refine ⟨_, by rw [sortItems, hfield]; rfl, fun other => ⟨fun h => h.unique hsort, ?_⟩⟩
    rintro rfl
    exact hsort

/-- Items whose field is a number twice, a text, a truth value, and missing. -/
def unevenItems : List Value :=
  [.object [("age", .int 7), ("id", .int 1)], .object [("age", .string "7")],
    .object [("age", .number (.double 7.0)), ("id", .int 2)], .null, .object [("age", .bool true)]]

/-- Items of all kinds are sorted, the greatest first; of the two equal numbers the first stays in
front. -/
theorem sortItems_stableSort_unevenItems :
    fieldPath " $.age" = .ok [.key "age"] ∧ ∃ sorted,
      sortItems { descending := true } " $.age" unevenItems = .ok sorted ∧
        ∀ other, StableSort (compareItems { descending := true } [.key "age"]) unevenItems other ↔
          other = sorted := by
  have hfield : fieldPath " $.age" = .ok [.key "age"] := by rfl
  exact ⟨hfield, (sortItems_stableSort { descending := true } hfield).2.2.2 unevenItems⟩

end JsonWorkbench
