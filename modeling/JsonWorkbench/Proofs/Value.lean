import JsonWorkbench.Proofs.Keyed
import JsonWorkbench.Value.Basic

/-!
# Induction on Values

The walks over values recurse through lists of items and lists of members. For a proof it is
enough to know a statement for the items and for the values of the members; `Value.induct` says
so once, and the properties that are defined by such walks are restated for single items and
members.

## Main results

* `Value.induct` — induction on values.
* `Value.wellFormed_array_iff`, `Value.wellFormed_object_iff` — the parts of a well-formed value.
* `Value.KeysSatisfy` — a property of all keys, with its parts.
* `Value.NumbersSatisfy` — a property of all numbers, with its parts.
* `Value.IsIntegral` — all numbers are integers, with its parts.
-/

namespace JsonWorkbench

namespace Value

/-- **Induction on values**: a container inherits a property from the values directly in it. -/
@[elab_as_elim]
theorem induct {motive : Value → Prop} (null : motive .null) (bool : ∀ b, motive (.bool b))
    (number : ∀ n, motive (.number n)) (string : ∀ s, motive (.string s))
    (array : ∀ vs, (∀ v ∈ vs, motive v) → motive (.array vs))
    (object : ∀ ms : Members, (∀ k v, (k, v) ∈ ms → motive v) → motive (.object ms))
    (v : Value) : motive v :=
  @Value.rec motive (fun vs => ∀ v ∈ vs, motive v)
    (fun ms => ∀ k v, (k, v) ∈ ms → motive v) (fun m => motive m.2)
    null bool number string array object
    (by simp)
    (fun _ _ ihv ihvs => List.forall_mem_cons.mpr ⟨ihv, ihvs⟩)
    (by simp)
    (fun _ _ ihm ihms k v h => by
      rcases List.mem_cons.mp h with rfl | h
      · exact ihm
      · exact ihms k v h)
    (fun _ _ ih => ih) v

/-! ### Kinds -/

/-- A value of the kind of arrays is an array. -/
theorem exists_array {v : Value} (h : v.kind = .array) : ∃ vs, v = .array vs := by
  cases v with
  | array vs => exact ⟨vs, rfl⟩
  | null | bool _ | number _ | string _ | object _ => exact Kind.noConfusion h

/-- A value of the kind of objects is an object. -/
theorem exists_object {v : Value} (h : v.kind = .object) : ∃ ms, v = .object ms := by
  cases v with
  | object ms => exact ⟨ms, rfl⟩
  | null | bool _ | number _ | string _ | array _ => exact Kind.noConfusion h

/-! ### The parts of a well-formed value -/

/-- The items of a list are well formed one by one. -/
theorem wellFormedItems_iff {vs : List Value} :
    WellFormedItems vs ↔ ∀ v ∈ vs, v.WellFormed := by
  induction vs with
  | nil => simp [WellFormedItems]
  | cons v vs ih => simp [WellFormedItems, ih]

/-- The values of members are well formed one by one. -/
theorem wellFormedMembers_iff {ms : Members} :
    WellFormedMembers ms ↔ ∀ k v, (k, v) ∈ ms → v.WellFormed := by
  induction ms with
  | nil => simp [WellFormedMembers]
  | cons m ms ih => rw [WellFormedMembers, ih, Keyed.forall_mem_cons]

/-- An array is well formed if its indices are and its items are. -/
theorem wellFormed_array_iff {vs : List Value} :
    (Value.array vs).WellFormed ↔ vs.length < lengthBound ∧ ∀ v ∈ vs, v.WellFormed := by
  rw [WellFormed, wellFormedItems_iff]

/-- An object is well formed if it has no key twice and its values are well formed. -/
theorem wellFormed_object_iff {ms : Members} :
    (Value.object ms).WellFormed ↔
      (ms.map (·.1)).Nodup ∧ ∀ k v, (k, v) ∈ ms → v.WellFormed := by
  rw [WellFormed, wellFormedMembers_iff, Members.keys]

/-! ### Keys at every depth -/

mutual

/-- Every key of a value, at any depth, has a property. -/
def KeysSatisfy (p : String → Prop) : Value → Prop
  | .array vs => ItemKeysSatisfy p vs
  | .object ms => MemberKeysSatisfy p ms
  | _ => True

/-- Every key in the items of a list has a property. -/
def ItemKeysSatisfy (p : String → Prop) : List Value → Prop
  | [] => True
  | v :: vs => v.KeysSatisfy p ∧ ItemKeysSatisfy p vs

/-- Every key of members and in their values has a property. -/
def MemberKeysSatisfy (p : String → Prop) : List (String × Value) → Prop
  | [] => True
  | (k, v) :: ms => p k ∧ v.KeysSatisfy p ∧ MemberKeysSatisfy p ms

end

section

variable {p : String → Prop} [DecidablePred p]

mutual

/-- Whether every key of a value has a property can be computed if it can be for a key. -/
def decidableKeysSatisfy : (v : Value) → Decidable (v.KeysSatisfy p)
  | .null | .bool _ | .number _ | .string _ => .isTrue trivial
  | .array vs => decidableItemKeysSatisfy vs
  | .object ms => decidableMemberKeysSatisfy ms

/-- `decidableKeysSatisfy` for the items of a list. -/
def decidableItemKeysSatisfy : (vs : List Value) → Decidable (ItemKeysSatisfy p vs)
  | [] => .isTrue trivial
  | v :: vs => @instDecidableAnd _ _ (decidableKeysSatisfy v) (decidableItemKeysSatisfy vs)

/-- `decidableKeysSatisfy` for members. -/
def decidableMemberKeysSatisfy : (ms : List (String × Value)) → Decidable (MemberKeysSatisfy p ms)
  | [] => .isTrue trivial
  | (k, v) :: ms =>
    let _ := decidableKeysSatisfy v
    let _ := decidableMemberKeysSatisfy ms
    inferInstanceAs (Decidable (p k ∧ v.KeysSatisfy p ∧ MemberKeysSatisfy p ms))

end

instance : DecidablePred (KeysSatisfy p) := decidableKeysSatisfy

end

/-- The keys of an array are those in its items. -/
theorem keysSatisfy_array_iff {p : String → Prop} {vs : List Value} :
    (Value.array vs).KeysSatisfy p ↔ ∀ v ∈ vs, v.KeysSatisfy p := by
  rw [KeysSatisfy]
  induction vs with
  | nil => simp [ItemKeysSatisfy]
  | cons v vs ih => simp [ItemKeysSatisfy, ih]

/-- The keys of an object are its own and those in its values. -/
theorem keysSatisfy_object_iff {p : String → Prop} {ms : Members} :
    (Value.object ms).KeysSatisfy p ↔ ∀ k v, (k, v) ∈ ms → p k ∧ v.KeysSatisfy p := by
  rw [KeysSatisfy]
  induction ms with
  | nil => simp [MemberKeysSatisfy]
  | cons m ms ih => rw [MemberKeysSatisfy, ih, Keyed.forall_mem_cons, and_assoc]

/-- What every text satisfies, all keys of a value do. -/
theorem keysSatisfy_of_forall {p : String → Prop} (h : ∀ k, p k) (v : Value) :
    v.KeysSatisfy p := by
  induction v using Value.induct with
  | null | bool _ | number _ | string _ => simp [KeysSatisfy]
  | array vs ih => exact keysSatisfy_array_iff.mpr ih
  | object ms ih => exact keysSatisfy_object_iff.mpr fun k v hm => ⟨h k, ih k v hm⟩

/-! ### Numbers at every depth -/

mutual

/-- Every number of a value, at any depth, has a property. -/
def NumbersSatisfy (p : Number → Prop) : Value → Prop
  | .number n => p n
  | .array vs => ItemNumbersSatisfy p vs
  | .object ms => MemberNumbersSatisfy p ms
  | _ => True

/-- Every number in the items of a list has a property. -/
def ItemNumbersSatisfy (p : Number → Prop) : List Value → Prop
  | [] => True
  | v :: vs => v.NumbersSatisfy p ∧ ItemNumbersSatisfy p vs

/-- Every number in the values of members has a property. -/
def MemberNumbersSatisfy (p : Number → Prop) : List (String × Value) → Prop
  | [] => True
  | (_, v) :: ms => v.NumbersSatisfy p ∧ MemberNumbersSatisfy p ms

end

/-- The numbers of an array are those of its items. -/
theorem numbersSatisfy_array_iff {p : Number → Prop} {vs : List Value} :
    (Value.array vs).NumbersSatisfy p ↔ ∀ v ∈ vs, v.NumbersSatisfy p := by
  rw [NumbersSatisfy]
  induction vs with
  | nil => simp [ItemNumbersSatisfy]
  | cons v vs ih => simp [ItemNumbersSatisfy, ih]

/-- The numbers of an object are those of its values. -/
theorem numbersSatisfy_object_iff {p : Number → Prop} {ms : Members} :
    (Value.object ms).NumbersSatisfy p ↔ ∀ k v, (k, v) ∈ ms → v.NumbersSatisfy p := by
  rw [NumbersSatisfy]
  induction ms with
  | nil => simp [MemberNumbersSatisfy]
  | cons m ms ih => rw [MemberNumbersSatisfy, ih, Keyed.forall_mem_cons]

/-! ### Integers -/

mutual

/-- Every number of a value, at any depth, is an integer. -/
def IsIntegral : Value → Prop
  | .number (.double _) => False
  | .array vs => ItemsAreIntegral vs
  | .object ms => MembersAreIntegral ms
  | _ => True

/-- Every number in the items of a list is an integer. -/
def ItemsAreIntegral : List Value → Prop
  | [] => True
  | v :: vs => v.IsIntegral ∧ ItemsAreIntegral vs

/-- Every number in the values of members is an integer. -/
def MembersAreIntegral : List (String × Value) → Prop
  | [] => True
  | (_, v) :: ms => v.IsIntegral ∧ MembersAreIntegral ms

end

mutual

/-- Whether every number of a value is an integer can be computed. -/
def decidableIsIntegral : (v : Value) → Decidable v.IsIntegral
  | .null | .bool _ | .string _ | .number (.integer _) => .isTrue trivial
  | .number (.double _) => .isFalse id
  | .array vs => decidableItemsAreIntegral vs
  | .object ms => decidableMembersAreIntegral ms

/-- `decidableIsIntegral` for the items of a list. -/
def decidableItemsAreIntegral : (vs : List Value) → Decidable (ItemsAreIntegral vs)
  | [] => .isTrue trivial
  | v :: vs => @instDecidableAnd _ _ (decidableIsIntegral v) (decidableItemsAreIntegral vs)

/-- `decidableIsIntegral` for the values of members. -/
def decidableMembersAreIntegral :
    (ms : List (String × Value)) → Decidable (MembersAreIntegral ms)
  | [] => .isTrue trivial
  | (_, v) :: ms => @instDecidableAnd _ _ (decidableIsIntegral v) (decidableMembersAreIntegral ms)

end

instance : DecidablePred IsIntegral := decidableIsIntegral

/-- The numbers of an array are those of its items. -/
theorem isIntegral_array_iff {vs : List Value} :
    (Value.array vs).IsIntegral ↔ ∀ v ∈ vs, v.IsIntegral := by
  rw [IsIntegral]
  induction vs with
  | nil => simp [ItemsAreIntegral]
  | cons v vs ih => simp [ItemsAreIntegral, ih]

/-- The numbers of an object are those of its values. -/
theorem isIntegral_object_iff {ms : Members} :
    (Value.object ms).IsIntegral ↔ ∀ k v, (k, v) ∈ ms → v.IsIntegral := by
  rw [IsIntegral]
  induction ms with
  | nil => simp [MembersAreIntegral]
  | cons m ms ih => rw [MembersAreIntegral, ih, Keyed.forall_mem_cons]

/-! ### Depth -/

/-- Items are nested as deep as the deepest of them. -/
theorem nestingItems_le_iff {vs : List Value} {n : Nat} :
    nestingItems vs ≤ n ↔ ∀ v ∈ vs, v.nesting ≤ n := by
  induction vs with
  | nil => simp [nestingItems]
  | cons v vs ih => rw [nestingItems, Nat.max_le, ih, List.forall_mem_cons]

/-- Members are nested as deep as the deepest of their values. -/
theorem nestingMembers_le_iff {ms : Members} {n : Nat} :
    nestingMembers ms ≤ n ↔ ∀ k v, (k, v) ∈ ms → v.nesting ≤ n := by
  induction ms with
  | nil => simp [nestingMembers]
  | cons m ms ih => rw [nestingMembers, Nat.max_le, ih, Keyed.forall_mem_cons]

/-! ### Breadth -/

/-- The items of a list are no broader than the list. -/
theorem longestArray_le_of_mem {vs : List Value} {v : Value} (h : v ∈ vs) :
    v.longestArray ≤ longestOfItems vs := by
  induction vs with
  | nil => simp at h
  | cons w vs ih =>
      rcases List.mem_cons.mp h with rfl | h
      · exact Nat.le_max_left _ _
      · exact Nat.le_trans (ih h) (Nat.le_max_right _ _)

/-- The values of members are no broader than the members. -/
theorem longestArray_le_of_mem_members {ms : Members} {k : String} {v : Value}
    (h : (k, v) ∈ ms) : v.longestArray ≤ longestOfMembers ms := by
  induction ms with
  | nil => simp at h
  | cons m ms ih =>
      rcases List.mem_cons.mp h with rfl | h
      · exact Nat.le_max_left _ _
      · exact Nat.le_trans (ih h) (Nat.le_max_right _ _)

end Value

end JsonWorkbench
