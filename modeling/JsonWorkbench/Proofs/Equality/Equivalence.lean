import JsonWorkbench.Proofs.Difference.Recovery
import JsonWorkbench.Proofs.Numeral.Exact

/-!
# How Far Equality as Data Is an Equivalence

Every value is equal to itself, and equality is symmetric. It is not transitive: two integers are
compared exactly, but an integer and a double as doubles, and two integers can have one nearest
double. That double then stands between two integers that are different (`Blurs`). There is no
other exception: two values that are equal to a third one are equal to each other unless they have
such integers at one place.

Two containers are equal exactly if every segment leads to equal values in both, or to nothing. So
symmetry and the rest of transitivity are proved one segment at a time.

## Main definitions

* `Value.Blurs` — at some place a double stands between two different integers.

## Main results

* `Value.looseEq_container_iff` — equality of containers by what segments lead to.
* `Value.looseEq_comm` — equality is symmetric.
* `Value.looseEq_iff_not_blurs` — when two values that are equal to a third one are equal.
* `looseEq_equivalence` — the three laws of an equivalence, the last one as far as it holds.
-/

namespace JsonWorkbench

/-! ### Numbers -/

/-- Equality of doubles is transitive. -/
theorem float_beq_trans {x y z : Float} (hxy : (x == y) = true) (hyz : (y == z) = true) :
    (x == z) = true := by
  obtain ⟨hx, hy, hxy⟩ := Float.beq_iff_ne_nan_and_eq.mp hxy
  obtain ⟨-, hz, hyz⟩ := Float.beq_iff_ne_nan_and_eq.mp hyz
  rw [Float.beq_iff_ne_nan_and_eq]
  refine ⟨hx, hz, ?_⟩
  grind

namespace Number

/-- Two numbers that are equal to a third one are equal, unless they are different integers on
both sides of a double. -/
theorem looseEq_iff_not_integers {a b c : Number} (hab : a.looseEq b = true)
    (hbc : b.looseEq c = true) :
    a.looseEq c = true ↔
      ¬∃ m x n, a = .integer m ∧ b = .double x ∧ c = .integer n ∧ m ≠ n := by
  cases a with
  | double x =>
      refine iff_of_true ?_ (by rintro ⟨m, x, n, hm, -⟩; exact Number.noConfusion hm)
      cases b with
      | double y => cases c <;> exact float_beq_trans hab hbc
      | integer n =>
          cases c with
          | double z => exact float_beq_trans hab hbc
          | integer k =>
              obtain rfl : n = k := by simpa [looseEq] using hbc
              exact hab
  | integer m =>
      cases b with
      | integer n =>
          obtain rfl : m = n := by simpa [looseEq] using hab
          exact iff_of_true hbc (by rintro ⟨m, x, n, -, hx, -⟩; exact Number.noConfusion hx)
      | double y =>
          cases c with
          | double z =>
              refine iff_of_true (float_beq_trans hab hbc) ?_
              rintro ⟨m, x, n, -, -, hn, -⟩
              exact Number.noConfusion hn
          | integer n => simp [looseEq]

end Number

/-! ### Containers -/

/-- What is related to a value is a value. -/
theorem exists_of_rel_some {α β : Type} {R : α → β → Prop} {a : α} {o : Option β}
    (h : Option.Rel R (some a) o) : ∃ b, o = some b ∧ R a b := by
  cases h with
  | some h => exact ⟨_, rfl, h⟩

/-- A relation that is symmetric on two values, if there are such, is symmetric on both. -/
theorem rel_comm_of {α : Type} {R : α → α → Prop} {a b : Option α}
    (h : ∀ x y, a = some x → b = some y → (R x y ↔ R y x)) :
    Option.Rel R a b ↔ Option.Rel R b a := by
  cases a with
  | none =>
      cases b with
      | none => exact Iff.rfl
      | some y => exact iff_of_false nofun nofun
  | some x =>
      cases b with
      | none => exact iff_of_false nofun nofun
      | some y =>
          rw [Option.rel_some_some, Option.rel_some_some]
          exact h x y rfl rfl

/-- Two lists are related position by position if they hold related elements, or none, at every
index. -/
theorem forall₂_iff_rel_getElem? {α β : Type} {R : α → β → Prop} {xs : List α} {ys : List β} :
    List.Forall₂ R xs ys ↔ ∀ i : Nat, Option.Rel R xs[i]? ys[i]? := by
  induction xs generalizing ys with
  | nil =>
      cases ys with
      | nil => exact iff_of_true .nil fun i => .none
      | cons y ys => exact iff_of_false nofun fun h => nomatch h 0
  | cons x xs ih =>
      cases ys with
      | nil => exact iff_of_false nofun fun h => nomatch h 0
      | cons y ys =>
          rw [List.forall₂_cons, ih]
          have hsplit := Nat.and_forall_add_one
            (p := fun i => Option.Rel R (x :: xs)[i]? (y :: ys)[i]?)
          exact Iff.trans (and_congr_left fun _ => Option.rel_some_some.symm) hsplit

namespace Value

/-- Objects are equal if they hold equal values, or none, under every key. -/
theorem looseEq_object_iff_get? {ms ns : Members} (hms : (ms.map (·.1)).Nodup)
    (hns : (ns.map (·.1)).Nodup) :
    (Value.object ms).looseEq (.object ns) = true ↔
      ∀ k, Option.Rel (fun v w => v.looseEq w = true) (Members.get? ms k) (Members.get? ns k) := by
  rw [looseEq_object_iff]
  constructor
  · rintro ⟨hlen, hget⟩ k
    have hsub : ms.map (·.1) ⊆ ns.map (·.1) :=
      Keyed.subset_of_get? fun k v hm => (hget k v hm).imp fun _ h => h.1
    have hsub' := (Keyed.length_eq_iff_subset hms hns hsub).mp hlen
    cases hk : Members.get? ms k with
    | none =>
        have hnone : Members.get? ns k = none :=
          Keyed.get?_eq_none_iff.mpr fun h => Keyed.get?_eq_none_iff.mp hk (hsub' h)
        rw [hnone]
        exact .none
    | some v =>
        obtain ⟨w, hw, hvw⟩ := hget k v (Keyed.mem_of_get? hk)
        rw [hw]
        exact .some hvw
  · intro h
    have hget : ∀ k v, (k, v) ∈ ms → ∃ w, Members.get? ns k = some w ∧ v.looseEq w = true := by
      intro k v hm
      have hk := h k
      rw [Members.get?, Keyed.get?_of_mem hms hm] at hk
      exact exists_of_rel_some hk
    refine ⟨(Keyed.length_eq_iff_subset hms hns ?_).mpr fun k => ?_, hget⟩
    · exact Keyed.subset_of_get? fun k v hm => (hget k v hm).imp fun _ h => h.1
    · rw [← not_imp_not, ← Keyed.get?_eq_none_iff, ← Keyed.get?_eq_none_iff]
      exact (rel_eq_none_iff (h k)).mp

/-- **Equality of containers by what segments lead to**: two containers of one kind are equal if
every segment leads to equal values in both, or to nothing. -/
theorem looseEq_container_iff {φ : Type} {v w : Value} (hv : v.WellFormed) (hw : w.WellFormed)
    (hcontainer : v.isContainer = true) (hkind : v.kind = w.kind) :
    v.looseEq w = true ↔
      ∀ s : Segment φ, Option.Rel (fun v w => v.looseEq w = true) (step v s) (step w s) := by
  cases v with
  | null | bool _ | number _ | string _ => exact Bool.noConfusion hcontainer
  | array vs =>
      obtain ⟨ws, rfl⟩ := exists_array hkind.symm
      rw [looseEq_array_iff, forall₂_iff_rel_getElem?]
      constructor
      · intro h s
        cases s with
        | index i => exact h i
        | key k =>
            rw [step, step]
            cases keyIndex? k with
            | none => exact .none
            | some i => exact h i
        | wildcard | slice _ _ | filter _ | descendant _ => exact .none
      · exact fun h i => h (.index i)
  | object ms =>
      obtain ⟨ns, rfl⟩ := exists_object hkind.symm
      rw [looseEq_object_iff_get? (wellFormed_object_iff.mp hv).1 (wellFormed_object_iff.mp hw).1]
      constructor
      · intro h s
        cases s with
        | key k => exact h k
        | index _ | wildcard | slice _ _ | filter _ | descendant _ => exact .none
      · exact fun h k => h (.key k)

/-- Values of one kind are both containers or both scalars. -/
theorem isContainer_eq_of_kind {v w : Value} (h : v.kind = w.kind) :
    v.isContainer = w.isContainer := by
  cases v <;> cases w <;> first | rfl | exact Kind.noConfusion h

/-- No segment leads on from a scalar. -/
theorem step_scalar {φ : Type} {v : Value} (hv : v.isContainer = false) (s : Segment φ) :
    step v s = none := by
  rw [Option.eq_none_iff_forall_ne_some]
  intro w h
  rcases cases_of_step h with ⟨vs, rfl, -⟩ | ⟨ms, k, rfl, -⟩ <;> exact Bool.noConfusion hv

/-- A segment leads from equal values to equal values, or to nothing. -/
theorem rel_step_of_looseEq {φ : Type} {v w : Value} (hv : v.WellFormed) (hw : w.WellFormed)
    (h : v.looseEq w = true) (s : Segment φ) :
    Option.Rel (fun v w => v.looseEq w = true) (step v s) (step w s) := by
  have hkind : v.kind = w.kind := kind_eq_of_looseEq h
  cases hcontainer : v.isContainer with
  | false =>
      rw [step_scalar hcontainer, step_scalar (isContainer_eq_of_kind hkind ▸ hcontainer)]
      exact .none
  | true => exact (looseEq_container_iff hv hw hcontainer hkind).mp h s

/-- A path that can be followed in two equal values leads to equal values. -/
theorem looseEq_of_locate {φ : Type} {v w v' w' : Value} (hv : v.WellFormed) (hw : w.WellFormed)
    (h : v.looseEq w = true) {p : Segments φ} (hv' : locate v p = some v')
    (hw' : locate w p = some w') : v'.looseEq w' = true := by
  induction p generalizing v w with
  | nil =>
      obtain rfl : v = v' := Option.some.inj hv'
      obtain rfl : w = w' := Option.some.inj hw'
      exact h
  | cons s p ih =>
      obtain ⟨v₁, hv₁, hv'⟩ := Option.bind_eq_some_iff.mp hv'
      obtain ⟨w₁, hw₁, hw'⟩ := Option.bind_eq_some_iff.mp hw'
      have hs := rel_step_of_looseEq hv hw h s
      rw [hv₁, hw₁, Option.rel_some_some] at hs
      exact ih (hv.step hv₁) (hw.step hw₁) hs hv' hw'

/-- A value of the kind of numbers is a number. -/
theorem exists_number {v : Value} (h : v.kind = .number) : ∃ n, v = .number n := by
  cases v with
  | number n => exact ⟨n, rfl⟩
  | null | bool _ | string _ | array _ | object _ => exact Kind.noConfusion h

/-- A scalar that is no number is equal to itself only. -/
theorem looseEq_iff_eq {v w : Value} (hscalar : v.isContainer = false) (hv : v.kind ≠ .number) :
    v.looseEq w = true ↔ v = w := by
  cases v with
  | null | bool _ | string _ => cases w <;> simp [looseEq]
  | number _ => exact absurd rfl hv
  | array _ | object _ => exact Bool.noConfusion hscalar

/-! ### Symmetry -/

/-- **Equality is symmetric.** -/
theorem looseEq_comm {v w : Value} (hv : v.WellFormed) (hw : w.WellFormed) :
    v.looseEq w = w.looseEq v := by
  induction v using induct_step (φ := Condition) generalizing w with
  | ih v ih =>
      by_cases hkind : v.kind = w.kind
      · cases hcontainer : v.isContainer with
        | false => exact looseEq_comm_scalar hcontainer w
        | true =>
            have hcontainer' : w.isContainer = true := isContainer_eq_of_kind hkind ▸ hcontainer
            rw [Bool.eq_iff_iff, looseEq_container_iff (φ := Condition) hv hw hcontainer hkind,
              looseEq_container_iff (φ := Condition) hw hv hcontainer' hkind.symm]
            refine forall_congr' fun s => rel_comm_of fun v' w' hv' hw' => ?_
            rw [ih s v' hv' (hv.step hv') (hw.step hw')]
      · have hvw : ¬v.looseEq w = true := fun h => hkind (kind_eq_of_looseEq h)
        have hwv : ¬w.looseEq v = true := fun h => hkind (kind_eq_of_looseEq h).symm
        rw [Bool.not_eq_true] at hvw hwv
        rw [hvw, hwv]

/-! ### Transitivity -/

/-- At some place there is a double between two different integers. -/
def Blurs (u v w : Value) : Prop :=
  ∃ (p : Path) (m : Int) (x : Float) (n : Int), locate u p = some (.int m) ∧
    locate v p = some (.number (.double x)) ∧ locate w p = some (.int n) ∧ m ≠ n

/-- Such a place is that of the three values themselves, or one that a segment leads to. -/
theorem blurs_iff {u v w : Value} :
    Blurs u v w ↔
      (∃ m x n, u = .int m ∧ v = .number (.double x) ∧ w = .int n ∧ m ≠ n) ∨
        ∃ (s : Segment Condition) (u' v' w' : Value), step u s = some u' ∧ step v s = some v' ∧
          step w s = some w' ∧ Blurs u' v' w' := by
  constructor
  · rintro ⟨p, m, x, n, hu, hv, hw, hne⟩
    cases p with
    | nil =>
        exact .inl ⟨m, x, n, Option.some.inj hu, Option.some.inj hv, Option.some.inj hw, hne⟩
    | cons s p =>
        obtain ⟨u', hu', hu⟩ := Option.bind_eq_some_iff.mp hu
        obtain ⟨v', hv', hv⟩ := Option.bind_eq_some_iff.mp hv
        obtain ⟨w', hw', hw⟩ := Option.bind_eq_some_iff.mp hw
        exact .inr ⟨s, u', v', w', hu', hv', hw', p, m, x, n, hu, hv, hw, hne⟩
  · rintro (⟨m, x, n, rfl, rfl, rfl, hne⟩ | ⟨s, u', v', w', hu', hv', hw', p, m, x, n, h⟩)
    · exact ⟨[], m, x, n, rfl, rfl, rfl, hne⟩
    · refine ⟨s :: p, m, x, n, ?_⟩
      simpa only [locate, hu', hv', hw', Option.bind_some] using h

/-- A scalar has no place but its own. -/
theorem blurs_scalar_iff {u v w : Value} (hu : u.isContainer = false) :
    Blurs u v w ↔ ∃ m x n, u = .int m ∧ v = .number (.double x) ∧ w = .int n ∧ m ≠ n := by
  rw [blurs_iff, or_iff_left]
  rintro ⟨s, u', -, -, hu', -⟩
  rcases cases_of_step hu' with ⟨us, rfl, -⟩ | ⟨us, k, rfl, -⟩ <;> exact Bool.noConfusion hu

/-- A scalar that is equal to a third value is passed on to what is equal to that, unless that blurs
the difference between two integers. -/
theorem looseEq_iff_not_blurs_scalar {u v w : Value} (hu : u.isContainer = false)
    (huv : u.looseEq v = true) (hvw : v.looseEq w = true) :
    u.looseEq w = true ↔ ¬Blurs u v w := by
  rw [blurs_scalar_iff hu]
  have hkuv : u.kind = v.kind := kind_eq_of_looseEq huv
  by_cases hnumber : u.kind = .number
  · obtain ⟨a, rfl⟩ := exists_number hnumber
    obtain ⟨b, rfl⟩ := exists_number hkuv.symm
    obtain ⟨c, rfl⟩ := exists_number (kind_eq_of_looseEq hvw).symm
    simp only [int, Value.number.injEq]
    exact Number.looseEq_iff_not_integers huv hvw
  · obtain rfl : u = v := (looseEq_iff_eq hu hnumber).mp huv
    refine iff_of_true hvw ?_
    rintro ⟨m, x, n, rfl, -⟩
    exact hnumber rfl

/-- **Two values that are equal to a third one** are equal, unless that blurs the difference
between two integers. -/
theorem looseEq_iff_not_blurs {u v w : Value} (hu : u.WellFormed) (hv : v.WellFormed)
    (hw : w.WellFormed) (huv : u.looseEq v = true) (hvw : v.looseEq w = true) :
    u.looseEq w = true ↔ ¬Blurs u v w := by
  induction u using induct_step (φ := Condition) generalizing v w with
  | ih u ih =>
      have hkuv : u.kind = v.kind := kind_eq_of_looseEq huv
      have hkvw : v.kind = w.kind := kind_eq_of_looseEq hvw
      cases hcontainer : u.isContainer with
      | false => exact looseEq_iff_not_blurs_scalar hcontainer huv hvw
      | true =>
          have hkind : u.kind = w.kind := hkuv.trans (kind_eq_of_looseEq hvw)
          rw [looseEq_container_iff (φ := Condition) hu hw hcontainer hkind]
          have huv := rel_step_of_looseEq (φ := Condition) hu hv huv
          have hvw := rel_step_of_looseEq (φ := Condition) hv hw hvw
          constructor
          · intro h hblurs
            rcases blurs_iff.mp hblurs with ⟨m, -, -, rfl, -⟩ | ⟨s, u', v', w', hu', hv', hw', hs⟩
            · exact Bool.noConfusion hcontainer
            · have huvs := huv s
              have hvws := hvw s
              have huws := h s
              rw [hu', hv', Option.rel_some_some] at huvs
              rw [hv', hw', Option.rel_some_some] at hvws
              rw [hu', hw', Option.rel_some_some] at huws
              exact (ih s u' hu' (hu.step hu') (hv.step hv') (hw.step hw') huvs hvws).mp huws hs
          · intro h s
            have huvs := huv s
            have hvws := hvw s
            cases hu' : step u s with
            | none =>
                rw [(rel_eq_none_iff hvws).mp ((rel_eq_none_iff huvs).mp hu')]
                exact .none
            | some u' =>
                rw [hu'] at huvs
                obtain ⟨v', hv', huv'⟩ := exists_of_rel_some huvs
                rw [hv'] at hvws
                obtain ⟨w', hw', hvw'⟩ := exists_of_rel_some hvws
                rw [hw']
                refine .some ((ih s u' hu' (hu.step hu') (hv.step hv') (hw.step hw') huv' hvw').mpr
                  fun hs => h (blurs_iff.mpr (.inr ⟨s, u', v', w', hu', hv', hw', hs⟩)))

/-! ### Integers of at most 53 bits -/

/-- What holds of all numbers of a value holds of the one that a path leads to. -/
theorem NumbersSatisfy.of_locate {φ : Type} {P : Number → Prop} {v : Value} {n : Number}
    (hv : v.NumbersSatisfy P) {p : Segments φ} (h : locate v p = some (.number n)) : P n := by
  induction p generalizing v with
  | nil =>
      obtain rfl : v = .number n := Option.some.inj h
      exact hv
  | cons s p ih =>
      obtain ⟨w, hw, hn⟩ := Option.bind_eq_some_iff.mp h
      rcases cases_of_step hw with ⟨vs, rfl, hm⟩ | ⟨ms, k, rfl, hm⟩
      · exact ih (numbersSatisfy_array_iff.mp hv w hm) hn
      · exact ih (numbersSatisfy_object_iff.mp hv k w hm) hn

end Value

/-- The number is a double or has at most 53 bits. -/
def Number.IsExact : Number → Prop
  | .integer n => n.natAbs < 2 ^ 53
  | .double _ => True

namespace Value

/-- Integers of at most 53 bits are not blurred. -/
theorem not_blurs_of_isExact {u v w : Value} (hu : u.WellFormed) (hv : v.WellFormed)
    (hw : w.WellFormed) (huv : u.looseEq v = true) (hvw : v.looseEq w = true)
    (hu' : u.NumbersSatisfy Number.IsExact) (hw' : w.NumbersSatisfy Number.IsExact) :
    ¬Blurs u v w := by
  rintro ⟨p, m, x, n, hm, hx, hn, hne⟩
  have hmx : (Decimal.ofInt m == x) = true := looseEq_of_locate hu hv huv hm hx
  have hxn : (x == Decimal.ofInt n) = true := looseEq_of_locate hv hw hvw hx hn
  have hm53 : m.natAbs < 2 ^ 53 := hu'.of_locate hm
  have hn53 : n.natAbs < 2 ^ 53 := hw'.of_locate hn
  exact hne (Decimal.ofInt_inj hm53 hn53 (float_beq_trans hmx hxn))

end Value

/-! ### The laws -/

/-- **Equality as data as an equivalence.** A value is equal to itself, and equality is symmetric.
Two values that are equal to a third one are equal exactly if this does not blur the difference
between two integers, and so in any case if the integers of both have at most 53 bits. -/
theorem looseEq_equivalence {u v w : Value} (hu : u.WellFormed) (hv : v.WellFormed)
    (hw : w.WellFormed) :
    u.looseEq u = true ∧ (u.looseEq v = true → v.looseEq u = true) ∧
      (u.looseEq v = true → v.looseEq w = true →
        (u.looseEq w = true ↔ ¬Value.Blurs u v w) ∧
          (u.NumbersSatisfy Number.IsExact → w.NumbersSatisfy Number.IsExact →
            u.looseEq w = true)) := by
  refine ⟨Value.looseEq_self hu, fun h => Value.looseEq_comm hu hv ▸ h, fun huv hvw => ?_⟩
  have hiff := Value.looseEq_iff_not_blurs hu hv hw huv hvw
  exact ⟨hiff, fun hu' hw' => hiff.mpr (Value.not_blurs_of_isExact hu hv hw huv hvw hu' hw')⟩

/-- A record with integers. -/
def countedRecord : Value :=
  .object [("name", .string "north"), ("count", .int 3), ("parts", .array [.int 1, .int 2])]

/-- The record with doubles, in another order. -/
def measuredRecord : Value :=
  .object [("count", .number (.double 3)), ("name", .string "north"),
    ("parts", .array [.number (.double 1), .number (.double 2)])]

/-- The record with both, in a third order. -/
def mixedRecord : Value :=
  .object [("parts", .array [.int 1, .number (.double 2)]), ("name", .string "north"),
    ("count", .int 3)]

/-- Records with integers and with doubles are equal through each other. -/
theorem looseEq_equivalence_records :
    (countedRecord.WellFormed ∧ measuredRecord.WellFormed ∧ mixedRecord.WellFormed) ∧
      (countedRecord.looseEq measuredRecord = true ∧ measuredRecord.looseEq mixedRecord = true) ∧
        countedRecord.looseEq countedRecord = true ∧ measuredRecord.looseEq countedRecord = true ∧
          ¬Value.Blurs countedRecord measuredRecord mixedRecord ∧
            countedRecord.looseEq mixedRecord = true := by
  have hu : countedRecord.WellFormed := by decide
  have hv : measuredRecord.WellFormed := by decide
  have hw : mixedRecord.WellFormed := by decide
  have huv : countedRecord.looseEq measuredRecord = true := by decide
  have hvw : measuredRecord.looseEq mixedRecord = true := by decide
  have hu' : countedRecord.NumbersSatisfy Number.IsExact := by
    simp [countedRecord, Value.int, Value.NumbersSatisfy, Value.ItemNumbersSatisfy,
      Value.MemberNumbersSatisfy, Number.IsExact]
  have hw' : mixedRecord.NumbersSatisfy Number.IsExact := by
    simp [mixedRecord, Value.int, Value.NumbersSatisfy, Value.ItemNumbersSatisfy,
      Value.MemberNumbersSatisfy, Number.IsExact]
  obtain ⟨hself, hsymm, htrans⟩ := looseEq_equivalence hu hv hw
  obtain ⟨hiff, hexact⟩ := htrans huv hvw
  exact ⟨⟨hu, hv, hw⟩, ⟨huv, hvw⟩, hself, hsymm huv, hiff.mp (hexact hu' hw'), hexact hu' hw'⟩

/-- Two integers that are different are both equal to the double between them. -/
theorem not_forall_looseEq_trans :
    ¬∀ u v w : Value, u.WellFormed → v.WellFormed → w.WellFormed →
      u.looseEq v = true → v.looseEq w = true → u.looseEq w = true := by
  intro h
  have huw := h (.int 9007199254740993) (.number (.double 9007199254740992)) (.int 9007199254740992)
    (by decide) (by decide) (by decide) (by decide) (by decide)
  exact absurd huw (by decide)

end JsonWorkbench
