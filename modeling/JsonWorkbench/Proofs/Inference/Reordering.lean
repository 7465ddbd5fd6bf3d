import JsonWorkbench.Proofs.Validation

/-!
# Schemas up to Order

Two schemas are reorderings of each other if they differ at most in the order in which properties,
required keys and branches stand, at any depth. The relation is stated without any walk: the keys
of the properties are permuted, and under every key there are reorderings; the branches of the one
schema are, one by one, reorderings of the permuted branches of the other.

No order is looked at when a value is judged, so that reorderings admit the same values.

## Main definitions

* `Schema.Reordered` — the relation.

## Main results

* `Schema.Reordered.admits_iff` — reorderings admit the same values.
-/

namespace JsonWorkbench

/-! ### Rules -/

/-- Rules that are the same but for the order of the required keys. -/
structure Rules.Reordered (a b : Rules) : Prop where
  /-- The required keys stand in any order. -/
  required : Option.Rel List.Perm a.required b.required
  /-- All other rules are the same. -/
  others : { a with required := none } = { b with required := none }

namespace Rules.Reordered

variable {a b : Rules}

/-- Every rule but the required keys can be taken from the reordered rules. -/
theorem eq_with_required (h : a.Reordered b) : a = { b with required := a.required } := by
  obtain ⟨-, hothers⟩ := h
  cases a
  cases b
  simpa using hothers

/-- The same types are asked for. -/
theorem wrongType?_eq (h : a.Reordered b) (v : Value) : a.wrongType? v = b.wrongType? v := by
  rw [h.eq_with_required]
  rfl

/-- The rules for the number of items are the same. -/
theorem countViolations_eq (h : a.Reordered b) : a.countViolations = b.countViolations := by
  rw [h.eq_with_required]
  rfl

/-- The rules for texts are the same. -/
theorem textViolations_eq (h : a.Reordered b) : a.textViolations = b.textViolations := by
  rw [h.eq_with_required]
  rfl

/-- The rules for numbers are the same. -/
theorem boundViolations_eq (h : a.Reordered b) : a.boundViolations = b.boundViolations := by
  rw [h.eq_with_required]
  rfl

/-- The same values are admitted. -/
theorem choiceViolations_eq (h : a.Reordered b) : a.choiceViolations = b.choiceViolations := by
  rw [h.eq_with_required]
  rfl

/-- The same keys are required. -/
theorem mem_required_iff (h : a.Reordered b) {k : String} :
    k ∈ a.required.getD [] ↔ k ∈ b.required.getD [] := by
  obtain ⟨hrequired, -⟩ := h
  revert hrequired
  generalize a.required = ks, b.required = ls
  rintro (hperm | _)
  · exact hperm.mem_iff
  · exact Iff.rfl

/-- The same required keys are missing in an object, if any are. -/
theorem missingViolations_eq_nil_iff (h : a.Reordered b) {path : Segments Empty} {ms : Members} :
    a.missingViolations path ms = [] ↔ b.missingViolations path ms = [] := by
  simp only [missingViolations, List.flatMap_eq_nil_iff, h.mem_required_iff]

end Rules.Reordered

namespace Schema

/-! ### The relation -/

/-- Two schemas are the same but for the order of properties, of required keys and of branches, at
any depth. -/
inductive Reordered : Schema → Schema → Prop
  /-- `branches` are those of the second schema in the order of the first. -/
  | intro {s t : Schema} (branches : Option (List Schema))
      (hrules : s.rules.Reordered t.rules)
      (hkeys : Option.Rel (fun ps qs => (ps.map (·.1)).Perm (qs.map (·.1)))
        s.properties t.properties)
      (hproperty : ∀ (k : String) (u w : Schema), (k, u) ∈ s.properties.getD [] →
        (k, w) ∈ t.properties.getD [] → Reordered u w)
      (hitems : s.items.isSome = t.items.isSome)
      (hitem : ∀ u w : Schema, s.items = some u → t.items = some w → Reordered u w)
      (hlen : s.anyOf.map List.length = branches.map List.length)
      (hbranch : ∀ (i : Nat) (u w : Schema), (s.anyOf.getD [])[i]? = some u →
        (branches.getD [])[i]? = some w → Reordered u w)
      (hperm : Option.Rel List.Perm branches t.anyOf) : Reordered s t

/-- Permuted keys are the same keys. -/
theorem exists_property_iff {ps qs : Option (List (String × Schema))}
    (hkeys : Option.Rel (fun ps qs => (ps.map (·.1)).Perm (qs.map (·.1))) ps qs) {k : String} :
    (∃ u, (k, u) ∈ ps.getD []) ↔ ∃ w, (k, w) ∈ qs.getD [] := by
  cases hkeys with
  | none => exact Iff.rfl
  | some hperm => simpa using hperm.mem_iff (a := k)

/-! ### Admission -/

/-- Choices find something wrong in the same values, if the branches of the one do so, one by one,
as the branches of the other in some order. -/
theorem branchesViolations_reordered {path : Segments Empty} {v : Value}
    {ss branches ts : Option (List Schema)}
    (hlen : ss.map List.length = branches.map List.length)
    (hbranch : ∀ (i : Nat) (u w : Schema), (ss.getD [])[i]? = some u →
      (branches.getD [])[i]? = some w → (violationsAt path v u = [] ↔ violationsAt path v w = []))
    (hperm : Option.Rel List.Perm branches ts) :
    branchesViolations path v ss = [] ↔ branchesViolations path v ts = [] := by
  cases hperm with
  | none =>
      obtain rfl : ss = none := by simpa using hlen
      exact Iff.rfl
  | @some us ts hperm =>
      cases ss with
      | none => simp at hlen
      | some ss =>
          have hlen : ss.length = us.length := Option.some.inj hlen
          simp only [branchesViolations_eq_nil_iff, Option.isSome_some, Option.getD_some,
            forall_const, ← hperm.mem_iff]
          constructor
          · rintro ⟨u, hu, hnil⟩
            obtain ⟨i, hi, rfl⟩ := List.mem_iff_getElem.mp hu
            have hi' : i < us.length := hlen ▸ hi
            exact ⟨us[i], List.getElem_mem hi', (hbranch i ss[i] us[i] (List.getElem?_eq_getElem hi)
              (List.getElem?_eq_getElem hi')).mp hnil⟩
          · rintro ⟨w, hw, hnil⟩
            obtain ⟨i, hi', rfl⟩ := List.mem_iff_getElem.mp hw
            have hi : i < ss.length := hlen ▸ hi'
            exact ⟨ss[i], List.getElem_mem hi, (hbranch i ss[i] us[i] (List.getElem?_eq_getElem hi)
              (List.getElem?_eq_getElem hi')).mpr hnil⟩

/-- Properties find something wrong in the same objects, if they have the same keys and do so under
every key. -/
theorem propertiesViolations_reordered {path : Segments Empty} {ms : Members}
    {ps qs : Option (List (String × Schema))}
    (hkeys : Option.Rel (fun ps qs => (ps.map (·.1)).Perm (qs.map (·.1))) ps qs)
    (hproperty : ∀ (k : String) (u w : Schema), (k, u) ∈ ps.getD [] → (k, w) ∈ qs.getD [] →
      ∀ v, violationsAt (path ++ [.key k]) v u = [] ↔ violationsAt (path ++ [.key k]) v w = []) :
    propertiesViolations path ms ps = [] ↔ propertiesViolations path ms qs = [] := by
  rw [propertiesViolations_eq_nil_iff, propertiesViolations_eq_nil_iff]
  constructor
  · intro h k w v hw hget
    obtain ⟨u, hu⟩ := (exists_property_iff hkeys).mpr ⟨w, hw⟩
    exact (hproperty k u w hu hw v).mp (h k u v hu hget)
  · intro h k u v hu hget
    obtain ⟨w, hw⟩ := (exists_property_iff hkeys).mp ⟨u, hu⟩
    exact (hproperty k u w hu hw v).mpr (h k w v hw hget)

/-- Schemas for items find something wrong in the same arrays, if they do so in the same items. -/
theorem itemsViolations_reordered {path : Segments Empty} {vs : List Value}
    {items items' : Option Schema} (hitems : items.isSome = items'.isSome)
    (hitem : ∀ u w : Schema, items = some u → items' = some w → ∀ path v,
      violationsAt path v u = [] ↔ violationsAt path v w = []) :
    itemsViolations path vs items = [] ↔ itemsViolations path vs items' = [] := by
  cases items with
  | none =>
      obtain rfl : items' = none := by simpa using hitems
      exact Iff.rfl
  | some u =>
      obtain ⟨w, rfl⟩ : ∃ w, items' = some w := Option.isSome_iff_exists.mp hitems.symm
      simp only [itemsViolations_eq_nil_iff, Option.some.injEq, forall_eq', hitem u w rfl rfl]

/-- **Reorderings find something wrong in the same values.** The induction is on the reordering;
the rules of the two schemas differ in the required keys only. -/
theorem Reordered.violationsAt_eq_nil_iff {s t : Schema} (h : s.Reordered t)
    (path : Segments Empty) (v : Value) :
    violationsAt path v s = [] ↔ violationsAt path v t = [] := by
  induction h generalizing path v with
  | @intro s t branches hrules hkeys hproperty hitems hitem hlen hbranch hperm ihproperty ihitem
      ihbranch =>
      have hbranches : branchesViolations path v s.anyOf = [] ↔
          branchesViolations path v t.anyOf = [] :=
        branchesViolations_reordered hlen (fun i u w hu hw => ihbranch i u w hu hw path v) hperm
      have hproperties : ∀ ms, propertiesViolations path ms s.properties = [] ↔
          propertiesViolations path ms t.properties = [] := fun ms =>
        propertiesViolations_reordered hkeys fun k u w hu hw => ihproperty k u w hu hw _
      have hitems : ∀ vs, itemsViolations path vs s.items = [] ↔
          itemsViolations path vs t.items = [] := fun vs =>
        itemsViolations_reordered hitems ihitem
      have hmissing : ∀ ms, s.rules.missingViolations path ms = [] ↔
          t.rules.missingViolations path ms = [] := fun ms => hrules.missingViolations_eq_nil_iff
      have hcontent : contentViolations path v s = [] ↔ contentViolations path v t = [] := by
        cases v with
        | object ms =>
            simp only [contentViolations, List.append_eq_nil_iff]
            exact and_congr (hmissing ms) (hproperties ms)
        | array vs =>
            simp only [contentViolations, List.append_eq_nil_iff, hrules.countViolations_eq]
            exact and_congr_left' (hitems vs)
        | string text => rw [contentViolations, contentViolations, hrules.textViolations_eq]
        | number n => rw [contentViolations, contentViolations, hrules.boundViolations_eq]
        | null | bool => exact Iff.rfl
      cases htype : t.rules.wrongType? v with
      | some wanted =>
          have htype' : s.rules.wrongType? v = some wanted := hrules.wrongType?_eq v ▸ htype
          simp [violationsAt_of_wrongType htype, violationsAt_of_wrongType htype']
      | none =>
          have htype' : s.rules.wrongType? v = none := hrules.wrongType?_eq v ▸ htype
          simp only [violationsAt_of_rightType htype, violationsAt_of_rightType htype',
            List.append_eq_nil_iff, hbranches, hcontent, hrules.choiceViolations_eq]

/-- **Reorderings admit the same values.** -/
theorem Reordered.admits_iff {s t : Schema} (h : s.Reordered t) (v : Value) :
    s.Admits v ↔ t.Admits v :=
  h.violationsAt_eq_nil_iff [] v

end Schema

end JsonWorkbench
