import JsonWorkbench.Schema.Validation

/-!
# Validation, Place by Place

What a schema finds wrong in a value is what its rules find, what its branches find, and what is
found inside the value: in the members of an object, in the items of an array. Each of these parts
is described here by the violations inside, so that no proof about validation opens the walk again.

## Main definitions

* `Schema.contentViolations` — the violations inside a value.

## Main results

* `Schema.violationsAt_of_wrongType`, `Schema.violationsAt_of_rightType` — one step of the walk.
-/

namespace JsonWorkbench.Schema

/-! ### One step of the walk -/

/-- What a schema finds wrong inside a value that has the right type. -/
def contentViolations (path : Segments Empty) (v : Value) (s : Schema) : List Violation :=
  match v with
  | .object ms => s.rules.missingViolations path ms ++ propertiesViolations path ms s.properties
  | .array vs => itemsViolations path vs s.items ++ s.rules.countViolations path vs.length
  | .string text => s.rules.textViolations path text
  | .number n => s.rules.boundViolations path n.toFloat
  | _ => []

/-- A value of the wrong type violates that and nothing else. -/
theorem violationsAt_of_wrongType {path : Segments Empty} {v : Value} {s : Schema}
    {wanted : TypeSpec} (h : s.rules.wrongType? v = some wanted) :
    violationsAt path v s = [{ path, cause := .wrongType wanted (TypeName.ofValue v) }] := by
  cases s
  simp only [violationsAt, h]

/-- A value of the right type violates what its branches, its content and its choices find. -/
theorem violationsAt_of_rightType {path : Segments Empty} {v : Value} {s : Schema}
    (h : s.rules.wrongType? v = none) :
    violationsAt path v s =
      branchesViolations path v s.anyOf ++ contentViolations path v s ++
        s.rules.choiceViolations path v := by
  cases s
  cases v <;> simp only [violationsAt, h, contentViolations]

/-! ### The parts of a schema -/

/-- A choice is met if one of its branches finds nothing wrong. -/
theorem satisfiesSome_eq_any (path : Segments Empty) (v : Value) (ss : List Schema) :
    satisfiesSome path v ss = ss.any fun s => (violationsAt path v s).isEmpty := by
  induction ss with
  | nil => rfl
  | cons s ss ih => rw [satisfiesSome, List.any_cons, ih]

/-- What properties find wrong, key by key. -/
theorem propertiesViolations_eq_flatMap (path : Segments Empty) (ms : Members)
    (properties : Option (List (String × Schema))) :
    propertiesViolations path ms properties =
      (properties.getD []).flatMap fun (k, s) =>
        (Members.get? ms k).toList.flatMap fun v => violationsAt (path ++ [.key k]) v s := by
  cases properties with
  | none => rfl
  | some ps =>
      rw [propertiesViolations, Option.getD_some]
      induction ps with
      | nil => rfl
      | cons p ps ih =>
          rw [memberViolations, List.flatMap_cons, ih]
          cases hget : Members.get? ms p.1 <;> simp [hget]

/-- What a schema for items finds wrong, item by item. -/
theorem itemsViolations_eq_flatMap (path : Segments Empty) (vs : List Value)
    (items : Option Schema) :
    itemsViolations path vs items =
      items.toList.flatMap fun s =>
        vs.zipIdx.flatMap fun (v, i) => violationsAt (path ++ [.index i]) v s := by
  cases items <;> simp [itemsViolations]

/-! ### Nothing wrong -/

/-- A choice finds nothing wrong exactly if there is none, or one of its branches finds nothing
wrong. -/
theorem branchesViolations_eq_nil_iff {path : Segments Empty} {v : Value}
    {anyOf : Option (List Schema)} :
    branchesViolations path v anyOf = [] ↔
      (anyOf.isSome → ∃ s ∈ anyOf.getD [], violationsAt path v s = []) := by
  cases anyOf with
  | none => simp [branchesViolations]
  | some ss => simp [branchesViolations, violationIf, satisfiesSome_eq_any]

/-- Properties find nothing wrong exactly if none of them does. -/
theorem propertiesViolations_eq_nil_iff {path : Segments Empty} {ms : Members}
    {properties : Option (List (String × Schema))} :
    propertiesViolations path ms properties = [] ↔
      ∀ k s v, (k, s) ∈ properties.getD [] → Members.get? ms k = some v →
        violationsAt (path ++ [.key k]) v s = [] := by
  simp only [propertiesViolations_eq_flatMap, List.flatMap_eq_nil_iff, Prod.forall,
    Option.mem_toList]
  exact forall₂_congr fun k s => ⟨fun h v hmem => h hmem v, fun h hmem v => h v hmem⟩

/-- A schema for items finds nothing wrong exactly if it does so for each of them. -/
theorem itemsViolations_eq_nil_iff {path : Segments Empty} {vs : List Value}
    {items : Option Schema} :
    itemsViolations path vs items = [] ↔
      ∀ s, items = some s → ∀ v i, (v, i) ∈ vs.zipIdx →
        violationsAt (path ++ [.index i]) v s = [] := by
  simp only [itemsViolations_eq_flatMap, List.flatMap_eq_nil_iff, Prod.forall,
    Option.mem_toList]

end JsonWorkbench.Schema
