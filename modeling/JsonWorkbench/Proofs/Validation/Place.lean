import JsonWorkbench.Path
import JsonWorkbench.Proofs.Difference.Walk
import JsonWorkbench.Proofs.Validation

/-!
# The Places of Violations

A violation is reported at a place that is there in the document. The one exception is a missing
key: the object that lacks it is there.

The walk visits a value with a schema and goes on to what is inside only if the value has the right
type. The branches of a choice are visited as well, but by walks of their own whose reports are
thrown away. What a report says at or below a visited place is what the visit of this place finds:
no other visit comes near, as the keys of properties differ. A value of the wrong type is therefore
one violation, at its place, and the only one at or below it.

## Main definitions

* `Violation.Cause.HasPlace` — the place of a violation is there.
* `Schema.Visits` — the visits of one walk.

## Main results

* `Schema.exists_place_of_mem` — where the violations of a walk are.
* `Schema.Visits.filter_violationsAt` — what a report says at or below a visited place.
* `Schema.violations_place` — both for the report on a document.
-/

namespace JsonWorkbench

/-! ### Places -/

/-- The place of something violated is there in a value, or it is a missing key of an object that is
there. -/
def Violation.Cause.HasPlace {φ : Type} (cause : Cause) (v : Value) (place : Segments φ) : Prop :=
  (locate v place).isSome ∨
    cause = .missing ∧ ∃ q k ms, place = q ++ [.key k] ∧ locate v q = some (.object ms) ∧
      Members.has ms k = false

/-- What has a place in a value has it, one segment further, in a value that has this one inside. -/
theorem Violation.Cause.HasPlace.step {φ : Type} {cause : Cause} {v w : Value} {s : Segment φ}
    {place : Segments φ} (h : cause.HasPlace w place) (hstep : step v s = some w) :
    cause.HasPlace v (s :: place) := by
  rcases h with hsome | ⟨rfl, q, k, ms, rfl, hobject, hlacks⟩
  · exact .inl (by rw [locate, hstep]; exact hsome)
  · exact .inr ⟨rfl, s :: q, k, ms, rfl, by rw [locate, hstep]; exact hobject, hlacks⟩

namespace Schema

variable {path p : Segments Empty} {v w x : Value} {s t u : Schema}

/-! ### One visit -/

/-- The values inside a value for which a schema has a schema, with the segments that lead there. -/
def inside (v : Value) (s : Schema) : List (Segment Empty × Value × Schema) :=
  match v with
  | .object ms => (s.properties.getD []).filterMap fun (k, u) =>
      (Members.get? ms k).map fun w => (.key k, w, u)
  | .array vs => s.items.toList.flatMap fun u => vs.zipIdx.map fun (w, i) => (.index i, w, u)
  | _ => []

/-- What is inside is one literal segment further. -/
theorem step_of_mem_inside {seg : Segment Empty} (h : (seg, w, u) ∈ inside v s) :
    step v seg = some w ∧ seg.isLiteral = true := by
  cases v with
  | object ms =>
      simp only [inside, List.mem_filterMap, Option.map_eq_some_iff, Prod.exists,
        Prod.mk.injEq] at h
      obtain ⟨k, u, -, w, hget, rfl, rfl, rfl⟩ := h
      exact ⟨hget, rfl⟩
  | array vs =>
      simp only [inside, List.mem_flatMap, List.mem_map, Prod.exists, Prod.mk.injEq] at h
      obtain ⟨u, -, w, i, hmem, rfl, rfl, rfl⟩ := h
      exact ⟨List.mk_mem_zipIdx_iff_getElem?.mp hmem, rfl⟩
  | null | bool | number | string => exact absurd h List.not_mem_nil

/-- Different segments lead to the values inside, if the keys of properties differ. -/
theorem nodup_inside (hs : ((s.properties.getD []).map (·.1)).Nodup) :
    ((inside v s).map (·.1)).Nodup := by
  cases v with
  | object ms =>
      rw [List.Nodup, List.pairwise_map] at hs ⊢
      refine hs.filterMap _ fun (k, u) (k', u') hne a ha b hb => ?_
      obtain ⟨w, -, rfl⟩ := Option.map_eq_some_iff.mp ha
      obtain ⟨w', -, rfl⟩ := Option.map_eq_some_iff.mp hb
      exact fun heq => hne (Segment.key.inj heq)
  | array vs =>
      cases hitems : s.items with
      | none => simp [inside, hitems]
      | some u =>
          have hindices : (inside (.array vs) s).map (·.1) =
              (List.range' 0 vs.length).map Segment.index := by
            rw [← List.zipIdx_map_snd, List.map_map]
            simp [inside, hitems, Function.comp_def]
          rw [hindices]
          exact (List.nodup_range').map fun i j heq => Segment.index.inj heq
  | null | bool | number | string => exact .nil

/-- A violation that a visit finds itself: at the path of the visit, or a key that an object
lacks. -/
def IsOwn (path : Segments Empty) (v : Value) (y : Violation) : Prop :=
  y.path = path ∨
    ∃ ms k, v = .object ms ∧ Members.has ms k = false ∧ y = ⟨path ++ [.key k], .missing⟩

/-- What is violated under a condition is violated at the path. -/
theorem eq_of_mem_violationIf {broken : Bool} {cause : Violation.Cause} {y : Violation}
    (h : y ∈ violationIf broken path cause) : broken = true ∧ y = { path, cause } := by
  rw [violationIf] at h
  split at h
  · exact ⟨by assumption, List.mem_singleton.mp h⟩
  · exact absurd h List.not_mem_nil

/-- A bound is violated at the path. -/
theorem path_of_mem_violationOf {α : Type} {bound : Option α} {broken : α → Bool}
    {cause : α → Violation.Cause} {y : Violation} (h : y ∈ violationOf path bound broken cause) :
    y.path = path := by
  cases bound with
  | none => exact absurd h List.not_mem_nil
  | some b => rw [(eq_of_mem_violationIf h).2]

/-- The rules for texts are violated at the path. -/
theorem path_of_mem_textViolations {r : Rules} {text : String} {y : Violation}
    (h : y ∈ r.textViolations path text) : y.path = path := by
  simp only [Rules.textViolations, List.mem_append, List.mem_flatMap] at h
  rcases h with ((h | h) | ⟨pattern, -, h⟩) | ⟨name, -, h⟩
  · exact path_of_mem_violationOf h
  · exact path_of_mem_violationOf h
  · rw [Rules.patternViolations] at h
    split at h
    · rw [(eq_of_mem_violationIf h).2]
    · rw [List.mem_singleton.mp h]
  · rw [Rules.formatViolations] at h
    split at h
    · rw [(eq_of_mem_violationIf h).2]
    · exact absurd h List.not_mem_nil

/-- A visit finds itself the missing keys of an object and the wrong number of items of an array,
and all that is wrong in a text or a number. -/
theorem exists_own_contentViolations (path : Segments Empty) (v : Value) (s : Schema) :
    ∃ before behind, contentViolations path v s =
        before ++ ((inside v s).flatMap fun (seg, w, u) => violationsAt (path ++ [seg]) w u) ++
          behind ∧
      (∀ y ∈ before, IsOwn path v y) ∧ ∀ y ∈ behind, IsOwn path v y := by
  cases v with
  | object ms =>
      refine ⟨s.rules.missingViolations path ms, [], ?_, fun y hy => ?_, by simp⟩
      · rw [contentViolations, propertiesViolations_eq_flatMap, List.append_nil, inside,
          List.filterMap_eq_flatMap_toList, List.flatMap_assoc]
        refine congrArg _ (List.flatMap_congr ?_)
        rintro ⟨k, u⟩ -
        cases hget : Members.get? ms k <;> simp [hget]
      · obtain ⟨k, -, hy⟩ := List.mem_flatMap.mp hy
        obtain ⟨hlacks, rfl⟩ := eq_of_mem_violationIf hy
        exact .inr ⟨ms, k, rfl, by simpa using hlacks, rfl⟩
  | array vs =>
      refine ⟨[], s.rules.countViolations path vs.length, ?_, by simp, fun y hy => ?_⟩
      · rw [contentViolations, itemsViolations_eq_flatMap, List.nil_append, inside,
          List.flatMap_assoc]
        simp only [List.flatMap_map]
      · rcases List.mem_append.mp hy with hy | hy <;> exact .inl (path_of_mem_violationOf hy)
  | string text =>
      exact ⟨s.rules.textViolations path text, [], by simp [contentViolations, inside],
        fun y hy => .inl (path_of_mem_textViolations hy), by simp⟩
  | number n =>
      refine ⟨s.rules.boundViolations path n.toFloat, [], by simp [contentViolations, inside],
        fun y hy => ?_, by simp⟩
      rcases List.mem_append.mp hy with hy | hy <;> exact .inl (path_of_mem_violationOf hy)
  | null | bool => exact ⟨[], [], rfl, by simp, by simp⟩

/-- **One step of the walk**: a visit of a value of the right type reports what it finds itself
around what the visits inside report. -/
theorem exists_own_violations (h : s.rules.wrongType? v = none) (path : Segments Empty) :
    ∃ before behind, violationsAt path v s =
        before ++ ((inside v s).flatMap fun (seg, w, u) => violationsAt (path ++ [seg]) w u) ++
          behind ∧
      (∀ y ∈ before, IsOwn path v y) ∧ ∀ y ∈ behind, IsOwn path v y := by
  have hbranches : ∀ y ∈ branchesViolations path v s.anyOf, IsOwn path v y := by
    intro y hy
    cases hanyOf : s.anyOf with
    | none => simp [hanyOf, branchesViolations] at hy
    | some ss =>
        rw [hanyOf, branchesViolations] at hy
        exact .inl (by rw [(eq_of_mem_violationIf hy).2])
  have hchoice : ∀ y ∈ s.rules.choiceViolations path v, IsOwn path v y := fun y hy =>
    .inl (path_of_mem_violationOf hy)
  obtain ⟨before, behind, heq, hbefore, hbehind⟩ := exists_own_contentViolations path v s
  refine ⟨branchesViolations path v s.anyOf ++ before,
    behind ++ s.rules.choiceViolations path v, ?_, ?_, ?_⟩
  · rw [violationsAt_of_rightType h, heq]
    simp only [List.append_assoc]
  · exact List.forall_mem_append.mpr ⟨hbranches, hbefore⟩
  · exact List.forall_mem_append.mpr ⟨hbehind, hchoice⟩

/-! ### Where violations are -/

/-- **The violations of a walk are at places** that are there in the value, behind the path at which
the walk begins. -/
theorem exists_place_of_mem {y : Violation} (h : y ∈ violationsAt path v s) :
    ∃ rest, y.path = path ++ rest ∧ rest.all Segment.isLiteral = true ∧
      y.cause.HasPlace v rest := by
  induction v using Value.induct_step (φ := Empty) generalizing s path with
  | ih v ih =>
      cases htype : s.rules.wrongType? v with
      | some wanted =>
          rw [violationsAt_of_wrongType htype, List.mem_singleton] at h
          subst h
          exact ⟨[], (List.append_nil path).symm, rfl, .inl rfl⟩
      | none =>
          obtain ⟨before, behind, heq, hbefore, hbehind⟩ := exists_own_violations htype path
          have hown : IsOwn path v y → ∃ rest, y.path = path ++ rest ∧
              rest.all Segment.isLiteral = true ∧ y.cause.HasPlace v rest := by
            rintro (hpath | ⟨ms, k, rfl, hlacks, rfl⟩)
            · exact ⟨[], by simp [hpath], rfl, .inl rfl⟩
            · exact ⟨[.key k], rfl, rfl, .inr ⟨rfl, [], k, ms, rfl, rfl, hlacks⟩⟩
          rw [heq, List.mem_append, List.mem_append, List.mem_flatMap] at h
          rcases h with (h | ⟨⟨seg, w, u⟩, hin, h⟩) | h
          · exact hown (hbefore y h)
          · obtain ⟨hstep, hlit⟩ := step_of_mem_inside hin
            obtain ⟨rest, hpath, hall, hplace⟩ := ih seg w hstep h
            refine ⟨seg :: rest, by rw [hpath, List.append_assoc, List.singleton_append], ?_,
              hplace.step hstep⟩
            rw [List.all_cons, hlit, hall, Bool.and_self]
          · exact hown (hbehind y h)

/-! ### What a report says of a place -/

/-- Schemas in which the keys of properties differ, at any depth. -/
inductive WellFormed : Schema → Prop
  | intro {s : Schema} (hkeys : ((s.properties.getD []).map (·.1)).Nodup)
      (hproperty : ∀ k u, (k, u) ∈ s.properties.getD [] → WellFormed u)
      (hitem : ∀ u, s.items = some u → WellFormed u)
      (hbranch : ∀ u ∈ s.anyOf.getD [], WellFormed u) : WellFormed s

/-- The visits of the walk that begins at `path` with the value `v` and the schema `s`: it visits
`x` at `p` with the schema `t`. -/
inductive Visits : Segments Empty → Value → Schema → Segments Empty → Value → Schema → Prop
  | here {path : Segments Empty} {v : Value} {s : Schema} : Visits path v s path v s
  | inside {path p : Segments Empty} {seg : Segment Empty} {v w x : Value} {s t u : Schema}
      (htype : s.rules.wrongType? v = none) (hmem : (seg, w, u) ∈ inside v s)
      (h : Visits (path ++ [seg]) w u p x t) : Visits path v s p x t

/-- The keys of properties differ. -/
theorem WellFormed.keys (hs : s.WellFormed) : ((s.properties.getD []).map (·.1)).Nodup := by
  cases hs with
  | intro hkeys => exact hkeys

/-- The schemas inside a schema in which the keys of properties differ are such schemas. -/
theorem WellFormed.of_mem_inside {seg : Segment Empty} (hs : s.WellFormed)
    (h : (seg, w, u) ∈ inside v s) : u.WellFormed := by
  obtain ⟨-, hproperty, hitem, -⟩ := hs
  cases v with
  | object ms =>
      simp only [inside, List.mem_filterMap, Option.map_eq_some_iff, Prod.exists,
        Prod.mk.injEq] at h
      obtain ⟨k, u, hmem, w, -, -, -, rfl⟩ := h
      exact hproperty k u hmem
  | array vs =>
      simp only [inside, List.mem_flatMap, List.mem_map, Option.mem_toList, Prod.exists,
        Prod.mk.injEq] at h
      obtain ⟨u, hu, w, i, -, -, -, rfl⟩ := h
      exact hitem u hu
  | null | bool | number | string => exact absurd h List.not_mem_nil

/-- A walk visits places behind the one at which it begins. -/
theorem Visits.behind (h : Visits path v s p x t) : path <+: p := by
  induction h with
  | here => exact List.prefix_refl _
  | inside _ _ _ ih => exact (List.prefix_append ..).trans ih

/-- What a visit finds itself is not at or below a place inside. -/
theorem IsOwn.not_below {seg : Segment Empty} {y : Violation} (h : IsOwn path v y)
    (hstep : step v seg = some w) : ¬ path ++ [seg] <+: y.path := by
  rcases h with hpath | ⟨ms, k, rfl, hlacks, rfl⟩
  · rw [hpath]
    intro hbelow
    have hlen := hbelow.length_le
    rw [List.length_append, List.length_singleton] at hlen
    omega
  · rw [List.prefix_append_right_inj, List.cons_prefix_cons]
    rintro ⟨rfl, -⟩
    rw [Members.has, Keyed.has, show Keyed.get? ms k = some w from hstep] at hlacks
    exact Bool.noConfusion hlacks

/-- What the visit of one value inside reports is not at or below another one. -/
theorem not_prefix_of_mem_inside {seg seg' : Segment Empty} {y : Violation} (hne : seg ≠ seg')
    (h : y ∈ violationsAt (path ++ [seg']) w u) : ¬ path ++ [seg] <+: y.path := by
  obtain ⟨rest, hpath, -⟩ := exists_place_of_mem h
  rw [hpath, List.append_assoc, List.prefix_append_right_inj, List.singleton_append,
    List.cons_prefix_cons]
  exact fun hbelow => hne hbelow.1

/-- **What a report says at or below a visited place** is what the visit of that place finds. -/
theorem Visits.filter_violationsAt (h : Visits path v s p x t) (hs : s.WellFormed) :
    (violationsAt path v s).filter (p.isPrefixOf ·.path) = violationsAt p x t := by
  induction h with
  | @here path v s =>
      refine List.filter_eq_self.mpr fun y hy => ?_
      obtain ⟨rest, hpath, -⟩ := exists_place_of_mem hy
      exact List.isPrefixOf_iff_prefix.mpr ⟨rest, hpath.symm⟩
  | @inside path p seg v w x s t u htype hmem h ih =>
      obtain ⟨before, behind, heq, hbefore, hbehind⟩ := exists_own_violations htype path
      obtain ⟨hstep, -⟩ := step_of_mem_inside hmem
      have hbelow : path ++ [seg] <+: p := h.behind
      -- what is not at or below the place inside is not at or below the one deeper inside
      have hnone : ∀ ys : List Violation, (∀ y ∈ ys, ¬ path ++ [seg] <+: y.path) →
          ys.filter (p.isPrefixOf ·.path) = [] := fun ys hys =>
        List.filter_eq_nil_iff.mpr fun y hy hp =>
          hys y hy (hbelow.trans (List.isPrefixOf_iff_prefix.mp hp))
      obtain ⟨others, others', hsplit⟩ := List.append_of_mem hmem
      have hothers : ∀ z ∈ others ++ others', seg ≠ z.1 := by
        have hnodup := nodup_inside (v := v) hs.keys
        rw [hsplit, (List.perm_middle.map _).nodup_iff, List.map_cons, List.nodup_cons] at hnodup
        exact fun z hz heq => hnodup.1 (List.mem_map.mpr ⟨z, hz, heq.symm⟩)
      have hinside : ∀ zs : List (Segment Empty × Value × Schema), (∀ z ∈ zs, seg ≠ z.1) →
          ((zs.flatMap fun (seg, w, u) => violationsAt (path ++ [seg]) w u).filter
            (p.isPrefixOf ·.path)) = [] := by
        intro zs hzs
        refine hnone _ fun y hy => ?_
        obtain ⟨z, hz, hy⟩ := List.mem_flatMap.mp hy
        exact not_prefix_of_mem_inside (hzs z hz) hy
      rw [heq, hsplit]
      simp only [List.flatMap_append, List.flatMap_cons, List.filter_append]
      rw [hnone before fun y hy => (hbefore y hy).not_below hstep,
        hnone behind fun y hy => (hbehind y hy).not_below hstep,
        hinside others fun z hz => hothers z (List.mem_append_left _ hz),
        hinside others' fun z hz => hothers z (List.mem_append_right _ hz),
        ih (hs.of_mem_inside hmem)]
      simp

end Schema

/-! ### Places as paths -/

/-- A segment without a filter, as one over any filters. -/
def Segment.widen {φ : Type} : Segment Empty → Segment φ
  | .key k => .key k
  | .index i => .index i
  | .wildcard => .wildcard
  | .slice first last => .slice first last
  | .descendant k => .descendant k

/-- The text of a segment does not depend on the filters there could be. -/
theorem segmentText_widen {φ : Type} (source : φ → String) (source' : Empty → String)
    (s : Segment Empty) : segmentText source s.widen = segmentText source' s := by
  cases s with
  | filter e => exact nomatch e
  | _ => rfl

/-- The text of a path does not depend on them. -/
theorem segmentsText_widen {φ : Type} (source : φ → String) (source' : Empty → String)
    (path : Segments Empty) :
    segmentsText source (path.map Segment.widen) = segmentsText source' path := by
  have hwiden : (fun s : Segment Empty => segmentText source s.widen) = segmentText source' :=
    funext (segmentText_widen source source')
  rw [segmentsText, segmentsText, List.flatMap_map, hwiden]

/-- The same segments are literal. -/
theorem Segment.isLiteral_widen {φ : Type} (s : Segment Empty) :
    (s.widen : Segment φ).isLiteral = s.isLiteral := by
  cases s with
  | filter e => exact nomatch e
  | _ => rfl

/-- The same segments lead to the same values. -/
theorem locate_widen {φ : Type} (v : Value) (place : Segments Empty) :
    locate v (place.map Segment.widen : Segments φ) = locate v place := by
  induction place generalizing v with
  | nil => rfl
  | cons s place ih =>
      have hstep : step v (s.widen : Segment φ) = step v s := by
        cases s with
        | filter e => exact nomatch e
        | _ => cases v <;> rfl
      rw [List.map_cons, locate, locate, hstep]
      exact congrArg _ (funext ih)

/-- A place is there over any filters. -/
theorem Violation.Cause.HasPlace.widen {φ : Type} {cause : Cause} {v : Value}
    {place : Segments Empty} (h : cause.HasPlace v place) :
    cause.HasPlace v (place.map Segment.widen : Segments φ) := by
  rcases h with hsome | ⟨rfl, q, k, ms, rfl, hobject, hlacks⟩
  · exact .inl (by rwa [locate_widen])
  · exact .inr ⟨rfl, q.map Segment.widen, k, ms, List.map_append, by rwa [locate_widen], hlacks⟩

namespace Schema

/-- **Every violation points at a real place.** Its path is the text of a path of keys and indices
that leads to a value in the document, or to a missing key of an object in the document. Where a
walk finds the wrong type, that is the only violation it reports at or below the place. -/
theorem violations_place (v : Value) (s : Schema) :
    (∀ y ∈ s.violations v, ∃ p : Path, p.isLiteral = true ∧ y.pathText = p.text ∧
      y.cause.HasPlace v p) ∧
    (s.WellFormed → ∀ path p w t wanted, Visits path v s p w t →
      t.rules.wrongType? w = some wanted →
        (violationsAt path v s).filter (p.isPrefixOf ·.path) =
          [{ path := p, cause := .wrongType wanted (TypeName.ofValue w) }]) := by
  refine ⟨fun y hy => ?_, fun hs path p w t wanted hvisit htype => ?_⟩
  · obtain ⟨rest, hpath, hliteral, hplace⟩ := exists_place_of_mem hy
    obtain rfl : y.path = rest := hpath
    refine ⟨y.path.map Segment.widen, ?_, ?_, hplace.widen⟩
    · simpa only [Path.isLiteral, List.all_map, Function.comp_def,
        Segment.isLiteral_widen] using hliteral
    · exact (segmentsText_widen Condition.source _ y.path).symm
  · rw [hvisit.filter_violationsAt hs, violationsAt_of_wrongType htype]

/-- An object is asked for, with an object that has a key and with a text. -/
def nestedRules : Schema :=
  { rules := { type := some (.one .object), required := some ["c"] }
    properties := some [
      ("a", { rules := { type := some (.one .object), required := some ["x"] } }),
      ("b", .ofType .string)] }

/-- Numbers where an object and a text are asked for, and nothing under the third key. -/
def flatDocument : Value := .object [("a", .int 1), ("b", .int 2)]

/-- The mismatch in the first member hides its missing key, and not the mismatch in the second. -/
theorem violations_place_flatDocument :
    nestedRules.WellFormed ∧
      Visits [] flatDocument nestedRules [.key "b"] (.int 2) (.ofType .string) ∧
      (Schema.ofType .string).rules.wrongType? (.int 2) = some (.one .string) ∧
      (nestedRules.violations flatDocument).map Violation.pathText = ["$.c", "$.a", "$.b"] ∧
      (violationsAt [] flatDocument nestedRules).filter ([Segment.key "b"].isPrefixOf ·.path) =
        [{ path := [.key "b"], cause := .wrongType (.one .string) .integer }] := by
  have hleaf : ∀ u : Schema, u.properties = none → u.items = none → u.anyOf = none →
      u.WellFormed := fun u hproperties hitems hanyOf =>
    .intro (by simp [hproperties]) (by simp [hproperties]) (by simp [hitems]) (by simp [hanyOf])
  have hs : nestedRules.WellFormed := by
    refine .intro (by decide) (fun k u hu => ?_) (by simp [nestedRules]) (by simp [nestedRules])
    simp only [nestedRules, Option.getD_some, List.mem_cons, Prod.mk.injEq, List.not_mem_nil,
      or_false] at hu
    rcases hu with ⟨-, rfl⟩ | ⟨-, rfl⟩ <;> exact hleaf _ rfl rfl rfl
  have hvisit : Visits [] flatDocument nestedRules [.key "b"] (.int 2) (.ofType .string) :=
    .inside rfl (by simp [inside, nestedRules, flatDocument, Members.get?, Keyed.get?]) .here
  exact ⟨hs, hvisit, rfl, by rfl,
    (violations_place flatDocument nestedRules).2 hs [] _ _ _ _ hvisit rfl⟩

end Schema

end JsonWorkbench
