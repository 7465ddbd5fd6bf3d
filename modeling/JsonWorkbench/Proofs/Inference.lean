import JsonWorkbench.Proofs.Keyed
import JsonWorkbench.Proofs.Validation
import JsonWorkbench.Proofs.Value
import JsonWorkbench.Schema.Inference
import Mathlib.Data.List.Perm.Subperm
import Mathlib.Data.List.Nodup

/-!
# Inferred Schemas Admit Their Samples

A document violates nothing of the schema that is inferred from it, provided that no array is so
long that some of its items are not looked at.

Admission alone is not kept by merging: a schema that says nothing of a key admits an object with
that key, and the schema it is merged with may say something of it. What is kept is **coverage**:
a schema covers a value if it admits it and, at every depth, has a property for each key of an
object and a schema for the items of an array. Merging is looked at through the five shapes that
inferred schemas have (`Inferred`); other schemas can be merged too, but are never inferred.

## Main results

* `Covers.violationsAt_eq_nil` — a value violates nothing of a schema that covers it.
* `covers_mergeWithin` — a merged schema covers whatever one of the samples covers.
* `covers_infer` — an inferred schema covers the value.
* `violations_infer` — a value violates nothing of the schema inferred from it.
-/

namespace JsonWorkbench.Schema

/-! ### The shapes of inferred schemas -/

/-- The schema of a scalar: a type and perhaps a format. -/
def ofScalar (t : TypeName) (format : Option String) : Schema :=
  { rules := { type := some (.one t), format } }

/-- The schema that offers a choice and says nothing else. -/
def ofBranches (ss : List Schema) : Schema := { anyOf := some ss }

/-- The types of containers. -/
def isContainerType : TypeName → Bool
  | .object | .array => true
  | _ => false

/-- The schemas that inference can give. -/
inductive Inferred : Schema → Prop
  /-- The items of an empty array. -/
  | unknown : Inferred {}
  | scalar {t : TypeName} {format : Option String} (ht : isContainerType t = false) :
      Inferred (ofScalar t format)
  | items {s : Schema} (h : Inferred s) : Inferred (ofItems s)
  | properties {ps : List (String × Schema)} {required : List String}
      (hps : (ps.map (·.1)).Nodup) (h : ∀ k s, (k, s) ∈ ps → Inferred s) :
      Inferred (ofProperties ps required)
  | branches {ss : List Schema} (h : ∀ s ∈ ss, Inferred s) : Inferred (ofBranches ss)

/-- A text has the format with a name, if the name is that of a format. -/
def HasFormat (text name : String) : Prop :=
  ∀ f, TextFormat.ofName? name = some f → f.admits text = true

/-- A schema **covers** a value: it admits it and has a place for everything in it. -/
inductive Covers : Schema → Value → Prop
  | scalar {v : Value} {format : Option String} (hv : v.isContainer = false)
      (hf : ∀ text name, v = .string text → format = some name → HasFormat text name) :
      Covers (ofScalar (TypeName.ofValue v) format) v
  | items {s : Schema} {vs : List Value} (h : ∀ v ∈ vs, Covers s v) :
      Covers (ofItems s) (.array vs)
  | properties {ps : List (String × Schema)} {required : List String} {ms : Members}
      (hps : (ps.map (·.1)).Nodup) (hreq : ∀ k ∈ required, Members.has ms k = true)
      (hkeys : ∀ k v, Members.get? ms k = some v → ∃ s, (k, s) ∈ ps)
      (h : ∀ k v s, Members.get? ms k = some v → (k, s) ∈ ps → Covers s v) :
      Covers (ofProperties ps required) (.object ms)
  | branch {ss : List Schema} {s : Schema} {v : Value} (hs : s ∈ ss) (h : Covers s v) :
      Covers (ofBranches ss) v

/-! ### Coverage and admission -/

/-- The type of a value is right if it is asked for. -/
theorem wrongType?_eq_none {r : Rules} {v : Value} (h : r.type = some (.one (TypeName.ofValue v))) :
    r.wrongType? v = none := by
  simp [Rules.wrongType?, h, TypeSpec.accepts, TypeName.accepts]

/-- A list is kept as it is, unless it is empty. -/
theorem getD_nonEmpty? {α : Type} (xs : List α) : (nonEmpty? xs).getD [] = xs := by
  cases xs <;> rfl

/-- A text violates nothing of the schema of a scalar whose format it has. -/
theorem violationsAt_ofScalar {path : Segments Empty} {v : Value} {format : Option String}
    (hv : v.isContainer = false)
    (hf : ∀ text name, v = .string text → format = some name → HasFormat text name) :
    violationsAt path v (ofScalar (TypeName.ofValue v) format) = [] := by
  have htype : Rules.wrongType? { type := some (.one (TypeName.ofValue v)), format } v = none :=
    wrongType?_eq_none rfl
  cases v with
  | null | bool b | number n =>
      rw [ofScalar, violationsAt, htype] <;>
        simp [branchesViolations, Rules.boundViolations, Rules.choiceViolations, violationOf]
  | string text =>
      have hformat : (format.toList.flatMap (Rules.formatViolations path text)) = [] := by
        rw [List.flatMap_eq_nil_iff]
        intro name hname
        rw [Rules.formatViolations]
        cases hofName : TextFormat.ofName? name with
        | none => rfl
        | some f => simp [violationIf, hf text name rfl (Option.mem_toList.mp hname) f hofName]
      rw [ofScalar, violationsAt, htype]
      simp [branchesViolations, Rules.textViolations, Rules.choiceViolations, violationOf, hformat]
  | array vs | object ms => simp [Value.isContainer] at hv

/-- **A value violates nothing of a schema that covers it.** -/
theorem Covers.violationsAt_eq_nil {s : Schema} {v : Value} (h : Covers s v)
    (path : Segments Empty) : violationsAt path v s = [] := by
  induction h generalizing path with
  | scalar hv hf => exact violationsAt_ofScalar hv hf
  | @items s vs h ih =>
      have hitems : itemsViolations path vs (some s) = [] := by
        rw [itemsViolations, List.flatMap_eq_nil_iff]
        rintro ⟨v, i⟩ hvi
        exact ih v (List.fst_mem_of_mem_zipIdx hvi) _
      have htype : Rules.wrongType? { type := some (.one .array) } (.array vs) = none :=
        wrongType?_eq_none rfl
      rw [ofItems, violationsAt, htype]
      simp [branchesViolations, hitems, Rules.countViolations, Rules.choiceViolations, violationOf]
  | @properties ps required ms hps hreq hkeys h ih =>
      let r : Rules := { type := some (.one .object), required := nonEmpty? required }
      have htype : r.wrongType? (.object ms) = none := wrongType?_eq_none rfl
      have hmissing : r.missingViolations path ms = [] := by
        rw [Rules.missingViolations, getD_nonEmpty?, List.flatMap_eq_nil_iff]
        intro k hk
        simp [violationIf, hreq k hk]
      have hmembers : propertiesViolations path ms (some ps) = [] :=
        propertiesViolations_eq_nil_iff.mpr fun k s v hs hv => ih k v s hv hs _
      rw [ofProperties, violationsAt, htype]
      simp only [branchesViolations, hmissing, hmembers, Rules.choiceViolations, violationOf, r,
        List.append_nil]
  | @branch ss s v hs h ih =>
      have hbranches : branchesViolations path v (some ss) = [] :=
        branchesViolations_eq_nil_iff.mpr fun _ => ⟨s, hs, ih path⟩
      cases v <;>
        simp [ofBranches, violationsAt, Rules.wrongType?, hbranches,
          Rules.choiceViolations, Rules.missingViolations, propertiesViolations, itemsViolations,
          Rules.countViolations, Rules.textViolations, Rules.boundViolations, violationOf]

/-! ### Equal schemas -/

/-- What is equal to the schema of a scalar is that schema. -/
theorem Inferred.eq_ofScalar {s : Schema} {t : TypeName} {format : Option String}
    (hs : Inferred s) (h : s.same (ofScalar t format) = true) : s = ofScalar t format := by
  cases hs with
  | scalar ht =>
      simp only [ofScalar, same, Rules.same, Bool.and_eq_true, beq_iff_eq] at h
      obtain ⟨⟨⟨h, -⟩, -⟩, -⟩ := h
      simp only [true_and, and_true, Option.some.injEq, TypeSpec.one.injEq] at h
      rw [h.1.1.1.1, h.1.1.1.2]
  | _ => simp [ofScalar, ofItems, ofProperties, ofBranches, same, Rules.same, sameProperties?,
      sameItem?, sameBranches?] at h

/-- What is equal to the schema of an array is the schema of an array with equal items. -/
theorem Inferred.eq_ofItems {s t : Schema} (hs : Inferred s) (h : s.same (ofItems t) = true) :
    ∃ u, s = ofItems u ∧ Inferred u ∧ u.same t = true := by
  cases hs with
  | @items u hu =>
      simp only [ofItems, same, sameItem?, Bool.and_eq_true] at h
      obtain ⟨⟨-, hut⟩, -⟩ := h
      exact ⟨u, rfl, hu, hut⟩
  | _ => simp [ofScalar, ofItems, ofProperties, ofBranches, same, Rules.same, sameProperties?,
      sameItem?, sameBranches?] at h

/-- Equal properties have equal schemas under the same keys. -/
theorem sameProperties_iff {ps qs : List (String × Schema)} :
    sameProperties ps qs = true ↔
      ∀ k s, (k, s) ∈ ps → ∃ t, Keyed.get? qs k = some t ∧ s.same t = true := by
  induction ps with
  | nil => simp [sameProperties]
  | cons p ps ih =>
      obtain ⟨k, s⟩ := p
      rw [sameProperties, Bool.and_eq_true, ih, Keyed.forall_mem_cons]
      cases Keyed.get? qs k <;> simp

/-- What is equal to the schema of an object is the schema of an object that requires the same
keys and has equal properties. -/
theorem Inferred.eq_ofProperties {s : Schema} {qs : List (String × Schema)}
    {required : List String} (hs : Inferred s) (h : s.same (ofProperties qs required) = true) :
    ∃ ps, s = ofProperties ps required ∧ (ps.map (·.1)).Nodup ∧ ps.length = qs.length ∧
      (∀ k u, (k, u) ∈ ps → Inferred u) ∧
      ∀ k u, (k, u) ∈ ps → ∃ t, Keyed.get? qs k = some t ∧ u.same t = true := by
  cases hs with
  | @properties ps required' hps hinf =>
      simp only [ofProperties, same, Rules.same, sameProperties?, Bool.and_eq_true,
        beq_iff_eq] at h
      obtain ⟨⟨⟨hrules, hlen, hsame⟩, -⟩, -⟩ := h
      have hreq : required' = required := by
        rw [← getD_nonEmpty? required', ← getD_nonEmpty? required, hrules.1.1.1.1.1.1.1.1.1.2]
      exact ⟨ps, by rw [hreq], hps, hlen, hinf, sameProperties_iff.mp hsame⟩
  | _ => simp [ofScalar, ofItems, ofProperties, ofBranches, same, Rules.same, sameProperties?,
      sameItem?, sameBranches?] at h

/-- Every branch of one of two equal choices has an equal branch on the other side. -/
theorem exists_same_of_sameBranches {ss ts : List Schema} (h : sameBranches ss ts = true)
    {t : Schema} (ht : t ∈ ts) : ∃ s ∈ ss, s.same t = true := by
  induction ss generalizing ts with
  | nil =>
      cases ts with
      | nil => simp at ht
      | cons => simp [sameBranches] at h
  | cons s ss ih =>
      cases ts with
      | nil => simp [sameBranches] at h
      | cons t' ts =>
          rw [sameBranches, Bool.and_eq_true] at h
          rcases List.mem_cons.mp ht with rfl | ht
          · exact ⟨s, List.mem_cons_self .., h.1⟩
          · obtain ⟨u, hu, hut⟩ := ih h.2 ht
            exact ⟨u, List.mem_cons_of_mem _ hu, hut⟩

/-- What is equal to a choice is a choice with equal branches. -/
theorem Inferred.eq_ofBranches {s : Schema} {ts : List Schema} (hs : Inferred s)
    (h : s.same (ofBranches ts) = true) :
    ∃ ss, s = ofBranches ss ∧ (∀ u ∈ ss, Inferred u) ∧ sameBranches ss ts = true := by
  cases hs with
  | @branches ss hss =>
      simp only [ofBranches, same, sameBranches?, Bool.and_eq_true] at h
      obtain ⟨-, hsame⟩ := h
      exact ⟨ss, rfl, hss, hsame⟩
  | _ => simp [ofScalar, ofItems, ofProperties, ofBranches, same, Rules.same, sameProperties?,
      sameItem?, sameBranches?] at h

/-- Equal schemas have a place for the same keys. -/
theorem mem_keys_of_same {ps qs : List (String × Schema)} (hps : (ps.map (·.1)).Nodup)
    (hlen : ps.length = qs.length)
    (h : ∀ k u, (k, u) ∈ ps → ∃ t, Keyed.get? qs k = some t ∧ u.same t = true) {k : String}
    {t : Schema} (ht : (k, t) ∈ qs) : ∃ u, (k, u) ∈ ps := by
  have hsub : ps.map (·.1) ⊆ qs.map (·.1) := by
    intro key hkey
    obtain ⟨⟨key, u⟩, hmem, rfl⟩ := List.mem_map.mp hkey
    obtain ⟨t, hget, -⟩ := h key u hmem
    exact List.mem_map.mpr ⟨_, Keyed.mem_of_get? hget, rfl⟩
  have hperm : (ps.map (·.1)).Perm (qs.map (·.1)) :=
    (hps.subperm hsub).perm_of_length_le (by simp [hlen])
  have hk : k ∈ ps.map (·.1) := hperm.mem_iff.mpr (List.mem_map.mpr ⟨_, ht, rfl⟩)
  obtain ⟨⟨k, u⟩, hmem, rfl⟩ := List.mem_map.mp hk
  exact ⟨u, hmem⟩

/-- Equal schemas cover the same values. -/
theorem Covers.of_same {s t : Schema} {v : Value} (h : Covers t v) (hs : Inferred s)
    (hst : s.same t = true) : Covers s v := by
  induction h generalizing s with
  | scalar hv hf =>
      rw [hs.eq_ofScalar hst]
      exact .scalar hv hf
  | @items t vs h ih =>
      obtain ⟨u, rfl, hu, hut⟩ := hs.eq_ofItems hst
      exact .items fun v hv => ih v hv hu hut
  | @properties qs required ms hqs hreq hkeys h ih =>
      obtain ⟨ps, rfl, hps, hlen, hinf, hsame⟩ := hs.eq_ofProperties hst
      refine .properties hps hreq ?_ ?_
      · intro k v hv
        obtain ⟨t, ht⟩ := hkeys k v hv
        exact mem_keys_of_same hps hlen hsame ht
      · intro k v u hv hu
        obtain ⟨t, hget, hut⟩ := hsame k u hu
        exact ih k v t hv (Keyed.mem_of_get? hget) (hinf k u hu) hut
  | @branch ts t v ht h ih =>
      obtain ⟨ss, rfl, hss, hsame⟩ := hs.eq_ofBranches hst
      obtain ⟨s, hs, hst⟩ := exists_same_of_sameBranches hsame ht
      exact .branch hs (ih (hss s hs) hst)

/-! ### Distinct schemas -/

/-- Dropping repetitions invents no schema. -/
theorem mem_of_mem_distinctFrom {kept ss : List Schema} {s : Schema}
    (h : s ∈ distinctFrom kept ss) : s ∈ kept ∨ s ∈ ss := by
  induction ss generalizing kept with
  | nil => exact .inl h
  | cons t ss ih =>
      rw [distinctFrom] at h
      split at h
      · exact (ih h).imp_right (List.mem_cons_of_mem _)
      · rcases ih h with h | h
        · rw [List.mem_append, List.mem_singleton] at h
          exact h.imp_right fun h => List.mem_cons.mpr (.inl h)
        · exact .inr (List.mem_cons_of_mem _ h)

/-- The schemas that are kept stay. -/
theorem mem_distinctFrom_of_kept {kept ss : List Schema} {s : Schema} (h : s ∈ kept) :
    s ∈ distinctFrom kept ss := by
  induction ss generalizing kept with
  | nil => exact h
  | cons t ss ih =>
      rw [distinctFrom]
      split
      · exact ih h
      · exact ih (List.mem_append_left _ h)

/-- Every schema is among the distinct ones, or one that is equal to it is. -/
theorem exists_mem_distinctFrom {kept ss : List Schema} {s : Schema} (h : s ∈ ss) :
    ∃ t ∈ distinctFrom kept ss, t = s ∨ t.same s = true := by
  induction ss generalizing kept with
  | nil => simp at h
  | cons u ss ih =>
      rw [distinctFrom]
      rcases List.mem_cons.mp h with rfl | h
      · split
        · rename_i hany
          obtain ⟨t, ht, hsame⟩ := List.any_eq_true.mp hany
          exact ⟨t, mem_distinctFrom_of_kept ht, .inr hsame⟩
        · exact ⟨s, mem_distinctFrom_of_kept (by simp), .inl rfl⟩
      · split
        · exact ih h
        · exact ih h

/-- Distinct schemas are schemas of the list. -/
theorem mem_of_mem_distinct {ss : List Schema} {s : Schema} (h : s ∈ distinct ss) : s ∈ ss :=
  (mem_of_mem_distinctFrom h).resolve_left (by simp)

/-- What a schema covers, one of the distinct schemas covers. -/
theorem exists_covers_of_distinct {ss : List Schema} (hss : ∀ s ∈ ss, Inferred s) {s : Schema}
    {v : Value} (hs : s ∈ ss) (h : Covers s v) : ∃ t ∈ distinct ss, Covers t v := by
  have hex : ∃ t ∈ distinct ss, t = s ∨ t.same s = true := exists_mem_distinctFrom hs
  obtain ⟨t, ht, rfl | hsame⟩ := hex
  · exact ⟨t, ht, h⟩
  · exact ⟨t, ht, h.of_same (hss t (mem_of_mem_distinct ht)) hsame⟩

/-! ### Properties by key -/

/-- The schemas that a key has had. -/
def variants (gs : Groups) (key : String) : List Schema := (Keyed.get? gs key).getD []

/-- Adding a schema is putting it behind those that its key has had. -/
theorem add_eq_insert (gs : Groups) (key : String) (s : Schema) :
    gs.add key s = Keyed.insert gs key (variants gs key ++ [s]) := by
  induction gs with
  | nil => rfl
  | cons g gs ih =>
      obtain ⟨k, ss⟩ := g
      by_cases hk : k = key
      · simp [Groups.add, Keyed.insert, variants, Keyed.get?, hk]
      · simp only [Groups.add, Keyed.insert, hk, if_false, List.cons.injEq, true_and]
        simpa [variants, Keyed.get?, hk] using ih

/-- The schemas that a key has had after one more. -/
theorem variants_add (gs : Groups) (key key' : String) (s : Schema) :
    variants (gs.add key s) key' =
      if key = key' then variants gs key' ++ [s] else variants gs key' := by
  rw [add_eq_insert, variants, Keyed.get?_insert]
  split
  · rename_i h
    rw [h, Option.getD_some]
  · rfl

/-- Grouping repeats no key, and collects under each key the schemas it has, in order. -/
theorem foldl_add (gs : Groups) (hgs : (gs.map (·.1)).Nodup) (ps : List (String × Schema)) :
    ((ps.foldl (fun gs (k, s) => gs.add k s) gs).map (·.1)).Nodup ∧
      ∀ key, variants (ps.foldl (fun gs (k, s) => gs.add k s) gs) key =
        variants gs key ++ (ps.filter (·.1 = key)).map (·.2) := by
  induction ps generalizing gs with
  | nil => exact ⟨hgs, by simp⟩
  | cons p ps ih =>
      obtain ⟨k, s⟩ := p
      have hadd : ((gs.add k s).map (·.1)).Nodup := by
        rw [add_eq_insert]
        exact Keyed.nodup_insert hgs k _
      obtain ⟨hnodup, hvariants⟩ := ih (gs.add k s) hadd
      refine ⟨hnodup, fun key => ?_⟩
      rw [List.foldl_cons, hvariants key, variants_add]
      by_cases hk : k = key
      · simp [hk]
      · simp [hk]

/-- No key has two groups. -/
theorem nodup_groups (ss : List Schema) : ((groups ss).map (·.1)).Nodup :=
  (foldl_add [] (by simp) _).1

/-- The schemas in the group of a key are those that the samples have as its property. -/
theorem mem_variants_groups {ss : List Schema} {key : String} {u : Schema} :
    u ∈ variants (groups ss) key ↔ ∃ s ∈ ss, (key, u) ∈ s.properties.getD [] := by
  rw [groups, (foldl_add [] (by simp) _).2]
  simp [variants, Keyed.get?]

/-- A group holds the schemas that its key has had. -/
theorem variants_eq_of_mem {ss us : List Schema} {key : String} (h : (key, us) ∈ groups ss) :
    variants (groups ss) key = us := by
  rw [variants, Keyed.get?_of_mem (nodup_groups ss) h, Option.getD_some]

/-- A key that has had a schema has a group. -/
theorem exists_mem_groups {ss : List Schema} {key : String} {u : Schema}
    (h : u ∈ variants (groups ss) key) : ∃ us, (key, us) ∈ groups ss ∧ u ∈ us := by
  rw [variants] at h
  cases hget : Keyed.get? (groups ss) key with
  | none => simp [hget] at h
  | some us => exact ⟨us, Keyed.mem_of_get? hget, by simpa [hget] using h⟩

/-! ### Merging -/

/-- The schemas in a group stand inside the samples. -/
theorem mem_properties_of_mem_groups {ss us : List Schema} {key : String} {u : Schema}
    (h : (key, us) ∈ groups ss) (hu : u ∈ us) : ∃ s ∈ ss, (key, u) ∈ s.properties.getD [] := by
  rw [← variants_eq_of_mem h] at hu
  exact mem_variants_groups.mp hu

/-- A schema is nested less deep than one that has it as a property. -/
theorem depth_lt_of_property {s u : Schema} {key : String}
    (h : (key, u) ∈ s.properties.getD []) : u.depth < s.depth := by
  obtain ⟨rules, properties, items, anyOf⟩ := s
  cases properties with
  | none => simp at h
  | some ps =>
      have hle : u.depth ≤ depthProperties ps := by
        simp only [Option.getD_some] at h
        induction ps with
        | nil => simp at h
        | cons p ps ih =>
            rcases List.mem_cons.mp h with rfl | h
            · exact Nat.le_max_left _ _
            · exact Nat.le_trans (ih h) (Nat.le_max_right _ _)
      simp only [depth, depthProperties?]
      omega

/-- A schema is nested less deep than one that has it for its items. -/
theorem depth_lt_of_items {s u : Schema} (h : s.items = some u) : u.depth < s.depth := by
  obtain ⟨rules, properties, items, anyOf⟩ := s
  obtain rfl : items = some u := h
  simp only [depth, depthItem?]
  omega

/-- A schema is nested at most as deep as a list that has it. -/
theorem depth_le_of_mem {ss : List Schema} {s : Schema} (h : s ∈ ss) :
    s.depth ≤ depthBranches ss := by
  induction ss with
  | nil => simp at h
  | cons t ss ih =>
      rcases List.mem_cons.mp h with rfl | h
      · exact Nat.le_max_left _ _
      · exact Nat.le_trans (ih h) (Nat.le_max_right _ _)

/-- The properties of an inferred schema are inferred. -/
theorem Inferred.of_property {s u : Schema} {key : String} (hs : Inferred s)
    (h : (key, u) ∈ s.properties.getD []) : Inferred u := by
  cases hs with
  | properties hps hinf => exact hinf key u h
  | _ => simp [ofScalar, ofItems, ofBranches] at h

/-- The schema for the items of an inferred schema is inferred. -/
theorem Inferred.of_items {s u : Schema} (hs : Inferred s) (h : s.items = some u) :
    Inferred u := by
  cases hs with
  | items hinf =>
      obtain rfl := Option.some.inj h
      exact hinf
  | _ => simp [ofScalar, ofProperties, ofBranches] at h

/-- An inferred schema for a type that is no container has this type and perhaps a format. -/
theorem Inferred.eq_ofScalar_of_singleType {s : Schema} {t : TypeName} (hs : Inferred s)
    (h : s.singleType = some t) (ht : isContainerType t = false) :
    s = ofScalar t s.rules.format := by
  cases hs with
  | scalar hscalar =>
      obtain rfl := Option.some.inj h
      rfl
  | items hinf =>
      obtain rfl := Option.some.inj h
      simp [isContainerType] at ht
  | properties hps hinf =>
      obtain rfl := Option.some.inj h
      simp [isContainerType] at ht
  | unknown | branches => simp [singleType, ofBranches] at h

/-- The type of a value that is no container is the type of no container. -/
theorem isContainerType_ofValue {v : Value} (h : v.isContainer = false) :
    isContainerType (TypeName.ofValue v) = false := by
  cases v with
  | number n => cases hn : n.isWhole <;> simp [TypeName.ofValue, isContainerType, hn]
  | array vs | object ms => simp [Value.isContainer] at h
  | _ => rfl

/-- Scalars of one type are merged into the schema of that type, with the format of the first or
without one. -/
theorem mergeScalars_eq {first : Schema} {t : TypeName} {format : Option String} (ss : List Schema)
    (h : first = ofScalar t format) :
    mergeScalars first ss = ofScalar t format ∧ (∀ s ∈ ss, s.rules.format = format) ∨
      mergeScalars first ss = ofScalar t none := by
  subst h
  rw [mergeScalars]
  split
  · rename_i hall
    exact .inl ⟨rfl, fun s hs => by simpa [ofScalar] using List.all_eq_true.mp hall s hs⟩
  · exact .inr rfl

/-- Merging distinct inferred schemas gives an inferred schema. -/
theorem Inferred.mergeDistinct {inner : List Schema → Schema} {first : Schema} {ss : List Schema}
    (hss : ∀ s ∈ ss, Inferred s) (hfirst : first ∈ ss)
    (hinner : ∀ us, (∀ u ∈ us, Inferred u) → Inferred (inner us)) :
    Inferred (Schema.mergeDistinct inner first ss) := by
  rw [Schema.mergeDistinct]
  split
  · exact .branches hss
  · rename_i t ht
    split
    · split
      · refine .properties ?_ ?_
        · rw [List.map_map]
          exact nodup_groups ss
        · intro k u hu
          obtain ⟨⟨k, us⟩, hus, heq⟩ := List.mem_map.mp hu
          obtain ⟨rfl, rfl⟩ := Prod.mk.inj heq
          refine hinner us fun u hu => ?_
          obtain ⟨s, hs, hprop⟩ := mem_properties_of_mem_groups hus hu
          exact (hss s hs).of_property hprop
      · refine .items (hinner _ fun u hu => ?_)
        obtain ⟨s, hs, hitems⟩ := List.mem_filterMap.mp hu
        exact (hss s hs).of_items hitems
      · rename_i hobject harray
        have hscalar : isContainerType t = false := by
          cases t
          case object => exact absurd rfl hobject
          case array => exact absurd rfl harray
          all_goals rfl
        have hform := (hss first hfirst).eq_ofScalar_of_singleType ht hscalar
        rcases mergeScalars_eq ss hform with ⟨heq, -⟩ | heq
        · exact heq ▸ .scalar hscalar
        · exact heq ▸ .scalar hscalar
    · exact .branches hss

/-- The schemas inside some schemas are merged into one that covers what one of them covers. -/
def MergesWithin (inner : List Schema → Schema) (ss : List Schema) : Prop :=
  ∀ us u w, (∀ x ∈ us, Inferred x) → (∀ x ∈ us, ∃ s ∈ ss, x.depth < s.depth) → u ∈ us →
    Covers u w → Covers (inner us) w

/-- A scalar that one of some schemas of its type covers is covered by the merged one. -/
theorem covers_mergeScalars {first : Schema} {ss : List Schema} {v : Value}
    {format format' : Option String} (hv : v.isContainer = false)
    (hf : ∀ text name, v = .string text → format = some name → HasFormat text name)
    (hs : ofScalar (TypeName.ofValue v) format ∈ ss)
    (hfirst : first = ofScalar (TypeName.ofValue v) format') :
    Covers (mergeScalars first ss) v := by
  rcases mergeScalars_eq ss hfirst with ⟨heq, hformat⟩ | heq
  · obtain rfl : format = format' := hformat _ hs
    exact heq ▸ .scalar hv hf
  · exact heq ▸ .scalar hv (by simp)

/-- An array whose items one of some schemas covers is covered with all their schemas for items
merged. -/
theorem covers_mergedItems {inner : List Schema → Schema} {ss : List Schema} {u : Schema}
    {vs : List Value} (hss : ∀ s ∈ ss, Inferred s) (hinner : MergesWithin inner ss)
    (hs : ofItems u ∈ ss) (h : ∀ v ∈ vs, Covers u v) :
    Covers (ofItems (inner (ss.filterMap (·.items)))) (.array vs) := by
  refine .items fun v hv => hinner _ u v ?_ ?_ (List.mem_filterMap.mpr ⟨_, hs, rfl⟩) (h v hv)
  · intro x hx
    obtain ⟨s, hs, hitems⟩ := List.mem_filterMap.mp hx
    exact (hss s hs).of_items hitems
  · intro x hx
    obtain ⟨s, hs, hitems⟩ := List.mem_filterMap.mp hx
    exact ⟨s, hs, depth_lt_of_items hitems⟩

/-- An object whose members one of some schemas covers is covered with all their schemas for members
merged key by key, and only those keys required that all of them require. -/
theorem covers_mergedProperties {inner : List Schema → Schema} {ss : List Schema}
    {ps : List (String × Schema)} {required : List String} {ms : Members}
    (hss : ∀ s ∈ ss, Inferred s) (hinner : MergesWithin inner ss)
    (hs : ofProperties ps required ∈ ss) (hreq : ∀ k ∈ required, Members.has ms k = true)
    (hkeys : ∀ k v, Members.get? ms k = some v → ∃ s, (k, s) ∈ ps)
    (h : ∀ k v s, Members.get? ms k = some v → (k, s) ∈ ps → Covers s v) :
    Covers (ofProperties ((groups ss).map fun (k, variants) => (k, inner variants))
      (((groups ss).map (·.1)).filter fun k => ss.all (·.requires k))) (.object ms) := by
  have hgroup : ∀ k u, (k, u) ∈ ps → ∃ us, (k, us) ∈ groups ss ∧ u ∈ us := fun k u hu =>
    exists_mem_groups (mem_variants_groups.mpr ⟨_, hs, hu⟩)
  refine .properties ?_ ?_ ?_ ?_
  · rw [List.map_map]
    exact nodup_groups ss
  · intro k hk
    have hrequires := List.all_eq_true.mp (List.mem_filter.mp hk).2 _ hs
    rw [requires, ofProperties, getD_nonEmpty?, List.contains_iff_mem] at hrequires
    exact hreq k hrequires
  · intro k w hw
    obtain ⟨u, hu⟩ := hkeys k w hw
    obtain ⟨us, hus, -⟩ := hgroup k u hu
    exact ⟨inner us, List.mem_map.mpr ⟨_, hus, rfl⟩⟩
  · intro k w x hw hx
    obtain ⟨⟨k, us⟩, hus, heq⟩ := List.mem_map.mp hx
    obtain ⟨rfl, rfl⟩ := Prod.mk.inj heq
    obtain ⟨u, hu⟩ := hkeys k w hw
    obtain ⟨us', hus', hmem⟩ := hgroup k u hu
    obtain rfl : us' = us := by rw [← variants_eq_of_mem hus, variants_eq_of_mem hus']
    refine hinner us' u w ?_ ?_ hmem (h k w u hw hu)
    · intro y hy
      obtain ⟨s, hs, hprop⟩ := mem_properties_of_mem_groups hus hy
      exact (hss s hs).of_property hprop
    · intro y hy
      obtain ⟨s, hs, hprop⟩ := mem_properties_of_mem_groups hus hy
      exact ⟨s, hs, depth_lt_of_property hprop⟩

/-- **What one of some distinct schemas covers, the schema merged from them covers.** The cases are
those of coverage: the schema that covers the value decides which way the merge goes, unless the
others are of other types and all become a choice. -/
theorem covers_mergeDistinct {inner : List Schema → Schema} {first s : Schema} {ss : List Schema}
    {v : Value} (hss : ∀ s ∈ ss, Inferred s) (hfirst : first ∈ ss)
    (hinner : MergesWithin inner ss) (hs : s ∈ ss) (h : Covers s v) :
    Covers (Schema.mergeDistinct inner first ss) v := by
  rw [Schema.mergeDistinct]
  split
  · exact .branch hs h
  rename_i t ht
  split
  swap
  · exact .branch hs h
  rename_i hall
  have hsame : ∀ u ∈ ss, u.singleType = some t := fun u hu => by
    simpa using List.all_eq_true.mp hall u hu
  cases h with
  | @scalar v format hv hf =>
      obtain rfl : TypeName.ofValue v = t := Option.some.inj (hsame _ hs)
      have hscalar : isContainerType (TypeName.ofValue v) = false := isContainerType_ofValue hv
      have hform := (hss first hfirst).eq_ofScalar_of_singleType ht hscalar
      split
      · rename_i heq
        simp [heq, isContainerType] at hscalar
      · rename_i heq
        simp [heq, isContainerType] at hscalar
      · exact covers_mergeScalars hv hf hs hform
  | @items u vs h =>
      obtain rfl : TypeName.array = t := Option.some.inj (hsame _ hs)
      exact covers_mergedItems hss hinner hs h
  | @properties ps required ms hps hreq hkeys h =>
      obtain rfl : TypeName.object = t := Option.some.inj (hsame _ hs)
      exact covers_mergedProperties hss hinner hs hreq hkeys h
  | branch =>
      have hnone := hsame _ hs
      simp [singleType, ofBranches] at hnone

/-- The schema merged from inferred schemas is inferred. -/
theorem Inferred.mergeWithin (depth : Nat) {ss : List Schema} (hss : ∀ s ∈ ss, Inferred s) :
    Inferred (Schema.mergeWithin depth ss) := by
  induction depth generalizing ss with
  | zero => exact .unknown
  | succ depth ih =>
      have hdistinct : ∀ s ∈ distinct ss, Inferred s := fun s hs => hss s (mem_of_mem_distinct hs)
      rw [Schema.mergeWithin]
      split
      · exact .unknown
      · rename_i s heq
        exact hdistinct s (by simp [heq])
      · rename_i first others _ heq
        rw [heq] at hdistinct
        exact .mergeDistinct hdistinct (List.mem_cons_self ..) fun us hus => ih hus

/-- **A merged schema covers whatever one of the samples covers.** The induction is on the number
of levels that merging may go down; no sample is nested deeper, so it never runs out. -/
theorem covers_mergeWithin {depth : Nat} {ss : List Schema} {s : Schema} {v : Value}
    (hdepth : ∀ s ∈ ss, s.depth ≤ depth) (hss : ∀ s ∈ ss, Inferred s) (hs : s ∈ ss)
    (h : Covers s v) : Covers (Schema.mergeWithin depth ss) v := by
  induction depth generalizing ss s v with
  | zero =>
      have hzero := hdepth s hs
      obtain ⟨rules, properties, items, anyOf⟩ := s
      simp only [depth] at hzero
      omega
  | succ depth ih =>
      have hdistinct : ∀ s ∈ distinct ss, Inferred s := fun s hs => hss s (mem_of_mem_distinct hs)
      obtain ⟨t, ht, hcov⟩ := exists_covers_of_distinct hss hs h
      rw [Schema.mergeWithin]
      split
      · rename_i heq
        simp [heq] at ht
      · rename_i u heq
        rw [heq, List.mem_singleton] at ht
        exact ht ▸ hcov
      · rename_i first others _ heq
        rw [heq] at ht hdistinct
        refine covers_mergeDistinct hdistinct (List.mem_cons_self ..) ?_ ht hcov
        intro us u w hus hlt hu hcov
        refine ih (fun x hx => ?_) hus hu hcov
        obtain ⟨s, hs, hxs⟩ := hlt x hx
        have hsdepth := hdepth s (mem_of_mem_distinct (heq ▸ hs))
        omega

/-- One schema for samples covers whatever one of them covers. -/
theorem covers_merge {ss : List Schema} {s : Schema} {v : Value} (hss : ∀ s ∈ ss, Inferred s)
    (hs : s ∈ ss) (h : Covers s v) : Covers (merge ss) v :=
  covers_mergeWithin (fun _ ht => depth_le_of_mem ht) hss hs h

/-! ### Inference -/

/-- The schemas of items that are all looked at. -/
theorem inferItems_eq_map {count : Nat} {vs : List Value} (h : vs.length ≤ count) :
    inferItems count vs = vs.map infer := by
  induction vs generalizing count with
  | nil => simp [inferItems]
  | cons v vs ih =>
      cases count with
      | zero => simp at h
      | succ count => simp [inferItems, ih (Nat.le_of_succ_le_succ h)]

/-- The schemas of items are schemas of items of the list. -/
theorem exists_of_mem_inferItems {count : Nat} {vs : List Value} {s : Schema}
    (h : s ∈ inferItems count vs) : ∃ v ∈ vs, infer v = s := by
  induction vs generalizing count with
  | nil => simp [inferItems] at h
  | cons v vs ih =>
      cases count with
      | zero => simp [inferItems] at h
      | succ count =>
          rw [inferItems] at h
          rcases List.mem_cons.mp h with rfl | h
          · exact ⟨v, List.mem_cons_self .., rfl⟩
          · obtain ⟨w, hw, hs⟩ := ih h
            exact ⟨w, List.mem_cons_of_mem _ hw, hs⟩

/-- The properties that are inferred are those of the members, one by one. -/
theorem inferMembers_eq_map (ms : Members) :
    inferMembers ms = ms.map fun m => (m.1, infer m.2) := by
  induction ms with
  | nil => simp [inferMembers]
  | cons m ms ih => simp [inferMembers, ih]

/-- The keys that are inferred are those of the object. -/
theorem map_fst_inferMembers (ms : Members) : (inferMembers ms).map (·.1) = ms.map (·.1) := by
  simp [inferMembers_eq_map]

/-- What is inferred has one of the shapes of inferred schemas. -/
theorem inferred_infer {v : Value} (hv : v.WellFormed) : Inferred (infer v) := by
  induction v using Value.induct with
  | null => exact .scalar rfl
  | bool b => exact .scalar rfl
  | number n => exact .scalar (isContainerType_ofValue rfl)
  | string s => exact .scalar rfl
  | array vs ih =>
      refine .items (.mergeWithin _ fun s hs => ?_)
      obtain ⟨v, hmem, rfl⟩ := exists_of_mem_inferItems hs
      exact ih v hmem ((Value.wellFormed_array_iff.mp hv).2 v hmem)
  | object ms ih =>
      obtain ⟨hkeys, hms⟩ := Value.wellFormed_object_iff.mp hv
      refine .properties (by rwa [map_fst_inferMembers]) fun k s hs => ?_
      rw [inferMembers_eq_map] at hs
      obtain ⟨⟨k, v⟩, hmem, heq⟩ := List.mem_map.mp hs
      obtain ⟨rfl, rfl⟩ := Prod.mk.inj heq
      exact ih k v hmem (hms k v hmem)

/-- The name of a format is the name of that format. -/
theorem ofName?_name (f : TextFormat) : TextFormat.ofName? f.name = some f := by
  cases f <;> rfl

/-- A text has the format that is found in it. -/
theorem hasFormat_of_detect {text name : String}
    (h : (detectFormat? text).map TextFormat.name = some name) : HasFormat text name := by
  obtain ⟨f, hf, rfl⟩ := Option.map_eq_some_iff.mp h
  intro g hg
  rw [ofName?_name] at hg
  obtain rfl := Option.some.inj hg
  rw [detectFormat?] at hf
  simpa using List.find?_some hf

/-- **An inferred schema covers the value**, if no array is longer than what is looked at. -/
theorem covers_infer {v : Value} (hv : v.WellFormed) (hlong : v.longestArray ≤ sampleSize) :
    Covers (infer v) v := by
  induction v using Value.induct with
  | null => exact .scalar (v := .null) rfl (by simp)
  | bool b => exact .scalar (v := .bool b) rfl (by simp)
  | number n => exact .scalar (v := .number n) rfl (by simp)
  | string s =>
      refine .scalar (v := .string s) rfl fun text name htext hname => ?_
      obtain rfl := Value.string.inj htext
      exact hasFormat_of_detect hname
  | array vs ih =>
      obtain ⟨-, hvs⟩ := Value.wellFormed_array_iff.mp hv
      rw [Value.longestArray, Nat.max_le] at hlong
      have hitems : inferItems sampleSize vs = vs.map infer := inferItems_eq_map hlong.1
      rw [infer, hitems]
      refine .items fun v hmem => covers_merge ?_ (List.mem_map.mpr ⟨v, hmem, rfl⟩) ?_
      · intro s hs
        obtain ⟨w, hw, rfl⟩ := List.mem_map.mp hs
        exact inferred_infer (hvs w hw)
      · exact ih v hmem (hvs v hmem) (Nat.le_trans (Value.longestArray_le_of_mem hmem) hlong.2)
  | object ms ih =>
      obtain ⟨hkeys, hms⟩ := Value.wellFormed_object_iff.mp hv
      have hmem : ∀ k v, Members.get? ms k = some v → (k, v) ∈ ms := fun k v h =>
        Keyed.mem_of_get? h
      rw [infer, inferMembers_eq_map]
      refine .properties ?_ ?_ ?_ ?_
      · simpa [← inferMembers_eq_map, map_fst_inferMembers] using hkeys
      · intro k hk
        obtain ⟨m, hm, rfl⟩ := List.mem_map.mp hk
        exact Keyed.has_iff.mpr (List.mem_map.mpr ⟨m, (List.mem_filter.mp hm).1, rfl⟩)
      · intro k v hget
        exact ⟨infer v, List.mem_map.mpr ⟨(k, v), hmem k v hget, rfl⟩⟩
      · intro k v s hget hs
        obtain ⟨⟨k, w⟩, hw, heq⟩ := List.mem_map.mp hs
        obtain ⟨rfl, rfl⟩ := Prod.mk.inj heq
        obtain rfl : w = v := Option.some.inj ((Keyed.get?_of_mem hkeys hw).symm.trans hget)
        exact ih k w hw (hms k w hw)
          (Nat.le_trans (Value.longestArray_le_of_mem_members hw) hlong)

/-- **A value violates nothing of the schema inferred from it**, provided that no array in it has
more items than are looked at. -/
theorem violations_infer {v : Value} (hv : v.WellFormed) (hlong : v.longestArray ≤ sampleSize) :
    (infer v).violations v = [] :=
  (covers_infer hv hlong).violationsAt_eq_nil []

/-- Items of different shapes: the second has no date, its list is of other values and ends in an
empty list, and one of its members is null. -/
def unevenItems : Value :=
  .array [
    .object [("day", .string "2024-01-02"), ("list", .array [.int 1])],
    .object [("list", .array [.bool true, .array []]), ("note", .null)]]

theorem violations_infer_unevenItems :
    unevenItems.WellFormed ∧ unevenItems.longestArray ≤ sampleSize ∧
      (infer unevenItems).violations unevenItems = [] := by
  have hv : unevenItems.WellFormed := by decide
  have hlong : unevenItems.longestArray ≤ sampleSize := by decide
  exact ⟨hv, hlong, violations_infer hv hlong⟩

end JsonWorkbench.Schema
