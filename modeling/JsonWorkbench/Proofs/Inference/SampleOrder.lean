import JsonWorkbench.Proofs.Inference.Alike
import JsonWorkbench.Proofs.Inference.Reordering

/-!
# The Order of Samples

The schema of an array whose items are all looked at does not depend on their order, up to the
order of properties, of required keys and of branches. Merging treats the first of the distinct
samples apart, as the one that gives the type and the format; neither depends on which sample this
is. Where all samples have one type the merge goes on with the schemas inside, which are matched
again; otherwise the samples are the branches of a choice.

## Main results

* `Schema.reordered_mergeWithin` — matched lists are merged into reorderings of each other.
* `Schema.reordered_infer_array` — arrays with the same items have the same schema up to order.
-/

namespace JsonWorkbench.Schema

/-! ### Reorderings of inferred schemas -/

/-- Rules are reorderings of themselves. -/
theorem reordered_rules (r : Rules) : r.Reordered r :=
  ⟨by cases r.required <;> simp [List.Perm.refl], rfl⟩

/-- Reorderings for the items make reorderings for the array. -/
theorem Reordered.ofItems {s t : Schema} (h : Reordered s t) :
    Reordered (ofItems s) (ofItems t) := by
  refine .intro none (reordered_rules _) .none ?_ rfl ?_ rfl ?_ .none
  · simp [Schema.ofItems]
  · intro u w hu hw
    obtain rfl := Option.some.inj hu
    obtain rfl := Option.some.inj hw
    exact h
  · simp [Schema.ofItems]

/-- The same keys, required in any order, with reorderings under each of them make reorderings for
the object. -/
theorem Reordered.ofProperties {ps qs : List (String × Schema)} {required required' : List String}
    (hkeys : (ps.map (·.1)).Perm (qs.map (·.1)))
    (h : ∀ k u w, (k, u) ∈ ps → (k, w) ∈ qs → Reordered u w) (hreq : required.Perm required') :
    Reordered (ofProperties ps required) (ofProperties qs required') := by
  have hrequired : Option.Rel List.Perm (nonEmpty? required) (nonEmpty? required') := by
    rw [nonEmpty?, nonEmpty?, hreq.isEmpty_eq]
    split
    · exact .none
    · exact .some hreq
  refine .intro none ⟨hrequired, rfl⟩ (.some hkeys) h rfl ?_ rfl ?_ .none
  · simp [Schema.ofProperties]
  · simp [Schema.ofProperties]

/-- Branches that are reorderings one by one, in some order, make reorderings for the choice. -/
theorem Reordered.ofBranches {ss us ts : List Schema} (hlen : ss.length = us.length)
    (h : ∀ (i : Nat) u w, ss[i]? = some u → us[i]? = some w → Reordered u w) (hperm : us.Perm ts) :
    Reordered (ofBranches ss) (ofBranches ts) := by
  refine .intro (some us) (reordered_rules _) .none ?_ rfl ?_ (congrArg some hlen) h
    (.some hperm)
  · simp [Schema.ofBranches]
  · simp [Schema.ofBranches]

/-- Alike schemas are reorderings of each other. -/
theorem Alike.reordered {s t : Schema} (h : Alike s t) : Reordered s t := by
  induction h with
  | unknown | scalar =>
      exact .intro none (reordered_rules _) .none (by simp [ofScalar]) rfl
        (by simp [ofScalar]) rfl (by simp [ofScalar]) .none
  | items _ ih => exact .ofItems ih
  | properties hps hkeys _ ih => exact .ofProperties hkeys ih (.refl _)
  | branches hlen _ ih => exact .ofBranches hlen ih (.refl _)

/-- Matched branches make reorderings for the choice. -/
theorem Matched.reordered_ofBranches {ss ts : List Schema} (h : Matched ss ts) :
    Reordered (ofBranches ss) (ofBranches ts) := by
  obtain ⟨us, halike, hperm⟩ := h
  obtain ⟨hlen, halike⟩ := forall₂_iff_getElem?.mp halike
  exact .ofBranches hlen (fun i u w hu hw => (halike i u w hu hw).reordered) hperm

/-! ### The schemas inside -/

/-- The schemas for the items of matched arrays are matched. -/
theorem Matched.items {ss ts : List Schema} (h : Matched ss ts) :
    Matched (ss.filterMap (·.items)) (ts.filterMap (·.items)) := by
  rw [List.filterMap_eq_flatMap_toList, List.filterMap_eq_flatMap_toList]
  refine h.flatMap fun s t hst => ?_
  cases hst with
  | items h => exact .cons h .nil
  | _ => exact .nil

/-- Grouping adds the keys of the properties. -/
theorem mem_keys_foldl_add {ps : List (String × Schema)} {gs : Groups} {key : String} :
    key ∈ (ps.foldl (fun gs (k, s) => gs.add k s) gs).map (·.1) ↔
      key ∈ gs.map (·.1) ∨ key ∈ ps.map (·.1) := by
  induction ps generalizing gs with
  | nil => simp
  | cons p ps ih =>
      obtain ⟨k, s⟩ := p
      rw [List.foldl_cons, ih]
      simp only [add_eq_insert, Keyed.mem_keys_insert, List.map_cons, List.mem_cons, or_assoc]

/-- The keys that are grouped are those of the samples. -/
theorem mem_keys_groups {ss : List Schema} {key : String} :
    key ∈ (groups ss).map (·.1) ↔ ∃ s ∈ ss, key ∈ (s.properties.getD []).map (·.1) := by
  rw [groups, mem_keys_foldl_add, List.map_flatMap, List.mem_flatMap]
  simp

/-- The schemas that a key has had are those of its properties, sample by sample. -/
theorem variants_groups_eq {ss : List Schema} (hss : ∀ s ∈ ss, Inferred s) (key : String) :
    variants (groups ss) key =
      ss.flatMap fun s => (Keyed.get? (s.properties.getD []) key).toList := by
  have hnodup : ∀ s ∈ ss, ((s.properties.getD []).map (·.1)).Nodup := fun s hs => by
    cases hss s hs with
    | properties hps => exact hps
    | _ => exact .nil
  rw [groups, (foldl_add [] (by simp) _).2, List.filter_flatMap, List.map_flatMap]
  simpa [variants, Keyed.get?] using
    List.flatMap_congr fun s hs => Keyed.filter_key_of_nodup (hnodup s hs) key

/-- The schemas that a key has had in matched samples are matched. -/
theorem Matched.variants {ss ts : List Schema} (h : Matched ss ts) (key : String) :
    Matched (variants (groups ss) key) (variants (groups ts) key) := by
  rw [variants_groups_eq (fun _ => h.inferred_left),
    variants_groups_eq fun _ => h.symm.inferred_left]
  refine h.flatMap fun s t hst => ?_
  cases hst with
  | @properties ps qs required hps hkeys h =>
      change List.Forall₂ Alike (Keyed.get? ps key).toList (Keyed.get? qs key).toList
      cases hget : Keyed.get? ps key with
      | none =>
          have hnone : Keyed.get? qs key = none := by
            rw [Keyed.get?_eq_none_iff] at hget ⊢
            exact fun hmem => hget (hkeys.mem_iff.mpr hmem)
          rw [hnone]
          exact .nil
      | some u =>
          have hu : (key, u) ∈ ps := Keyed.mem_of_get? hget
          obtain ⟨w, hw⟩ := Keyed.exists_mem_of_subset hkeys.subset hu
          rw [Keyed.get?_of_mem (hkeys.nodup_iff.mp hps) hw]
          exact .cons (h key u w hu hw) .nil
  | _ => exact .nil

/-- Matched samples have the same keys. -/
theorem Matched.keys_groups {ss ts : List Schema} (h : Matched ss ts) :
    ((groups ss).map (·.1)).Perm ((groups ts).map (·.1)) := by
  have hsub : ∀ {ss ts : List Schema}, Matched ss ts → ∀ {key : String},
      key ∈ (groups ss).map (·.1) → key ∈ (groups ts).map (·.1) := by
    intro ss ts h key hkey
    obtain ⟨s, hs, hmem⟩ := mem_keys_groups.mp hkey
    obtain ⟨t, ht, hst⟩ := h.exists_right hs
    refine mem_keys_groups.mpr ⟨t, ht, ?_⟩
    cases hst with
    | properties hps hkeys _ => exact hkeys.subset hmem
    | _ => exact hmem
  exact (List.perm_ext_iff_of_nodup (nodup_groups ss) (nodup_groups ts)).mpr fun key =>
    ⟨hsub h, hsub h.symm⟩

/-- What alike schemas have alike, all of some matched samples have if all of the others do. -/
theorem Matched.forall_iff {ss ts : List Schema} (h : Matched ss ts) {P : Schema → Prop}
    (hP : ∀ s t, Alike s t → (P s ↔ P t)) : (∀ s ∈ ss, P s) ↔ ∀ t ∈ ts, P t := by
  constructor
  · intro hall t ht
    obtain ⟨s, hs, hts⟩ := h.symm.exists_right ht
    exact (hP t s hts).mpr (hall s hs)
  · intro hall s hs
    obtain ⟨t, ht, hst⟩ := h.exists_right hs
    exact (hP s t hst).mpr (hall t ht)

/-- A test that alike schemas pass alike is passed by all of some matched samples if it is by all of
the others. -/
theorem Matched.all_eq {ss ts : List Schema} (h : Matched ss ts) {p : Schema → Bool}
    (hp : ∀ s t, Alike s t → p s = p t) : ss.all p = ts.all p := by
  rw [Bool.eq_iff_iff, List.all_eq_true, List.all_eq_true]
  exact h.forall_iff fun s t hst => by rw [hp s t hst]

/-! ### Merging -/

/-- Scalars of one type are merged into the scalar of that type, with the format that all of them
have. -/
theorem mergeScalars_eq_ofScalar {first : Schema} {ss : List Schema} {t : TypeName}
    (hfirst : first = ofScalar t first.rules.format) :
    mergeScalars first ss =
      ofScalar t (if ss.all (·.rules.format == first.rules.format) then first.rules.format
        else none) := by
  rw [mergeScalars]
  split
  · exact hfirst
  · rw [hfirst]
    rfl

/-- Matched scalars of one type are merged into reorderings: if all have one format, it is that of
the first of them on either side. -/
theorem Matched.reordered_mergeScalars {first first' : Schema} {ss ts : List Schema} {t : TypeName}
    (h : Matched ss ts) (hfirst : first ∈ ss) (hfirst' : first' ∈ ts)
    (ht : isContainerType t = false) (hss : ∀ s ∈ ss, s.singleType = some t)
    (hts : ∀ s ∈ ts, s.singleType = some t) :
    Reordered (mergeScalars first ss) (mergeScalars first' ts) := by
  have hform : first = ofScalar t first.rules.format :=
    (h.inferred_left hfirst).eq_ofScalar_of_singleType (hss first hfirst) ht
  have hform' : first' = ofScalar t first'.rules.format :=
    (h.symm.inferred_left hfirst').eq_ofScalar_of_singleType (hts first' hfirst') ht
  have hall : ∀ format, ss.all (·.rules.format == format) = ts.all (·.rules.format == format) :=
    fun format => h.all_eq fun s u hsu => by rw [hsu.format_eq]
  rw [mergeScalars_eq_ofScalar hform, mergeScalars_eq_ofScalar hform', hall]
  by_cases heq : first.rules.format = first'.rules.format
  · rw [heq]
    exact (Alike.scalar ht).reordered
  · -- neither format is that of all, as the other one is there as well
    have hnot : ¬ (ts.all (·.rules.format == first.rules.format) = true) := fun h =>
      heq (beq_iff_eq.mp (List.all_eq_true.mp h first' hfirst')).symm
    have hnot' : ¬ (ts.all (·.rules.format == first'.rules.format) = true) := by
      rw [← hall, List.all_eq_true]
      exact fun h => heq (beq_iff_eq.mp (h first hfirst))
    rw [if_neg hnot, if_neg hnot']
    exact (Alike.scalar ht).reordered

/-- Samples that do not all have one type become the branches of a choice. -/
theorem mergeDistinct_eq_ofBranches {inner : List Schema → Schema} {first : Schema}
    {ss : List Schema} (h : ¬ ∃ t, ∀ s ∈ ss, s.singleType = some t) :
    mergeDistinct inner first ss = ofBranches ss := by
  rw [mergeDistinct]
  split
  · rfl
  · rename_i t _
    rw [if_neg]
    · rfl
    · exact fun hall => h ⟨t, fun s hs => by simpa using List.all_eq_true.mp hall s hs⟩

section

variable {inner : List Schema → Schema}
  (hinner : ∀ us ws, Matched us ws → Reordered (inner us) (inner ws))
include hinner

/-- Matched objects are merged into reorderings. -/
theorem Matched.reordered_mergedProperties {ss ts : List Schema} (h : Matched ss ts) :
    Reordered
      (Schema.ofProperties ((groups ss).map fun (k, variants) => (k, inner variants))
        (((groups ss).map (·.1)).filter fun k => ss.all (·.requires k)))
      (Schema.ofProperties ((groups ts).map fun (k, variants) => (k, inner variants))
        (((groups ts).map (·.1)).filter fun k => ts.all (·.requires k))) := by
  refine .ofProperties ?_ (fun k u w hu hw => ?_) ?_
  · rw [List.map_map, List.map_map]
    exact h.keys_groups
  · obtain ⟨⟨k', us⟩, hus, heq⟩ := List.mem_map.mp hu
    obtain ⟨rfl, rfl⟩ := Prod.mk.inj heq
    obtain ⟨⟨k'', ws⟩, hws, heq⟩ := List.mem_map.mp hw
    obtain ⟨rfl, rfl⟩ := Prod.mk.inj heq
    rw [← variants_eq_of_mem hus, ← variants_eq_of_mem hws]
    exact hinner _ _ (h.variants _)
  · have hall : (fun k => ss.all (·.requires k)) = fun k => ts.all (·.requires k) :=
      funext fun k => h.all_eq fun s t hst => hst.requires_eq k
    rw [hall]
    exact h.keys_groups.filter _

/-- **Matched distinct samples are merged into reorderings**, whichever of them come first. -/
theorem Matched.reordered_mergeDistinct {first first' : Schema} {ss ts : List Schema}
    (h : Matched ss ts) (hfirst : first ∈ ss) (hfirst' : first' ∈ ts) :
    Reordered (mergeDistinct inner first ss) (mergeDistinct inner first' ts) := by
  have htypes : ∀ t, (∀ s ∈ ss, s.singleType = some t) ↔ ∀ s ∈ ts, s.singleType = some t :=
    fun t => h.forall_iff fun s u hsu => by rw [hsu.singleType_eq]
  by_cases hone : ∃ t, ∀ s ∈ ss, s.singleType = some t
  · obtain ⟨t, hss⟩ := hone
    have hts := (htypes t).mp hss
    have hall : ss.all (·.singleType == some t) = true := by simpa using hss
    have hall' : ts.all (·.singleType == some t) = true := by simpa using hts
    rw [mergeDistinct, mergeDistinct, hss first hfirst, hts first' hfirst']
    simp only [hall, hall', if_true]
    cases t with
    | object => exact h.reordered_mergedProperties hinner
    | array => exact .ofItems (hinner _ _ h.items)
    | null | boolean | string | number | integer =>
        exact h.reordered_mergeScalars hfirst hfirst' rfl hss hts
  · have hone' : ¬ ∃ t, ∀ s ∈ ts, s.singleType = some t := by simpa only [htypes] using hone
    rw [mergeDistinct_eq_ofBranches hone, mergeDistinct_eq_ofBranches hone']
    exact h.reordered_ofBranches

end

/-- **Matched samples are merged into reorderings.** The induction is on the number of levels that
merging may go down. -/
theorem Matched.reordered_mergeWithin {ss ts : List Schema} (h : Matched ss ts) (depth : Nat) :
    Reordered (mergeWithin depth ss) (mergeWithin depth ts) := by
  induction depth generalizing ss ts with
  | zero => exact Alike.unknown.reordered
  | succ depth ih =>
      have hdistinct := h.distinct
      rw [mergeWithin, mergeWithin]
      generalize Schema.distinct ss = ss, Schema.distinct ts = ts at hdistinct ⊢
      have hlen := hdistinct.length_eq
      rcases ss with _ | ⟨s, _ | ⟨s', ss⟩⟩
      · obtain rfl := List.length_eq_zero_iff.mp hlen.symm
        exact Alike.unknown.reordered
      · obtain ⟨t, rfl⟩ := List.length_eq_one_iff.mp hlen.symm
        obtain ⟨u, hu, hsu⟩ := hdistinct.exists_right (List.mem_singleton_self s)
        obtain rfl := List.mem_singleton.mp hu
        exact hsu.reordered
      · rcases ts with _ | ⟨t, _ | ⟨t', ts⟩⟩
        · simp at hlen
        · simp at hlen
        · exact hdistinct.reordered_mergeDistinct (fun us ws h => ih h) (List.mem_cons_self ..)
            (List.mem_cons_self ..)

/-- The greatest depth of some schemas does not depend on their order. -/
theorem depthBranches_perm {ss ts : List Schema} (h : ss.Perm ts) :
    depthBranches ss = depthBranches ts := by
  induction h with
  | nil => rfl
  | cons s _ ih => rw [depthBranches, depthBranches, ih]
  | swap s t ss => simp only [depthBranches, Nat.max_left_comm]
  | trans _ _ ih ih' => exact ih.trans ih'

/-- **The schema of an array does not depend on the order of its items**, if all of them are looked
at: it is the same up to the order of properties, of required keys and of branches, and the same
values are admitted. -/
theorem reordered_infer_array {vs ws : List Value} (hvs : ∀ v ∈ vs, v.WellFormed)
    (hlen : vs.length ≤ sampleSize) (h : vs.Perm ws) :
    Reordered (infer (.array vs)) (infer (.array ws)) ∧
      ∀ v, (infer (.array vs)).Admits v ↔ (infer (.array ws)).Admits v := by
  have hsamples : Matched (vs.map infer) (ws.map infer) := by
    refine matched_of_perm (fun s hs => ?_) (h.map infer)
    obtain ⟨v, hv, rfl⟩ := List.mem_map.mp hs
    exact inferred_infer (hvs v hv)
  have hinfer : Reordered (infer (.array vs)) (infer (.array ws)) := by
    rw [infer, infer, inferItems_eq_map hlen, inferItems_eq_map (h.length_eq ▸ hlen), merge, merge,
      depthBranches_perm (h.map infer)]
    exact .ofItems (hsamples.reordered_mergeWithin _)
  exact ⟨hinfer, hinfer.admits_iff⟩

/-- Objects that require different keys, one of them with a date where the other has none, and lists
of the same items in different orders. -/
def mixedSamples : List Value :=
  [.object [("day", .string "2024-01-02"), ("size", .int 1)],
    .object [("size", .int 2), ("note", .null), ("day", .string "soon")],
    .array [.int 1, .null], .array [.null, .int 1]]

/-- Two schemas that are different, but not beyond order. -/
theorem reordered_infer_array_mixedSamples :
    (∀ v ∈ mixedSamples, v.WellFormed) ∧ mixedSamples.length ≤ sampleSize ∧
      mixedSamples.Perm mixedSamples.reverse ∧
      (infer (.array mixedSamples)).same (infer (.array mixedSamples.reverse)) = false ∧
      Reordered (infer (.array mixedSamples)) (infer (.array mixedSamples.reverse)) ∧
      ∀ v, (infer (.array mixedSamples)).Admits v ↔
        (infer (.array mixedSamples.reverse)).Admits v := by
  have hvs : ∀ v ∈ mixedSamples, v.WellFormed := by decide
  have hlen : mixedSamples.length ≤ sampleSize := by decide
  have hperm : mixedSamples.Perm mixedSamples.reverse := (List.reverse_perm _).symm
  exact ⟨hvs, hlen, hperm, by decide +kernel, reordered_infer_array hvs hlen hperm⟩

end JsonWorkbench.Schema
