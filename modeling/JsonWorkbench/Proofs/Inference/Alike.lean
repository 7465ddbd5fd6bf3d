import JsonWorkbench.Proofs.Inference
import JsonWorkbench.Proofs.Reordering

/-!
# Distinct Samples

The equality by which merging drops repeated schemas looks at the order of required keys and of
branches, not at that of properties. On inferred schemas it is an equivalence (`Alike`), here told
shape by shape; on others it is not, as a bound that is no number does not equal itself.

Which of several alike schemas is kept depends on the order of the samples, and so does the order
of those that are kept. Two such selections are still **matched**: one of them, reordered, is
position by position alike to the other.

## Main definitions

* `Schema.Alike` — equality of inferred schemas up to the order of properties.
* `Schema.Matched` — lists of schemas, alike one by one in some order.

## Main results

* `Schema.alike_iff_same` — the relation is the equality by which merging drops schemas.
* `Schema.Matched.distinct` — what is kept of matched lists is matched.
-/

namespace JsonWorkbench.Schema

/-! ### Alike schemas -/

/-- Inferred schemas that are the same but for the order of properties, at any depth. -/
inductive Alike : Schema → Schema → Prop
  | unknown : Alike {} {}
  | scalar {t : TypeName} {format : Option String} (ht : isContainerType t = false) :
      Alike (ofScalar t format) (ofScalar t format)
  | items {s t : Schema} (h : Alike s t) : Alike (ofItems s) (ofItems t)
  | properties {ps qs : List (String × Schema)} {required : List String}
      (hps : (ps.map (·.1)).Nodup) (hkeys : (ps.map (·.1)).Perm (qs.map (·.1)))
      (h : ∀ k u w, (k, u) ∈ ps → (k, w) ∈ qs → Alike u w) :
      Alike (ofProperties ps required) (ofProperties qs required)
  | branches {ss ts : List Schema} (hlen : ss.length = ts.length)
      (h : ∀ (i : Nat) u w, ss[i]? = some u → ts[i]? = some w → Alike u w) :
      Alike (ofBranches ss) (ofBranches ts)

/-- Inferred schemas are alike to themselves. -/
theorem Inferred.alike {s : Schema} (h : Inferred s) : Alike s s := by
  induction h with
  | unknown => exact .unknown
  | scalar ht => exact .scalar ht
  | items _ ih => exact .items ih
  | @properties ps required hps _ ih =>
      refine .properties hps (.refl _) fun k u w hu hw => ?_
      obtain rfl : u = w :=
        Option.some.inj ((Keyed.get?_of_mem hps hu).symm.trans (Keyed.get?_of_mem hps hw))
      exact ih k u hu
  | branches _ ih =>
      refine .branches rfl fun i u w hu hw => ?_
      obtain rfl : u = w := Option.some.inj (hu.symm.trans hw)
      exact ih u (List.mem_of_getElem? hu)

namespace Alike

variable {s t u : Schema}

/-- Being alike goes both ways. -/
theorem symm (h : Alike s t) : Alike t s := by
  induction h with
  | unknown => exact .unknown
  | scalar ht => exact .scalar ht
  | items _ ih => exact .items ih
  | properties hps hkeys _ ih =>
      exact .properties (hkeys.nodup_iff.mp hps) hkeys.symm fun k u w hu hw => ih k w u hw hu
  | branches hlen _ ih => exact .branches hlen.symm fun i u w hu hw => ih i w u hw hu

/-- The schema of an object is alike to schemas of objects that require the same keys. -/
theorem exists_ofProperties {ps : List (String × Schema)} {required : List String}
    (h : Alike (ofProperties ps required) u) :
    ∃ qs, u = ofProperties qs required ∧ (ps.map (·.1)).Perm (qs.map (·.1)) ∧
      ∀ k u w, (k, u) ∈ ps → (k, w) ∈ qs → Alike u w := by
  generalize hs : ofProperties ps required = s at h
  cases h with
  | @properties ps' qs required' hps hkeys h =>
      simp only [ofProperties, mk.injEq, Option.some.injEq, Rules.mk.injEq, true_and,
        and_true] at hs
      obtain ⟨hreq, rfl⟩ := hs
      exact ⟨qs, by rw [ofProperties, ofProperties, hreq], hkeys, h⟩
  | _ => simp [ofProperties, ofScalar, ofItems, ofBranches] at hs

/-- What is alike to one of two alike schemas is alike to the other. -/
theorem trans (h : Alike s t) (h' : Alike t u) : Alike s u := by
  induction h generalizing u with
  | unknown | scalar => exact h'
  | items _ ih =>
      cases h' with
      | items h' => exact .items (ih h')
  | @properties ps qs required hps hkeys _ ih =>
      obtain ⟨rs, rfl, hkeys', h'⟩ := h'.exists_ofProperties
      refine .properties hps (hkeys.trans hkeys') fun k u w hu hw => ?_
      obtain ⟨x, hx⟩ := Keyed.exists_mem_of_subset hkeys.subset hu
      exact ih k u x hu hx (h' k x w hx hw)
  | @branches ss ts hlen _ ih =>
      cases h' with
      | branches hlen' h' =>
          refine .branches (hlen.trans hlen') fun i u w hu hw => ?_
          obtain ⟨hi, -⟩ := List.getElem?_eq_some_iff.mp hu
          have hx : ts[i]? = some ts[i] := List.getElem?_eq_getElem (hlen ▸ hi)
          exact ih i u _ hu hx (h' i _ w hx hw)

/-- Alike schemas are inferred. -/
theorem inferred_left (h : Alike s t) : Inferred s := by
  induction h with
  | unknown => exact .unknown
  | scalar ht => exact .scalar ht
  | items _ ih => exact .items ih
  | properties hps hkeys _ ih =>
      refine .properties hps fun k u hu => ?_
      obtain ⟨w, hw⟩ := Keyed.exists_mem_of_subset hkeys.subset hu
      exact ih k u w hu hw
  | @branches ss ts hlen _ ih =>
      refine .branches fun u hu => ?_
      obtain ⟨i, hi, rfl⟩ := List.mem_iff_getElem.mp hu
      exact ih i ss[i] ts[i] (List.getElem?_eq_getElem hi) (List.getElem?_eq_getElem (hlen ▸ hi))

/-- Alike schemas ask for the same type. -/
theorem singleType_eq (h : Alike s t) : s.singleType = t.singleType := by
  cases h <;> rfl

/-- Alike schemas have the same format. -/
theorem format_eq (h : Alike s t) : s.rules.format = t.rules.format := by
  cases h <;> rfl

/-- Alike schemas require the same keys. -/
theorem requires_eq (h : Alike s t) (key : String) : s.requires key = t.requires key := by
  cases h <;> rfl

end Alike

/-! ### Equality as merging has it -/

/-- Equal branches are equal position by position. -/
theorem sameBranches_iff {ss ts : List Schema} :
    sameBranches ss ts = true ↔ List.Forall₂ (fun s t => s.same t = true) ss ts := by
  induction ss generalizing ts with
  | nil => cases ts <;> simp [sameBranches]
  | cons s ss ih => cases ts <;> simp [sameBranches, ih]

/-- Alike schemas are equal. -/
theorem Alike.same {s t : Schema} (h : Alike s t) : s.same t = true := by
  induction h with
  | unknown => rfl
  | scalar ht =>
      simp [ofScalar, Schema.same, Rules.same, sameProperties?, sameItem?, sameBranches?,
        sameOption]
  | items h ih =>
      simp [ofItems, Schema.same, Rules.same, sameProperties?, sameItem?, sameBranches?, sameOption,
        ih]
  | @properties ps qs required hps hkeys h ih =>
      have hlen : ps.length = qs.length := by simpa using hkeys.length_eq
      have hsame : sameProperties ps qs = true := by
        refine sameProperties_iff.mpr fun k s hs => ?_
        obtain ⟨t, ht⟩ := Keyed.exists_mem_of_subset hkeys.subset hs
        exact ⟨t, Keyed.get?_of_mem (hkeys.nodup_iff.mp hps) ht, ih k s t hs ht⟩
      simp [ofProperties, Schema.same, Rules.same, sameProperties?, sameItem?, sameBranches?,
        sameOption, hlen, hsame]
  | branches hlen h ih =>
      have hsame := sameBranches_iff.mpr (forall₂_iff_getElem?.mpr ⟨hlen, ih⟩)
      simp [ofBranches, Schema.same, Rules.same, sameProperties?, sameItem?, sameBranches?,
        sameOption, hsame]

/-- Equal inferred schemas are alike. -/
theorem Inferred.alike_of_same {s t : Schema} (hs : Inferred s) (ht : Inferred t)
    (h : s.same t = true) : Alike s t := by
  induction ht generalizing s with
  | unknown =>
      cases hs with
      | unknown => exact .unknown
      | _ => simp [ofScalar, ofItems, ofProperties, ofBranches, same, Rules.same, sameProperties?,
          sameItem?, sameBranches?] at h
  | scalar ht =>
      rw [hs.eq_ofScalar h]
      exact .scalar ht
  | items _ ih =>
      obtain ⟨u, rfl, hu, hsame⟩ := hs.eq_ofItems h
      exact .items (ih hu hsame)
  | @properties qs required hqs _ ih =>
      obtain ⟨ps, rfl, hps, hlen, hinf, hsame⟩ := hs.eq_ofProperties h
      have hsub : ps.map (·.1) ⊆ qs.map (·.1) :=
        Keyed.subset_of_get? fun k u hu => (hsame k u hu).imp fun _ h => h.1
      have hkeys : (ps.map (·.1)).Perm (qs.map (·.1)) :=
        (hps.subperm hsub).perm_of_length_le (by simp [hlen])
      refine .properties hps hkeys fun k u w hu hw => ?_
      obtain ⟨x, hx, hux⟩ := hsame k u hu
      obtain rfl : x = w := Option.some.inj (hx.symm.trans (Keyed.get?_of_mem hqs hw))
      exact ih k x hw (hinf k u hu) hux
  | branches _ ih =>
      obtain ⟨ss, rfl, hss, hsame⟩ := hs.eq_ofBranches h
      obtain ⟨hlen, hsame⟩ := forall₂_iff_getElem?.mp (sameBranches_iff.mp hsame)
      exact .branches hlen fun i u w hu hw =>
        ih w (List.mem_of_getElem? hw) (hss u (List.mem_of_getElem? hu)) (hsame i u w hu hw)

/-- **Being alike is the equality by which merging drops schemas**, on inferred ones. -/
theorem alike_iff_same {s t : Schema} (hs : Inferred s) (ht : Inferred t) :
    Alike s t ↔ s.same t = true :=
  ⟨Alike.same, hs.alike_of_same ht⟩

/-! ### Matched lists -/

/-- Lists of schemas of which one, reordered, is position by position alike to the other. -/
def Matched (ss ts : List Schema) : Prop := ∃ us, List.Forall₂ Alike ss us ∧ us.Perm ts

/-- Inferred schemas are matched with themselves in any order. -/
theorem matched_of_perm {ss ts : List Schema} (hss : ∀ s ∈ ss, Inferred s) (h : ss.Perm ts) :
    Matched ss ts :=
  ⟨ss, List.forall₂_same.mpr fun s hs => (hss s hs).alike, h⟩

namespace Matched

variable {ss ts : List Schema}

/-- Matched lists are equally long. -/
theorem length_eq (h : Matched ss ts) : ss.length = ts.length := by
  obtain ⟨us, halike, hperm⟩ := h
  exact halike.length_eq.trans hperm.length_eq

/-- Every schema is alike to one on the other side. -/
theorem exists_right (h : Matched ss ts) {s : Schema} (hs : s ∈ ss) : ∃ t ∈ ts, Alike s t := by
  obtain ⟨us, halike, hperm⟩ := h
  obtain ⟨hlen, halike⟩ := forall₂_iff_getElem?.mp halike
  obtain ⟨i, hi, rfl⟩ := List.mem_iff_getElem.mp hs
  have hi' : i < us.length := hlen ▸ hi
  exact ⟨us[i], hperm.mem_iff.mp (List.getElem_mem hi'),
    halike i _ _ (List.getElem?_eq_getElem hi) (List.getElem?_eq_getElem hi')⟩

/-- Being matched goes both ways. -/
theorem symm (h : Matched ss ts) : Matched ts ss := by
  obtain ⟨us, halike, hperm⟩ := h
  have hback : List.Forall₂ Alike us ss := halike.flip.imp fun _ _ => Alike.symm
  exact List.perm_comp_forall₂ hperm.symm hback

/-- Matched schemas are inferred. -/
theorem inferred_left (h : Matched ss ts) {s : Schema} (hs : s ∈ ss) : Inferred s := by
  obtain ⟨t, -, hst⟩ := h.exists_right hs
  exact hst.inferred_left

/-- What alike schemas contribute alike, matched lists contribute matched. -/
theorem flatMap {f : Schema → List Schema}
    (hf : ∀ s t, Alike s t → List.Forall₂ Alike (f s) (f t)) (h : Matched ss ts) :
    Matched (ss.flatMap f) (ts.flatMap f) := by
  obtain ⟨us, halike, hperm⟩ := h
  exact ⟨us.flatMap f, List.rel_flatMap halike fun {s t} => hf s t, hperm.flatMap_right f⟩

end Matched

/-! ### What is kept -/

/-- Schemas no two of which are alike. -/
def Unlike (ss : List Schema) : Prop := ss.Pairwise fun s t => ¬ Alike s t

/-- Selections of unlike schemas are matched if each schema of the one is alike to one of the
other. -/
theorem matched_of_unlike {ss ts : List Schema} (hss : Unlike ss) (hts : Unlike ts)
    (hright : ∀ s ∈ ss, ∃ t ∈ ts, Alike s t) (hleft : ∀ t ∈ ts, ∃ s ∈ ss, Alike s t) :
    Matched ss ts := by
  induction ss generalizing ts with
  | nil =>
      cases ts with
      | nil => exact ⟨[], .nil, .refl _⟩
      | cons t ts => simpa using hleft t (List.mem_cons_self ..)
  | cons s ss ih =>
      obtain ⟨hs, hss⟩ := List.pairwise_cons.mp hss
      obtain ⟨t, ht, hst⟩ := hright s (List.mem_cons_self ..)
      obtain ⟨before, behind, rfl⟩ := List.append_of_mem ht
      have hperm : (before ++ t :: behind).Perm (t :: (before ++ behind)) := List.perm_middle
      obtain ⟨ht, hts⟩ := List.pairwise_cons.mp
        (hperm.pairwise hts fun {x y} hxy hyx => hxy hyx.symm)
      -- a schema alike to `t` is alike to `s`, so that the others stay matched without the two
      have hmatched : Matched ss (before ++ behind) := by
        refine ih hss hts (fun u hu => ?_) (fun w hw => ?_)
        · obtain ⟨w, hw, huw⟩ := hright u (List.mem_cons_of_mem _ hu)
          rcases List.mem_cons.mp (hperm.subset hw) with rfl | hw
          · exact absurd (hst.trans huw.symm) (hs u hu)
          · exact ⟨w, hw, huw⟩
        · obtain ⟨u, hu, huw⟩ := hleft w (hperm.symm.subset (List.mem_cons_of_mem _ hw))
          rcases List.mem_cons.mp hu with rfl | hu
          · exact absurd (hst.symm.trans huw) (ht w hw)
          · exact ⟨u, hu, huw⟩
      obtain ⟨us, halike, hus⟩ := hmatched
      exact ⟨t :: us, .cons hst halike, (hus.cons t).trans hperm.symm⟩

/-- No two of the schemas that are kept are alike. -/
theorem unlike_distinctFrom {kept ss : List Schema} (hkept : Unlike kept) :
    Unlike (distinctFrom kept ss) := by
  induction ss generalizing kept with
  | nil => exact hkept
  | cons s ss ih =>
      rw [distinctFrom]
      split
      · exact ih hkept
      · rename_i hany
        refine ih (List.pairwise_append.mpr ⟨hkept, List.pairwise_singleton .., ?_⟩)
        intro t ht u hu htu
        obtain rfl := List.mem_singleton.mp hu
        exact hany (List.any_eq_true.mpr ⟨t, ht, htu.same⟩)

/-- Every inferred schema is alike to one that is kept. -/
theorem exists_alike_of_distinct {ss : List Schema} (hss : ∀ s ∈ ss, Inferred s) {s : Schema}
    (hs : s ∈ ss) : ∃ t ∈ distinct ss, Alike t s := by
  have hex : ∃ t ∈ distinct ss, t = s ∨ t.same s = true := exists_mem_distinctFrom hs
  obtain ⟨t, ht, rfl | hsame⟩ := hex
  · exact ⟨t, ht, (hss t hs).alike⟩
  · exact ⟨t, ht, (hss t (mem_of_mem_distinct ht)).alike_of_same (hss s hs) hsame⟩

/-- Every schema that is kept of a list is alike to one that is kept of a matched list. -/
theorem Matched.exists_right_of_distinct {ss ts : List Schema} (h : Matched ss ts) {s : Schema}
    (hs : s ∈ Schema.distinct ss) : ∃ t ∈ Schema.distinct ts, Alike s t := by
  obtain ⟨t, ht, hst⟩ := h.exists_right (mem_of_mem_distinct hs)
  obtain ⟨u, hu, hut⟩ := exists_alike_of_distinct (fun _ => h.symm.inferred_left) ht
  exact ⟨u, hu, hst.trans hut.symm⟩

/-- **What is kept of matched lists is matched.** -/
theorem Matched.distinct {ss ts : List Schema} (h : Matched ss ts) :
    Matched (distinct ss) (distinct ts) := by
  refine matched_of_unlike (unlike_distinctFrom .nil) (unlike_distinctFrom .nil)
    (fun s hs => h.exists_right_of_distinct hs) (fun t ht => ?_)
  obtain ⟨s, hs, hts⟩ := h.symm.exists_right_of_distinct ht
  exact ⟨s, hs, hts.symm⟩

end JsonWorkbench.Schema
