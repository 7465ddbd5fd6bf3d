import JsonWorkbench.Proofs.Difference.Place
import Mathlib.Data.List.Forall2
import Mathlib.Data.List.Nodup

/-!
# Documents by their Differences

No change is lost: the differences of a document to two others are the same list only if the two
are the same up to the order of keys. The differences at a path and those below each of its
segments can be told from each other by their paths alone, so that two equal lists are equal place
by place. At a place where nothing is listed the right value is the left one; what is listed names
the right value, or is a change of length, beside which the items are compared one by one.

The values that differences name need only be the same up to the order of keys themselves. All
numbers have to be integers: a left double may be equal as data to two different integers.

## Main definitions

* `Difference.Same` — differences at one path that name the same values up to the order of keys.

## Main results

* `reordered_of_diff_same` — documents with the same differences to one document are the same.
-/

namespace JsonWorkbench

/-! ### Reordered containers -/

/-- Of two related values that may be missing both are missing or neither. -/
theorem rel_eq_none_iff {α β : Type} {R : α → β → Prop} {a : Option α} {b : Option β}
    (h : Option.Rel R a b) : a = none ↔ b = none := by
  cases h <;> simp

namespace Value

/-- A well-formed value is a reordering of itself. -/
theorem Reordered.refl {v : Value} (hv : v.WellFormed) : v.Reordered v := by
  induction v using Value.induct with
  | null | bool _ | number _ | string _ => exact (reordered_scalar_iff rfl).mpr rfl
  | array vs ih =>
      rw [wellFormed_array_iff] at hv
      rw [reordered_array_iff, List.forall₂_same]
      exact fun v hm => ih v hm (hv.2 v hm)
  | object ms ih =>
      rw [wellFormed_object_iff] at hv
      rw [reordered_object_iff hv.1 hv.1]
      exact ⟨rfl, fun k v hm => ⟨v, Keyed.get?_of_mem hv.1 hm, ih k v hm (hv.2 k v hm)⟩⟩

/-- Arrays are reorderings if they hold reorderings, or nothing, at every index. -/
theorem reordered_array_of_getElem? {vs ws : List Value}
    (h : ∀ i : Nat, Option.Rel Reordered vs[i]? ws[i]?) : Reordered (.array vs) (.array ws) := by
  refine .array ?_ fun i v w hv hw => ?_
  · have hnone : ∀ i : Nat, vs[i]? = none ↔ ws[i]? = none := fun i => rel_eq_none_iff (h i)
    have hle : ∀ i : Nat, vs.length ≤ i ↔ ws.length ≤ i := by simpa using hnone
    exact Nat.le_antisymm ((hle _).mpr (Nat.le_refl _)) ((hle _).mp (Nat.le_refl _))
  · have hi := h i
    rw [hv, hw] at hi
    cases hi with
    | some hvw => exact hvw

/-- Objects are reorderings if they hold reorderings, or nothing, under every key. -/
theorem reordered_object_of_get? {ms ns : Members} (hms : (ms.map (·.1)).Nodup)
    (hns : (ns.map (·.1)).Nodup)
    (h : ∀ k, Option.Rel Reordered (Members.get? ms k) (Members.get? ns k)) :
    Reordered (.object ms) (.object ns) := by
  refine .object ?_ fun k v w hv hw => ?_
  · rw [List.perm_ext_iff_of_nodup hms hns]
    intro k
    rw [← not_iff_not, ← Keyed.get?_eq_none_iff, ← Keyed.get?_eq_none_iff]
    exact rel_eq_none_iff (h k)
  · have hk := h k
    rw [Members.get?, Members.get?, Keyed.get?_of_mem hms hv, Keyed.get?_of_mem hns hw] at hk
    cases hk with
    | some hvw => exact hvw

end Value

/-! ### The same differences -/

/-- Two changes are the same up to the order of keys in the values that they name. -/
inductive Change.Same : Change → Change → Prop
  /-- A change is the same as itself. -/
  | refl (c : Change) : Same c c
  /-- Reorderings have been added. -/
  | added {v w : Value} (h : v.Reordered w) : Same (.added v) (.added w)
  /-- Reorderings have been removed. -/
  | removed {v w : Value} (h : v.Reordered w) : Same (.removed v) (.removed w)
  /-- Reorderings have changed into reorderings. -/
  | valueChange {v v' w w' : Value} (hv : v.Reordered v') (hw : w.Reordered w') :
      Same (.valueChange v w) (.valueChange v' w')
  /-- Values of one kind have changed into reorderings of another kind. -/
  | kindChange (a b : Kind) {v w : Value} (h : v.Reordered w) :
      Same (.kindChange a b v) (.kindChange a b w)

/-- Two differences are the same up to the order of keys in the values that they name. -/
def Difference.Same (d e : Difference) : Prop := d.path = e.path ∧ d.change.Same e.change

/-- A change of kind names the right value. -/
theorem Change.Between.eq_of_kindChange {a b : Kind} {w r : Value} {l : Option Value}
    (h : Between (.kindChange a b w) l (some r)) : w = r := by
  cases h with
  | kindChange => rfl

/-- A change of length is one of arrays. -/
theorem Change.Between.exists_of_arrayLength {m n : Nat} {l r : Value}
    (h : Between (.arrayLength m n) (some l) (some r)) :
    ∃ ls rs, l = .array ls ∧ r = .array rs := by
  cases h with
  | arrayLength => exact ⟨_, _, rfl, rfl⟩

/-- The same additions are reorderings. -/
theorem Change.Same.reordered_of_added {v w : Value} (h : Same (.added v) (.added w))
    (hv : v.WellFormed) : v.Reordered w := by
  cases h with
  | refl => exact .refl hv
  | added h => exact h

/-- A change that is the same as a removal is a removal. -/
theorem Change.Same.removed_iff {c c' : Change} (h : c.Same c') :
    (∃ v, c = .removed v) ↔ ∃ v, c' = .removed v := by
  cases h <;> simp

/-- The same change of a value leads to reorderings, or is one of the length of arrays. -/
theorem Change.Same.reordered {c c' : Change} (h : c.Same c') {l r r' : Value}
    (hr : r.WellFormed) (hc : c.Between (some l) (some r)) (hc' : c'.Between (some l) (some r')) :
    r.Reordered r' ∨ ∃ ls rs rs', l = .array ls ∧ r = .array rs ∧ r' = .array rs' := by
  cases c with
  | added v => cases hc
  | removed v => cases hc
  | valueChange v w =>
      cases hc
      cases h with
      | refl =>
          cases hc'
          exact .inl (.refl hr)
      | valueChange _ h =>
          cases hc'
          exact .inl h
  | kindChange a b w =>
      obtain rfl := hc.eq_of_kindChange
      cases h with
      | refl =>
          obtain rfl := hc'.eq_of_kindChange
          exact .inl (.refl hr)
      | kindChange _ _ h =>
          obtain rfl := hc'.eq_of_kindChange
          exact .inl h
  | arrayLength m n =>
      cases h
      obtain ⟨ls, rs, rfl, rfl⟩ := hc.exists_of_arrayLength
      obtain ⟨ls', rs', hls, rfl⟩ := hc'.exists_of_arrayLength
      exact .inr ⟨ls, rs, rs', rfl, rfl, rfl⟩

/-! ### The differences at one place -/

/-- A path does not lead on from a longer one. -/
theorem not_append_singleton_prefix (path : Path) (s : Segment Condition) :
    ¬path ++ [s] <+: path := fun h =>
  Nat.not_succ_le_self path.length (by simpa using h.length_le)

section Places

open scoped Classical in
/-- The differences of a list that stand at a path. -/
noncomputable def standingAt (path : Path) (ds : List Difference) : List Difference :=
  ds.filter fun d => d.path = path

open scoped Classical in
/-- The differences of a list that stand at a path or below it. -/
noncomputable def standingBelow (path : Path) (ds : List Difference) : List Difference :=
  ds.filter fun d => path <+: d.path

variable {l r : Value} (hl : l.WellFormed) (hr : r.WellFormed) (path : Path)

include hl hr

/-- The differences below a segment are recognised by their paths. -/
theorem prefix_of_mem_segment {s : Segment Condition} {d : Difference}
    (h : d ∈ differencesAt (path ++ [s]) (step l s) (step r s)) : path ++ [s] <+: d.path :=
  prefix_of_mem_differencesAt (fun _ hv => hl.step hv) (fun _ hv => hr.step hv) h

/-- At the path of two values stand the changes at their place. -/
theorem standingAt_differences :
    standingAt path (differences path l r) = (ownChanges l r).map (Difference.mk path) := by
  rw [standingAt, differences_eq hl hr, List.filter_append, List.filter_eq_self.mpr ?here,
    List.filter_eq_nil_iff.mpr ?below, List.append_nil]
  case here =>
    intro d hd
    obtain ⟨c, -, rfl⟩ := List.mem_map.mp hd
    simp
  case below =>
    intro d hd
    obtain ⟨s, -, hd⟩ := List.mem_flatMap.mp hd
    have hprefix : path ++ [s] <+: d.path := prefix_of_mem_segment hl hr path hd
    have hne : d.path ≠ path := by
      intro hpath
      rw [hpath] at hprefix
      exact not_append_singleton_prefix path s hprefix
    simpa using hne

/-- Below a segment at which two values are compared stand the differences between what it leads
to; below any other segment stands nothing. -/
theorem standingBelow_differences (s : Segment Condition)
    (hs : s ∉ comparedSegments l r → step l s = none ∧ step r s = none) :
    standingBelow (path ++ [s]) (differences path l r) =
      differencesAt (path ++ [s]) (step l s) (step r s) := by
  have hown : standingBelow (path ++ [s]) ((ownChanges l r).map (Difference.mk path)) = [] := by
    refine List.filter_eq_nil_iff.mpr fun d hd => ?_
    obtain ⟨c, -, rfl⟩ := List.mem_map.mp hd
    simpa using not_append_singleton_prefix path s
  have hsame : standingBelow (path ++ [s]) (differencesAt (path ++ [s]) (step l s) (step r s)) =
      differencesAt (path ++ [s]) (step l s) (step r s) := by
    refine List.filter_eq_self.mpr fun d hd => ?_
    simpa using prefix_of_mem_segment hl hr path hd
  have hother : ∀ segments : List (Segment Condition), s ∉ segments →
      standingBelow (path ++ [s]) (segments.flatMap fun t =>
        differencesAt (path ++ [t]) (step l t) (step r t)) = [] := by
    intro segments hnot
    refine List.filter_eq_nil_iff.mpr fun d hd => ?_
    obtain ⟨t, ht, hd⟩ := List.mem_flatMap.mp hd
    have hst : s ≠ t := fun heq => hnot (heq ▸ ht)
    have hprefix : ¬path ++ [s] <+: d.path := fun h =>
      (Apart.of_segments hst h (prefix_of_mem_segment hl hr path hd)).1 List.prefix_rfl
    simpa using hprefix
  have hsplit : ∀ ds es, standingBelow (path ++ [s]) (ds ++ es) =
      standingBelow (path ++ [s]) ds ++ standingBelow (path ++ [s]) es := fun ds es =>
    List.filter_append ..
  rw [differences_eq hl hr, hsplit, hown, List.nil_append]
  by_cases hmem : s ∈ comparedSegments l r
  · obtain ⟨before, behind, heq⟩ := List.append_of_mem hmem
    have hnodup : (before ++ s :: behind).Nodup := heq ▸ nodup_comparedSegments hl hr
    have hbefore : s ∉ before := fun h => by
      exact (List.disjoint_of_nodup_append hnodup) h (List.mem_cons_self ..)
    have hbehind : s ∉ behind := (List.nodup_cons.mp (List.nodup_append.mp hnodup).2.1).1
    rw [heq, List.flatMap_append, List.flatMap_cons, hsplit, hsplit, hother before hbefore,
      hother behind hbehind, hsame, List.nil_append, List.append_nil]
  · obtain ⟨hleft, hright⟩ := hs hmem
    rw [hother _ hmem, hleft, hright, differencesAt]

end Places

/-! ### The right value -/

/-- Arrays are compared at all indices that they have. -/
theorem step_index_eq_none {ls rs : List Value} {i : Nat}
    (h : .index i ∉ comparedSegments (.array ls) (.array rs)) :
    ls[i]? = none ∧ rs[i]? = none := by
  simpa [comparedSegments, Nat.max_le] using h

/-- Objects are compared at all keys that they have. -/
theorem step_key_eq_none {ls rs : Members} {k : String}
    (h : .key k ∉ comparedSegments (.object ls) (.object rs)) :
    Members.get? ls k = none ∧ Members.get? rs k = none := by
  have hkeys : k ∉ ls.map (·.1) ∧ k ∉ (rs.filter fun m => !Members.has ls m.1).map (·.1) := by
    rw [comparedSegments, List.mem_map_of_injective fun _ _ hk => Segment.key.inj hk,
      List.mem_append, not_or] at h
    exact h
  refine ⟨Keyed.get?_eq_none_iff.mpr hkeys.1, Keyed.get?_eq_none_iff.mpr fun hmem => hkeys.2 ?_⟩
  obtain ⟨⟨k, v⟩, hm, rfl⟩ := List.mem_map.mp hmem
  have hnew : Members.has ls k = false := by
    rw [← Bool.not_eq_true, Members.has, Keyed.has_iff]
    exact hkeys.1
  exact List.mem_map.mpr ⟨(k, v), List.mem_filter.mpr ⟨hm, by simp [hnew]⟩, rfl⟩

/-- Where nothing has changed, the kind has not. -/
theorem kind_eq_of_ownChanges {l r : Value} (h : ownChanges l r = []) : l.kind = r.kind := by
  by_contra hkind
  have hone : ownChanges l r = [.kindChange l.kind r.kind r] := if_neg hkind
  exact List.cons_ne_nil _ _ (hone.symm.trans h)

/-- A scalar at whose place nothing has changed is the right value, where numbers are integers. -/
theorem eq_of_ownChanges_scalar {l r : Value} (hscalar : l.isContainer = false)
    (hl : l.WellFormed) (hr : r.WellFormed) (hil : l.IsIntegral) (hir : r.IsIntegral)
    (h : ownChanges l r = []) : l = r := by
  have hkind : l.kind = r.kind := kind_eq_of_ownChanges h
  have heq : l.looseEq r = true := by
    by_contra hne
    rw [ownChanges_scalar hscalar, if_pos hkind, if_neg hne] at h
    exact List.cons_ne_nil _ _ h
  exact (Value.reordered_scalar_iff hscalar).mp
    ((Value.looseEq_iff_reordered hl hr hil hir).mp heq)

/-- Lists of the same differences are the same at every path. -/
theorem same_standingAt {ds es : List Difference} (h : List.Forall₂ Difference.Same ds es)
    (path : Path) :
    List.Forall₂ Difference.Same (standingAt path ds) (standingAt path es) :=
  List.rel_filter (fun _ _ hde => by simp [hde.1]) h

/-- Lists of the same differences are the same below every path. -/
theorem same_standingBelow {ds es : List Difference} (h : List.Forall₂ Difference.Same ds es)
    (path : Path) :
    List.Forall₂ Difference.Same (standingBelow path ds) (standingBelow path es) :=
  List.rel_filter (fun _ _ hde => by simp [hde.1]) h

/-- At the place of two values no difference is a removal. -/
theorem not_removed_of_mem_differences {l r : Value} (hl : l.WellFormed) (hr : r.WellFormed)
    {path : Path} {d : Difference} (h : d ∈ differences path l r) (hpath : d.path = path) :
    ¬∃ v, d.change = .removed v := by
  obtain ⟨rest, hrest, hbetween⟩ := between_of_mem_differences hl hr h
  obtain rfl : rest = [] := by simpa [hpath] using hrest
  rintro ⟨v, hremoved⟩
  rw [hremoved] at hbetween
  cases hbetween

/-- The same differences of two values that may be missing, to one that may be missing, make the
two reorderings, if they do so where nothing is missing. -/
theorem rel_of_same_differencesAt {l r r' : Option Value} (hl : ∀ v, l = some v → v.WellFormed)
    (hr : ∀ v, r = some v → v.WellFormed) (hr' : ∀ v, r' = some v → v.WellFormed) {path : Path}
    (h : List.Forall₂ Difference.Same (differencesAt path l r) (differencesAt path l r'))
    (ih : ∀ v w w', l = some v → r = some w → r' = some w' →
      List.Forall₂ Difference.Same (differences path v w) (differences path v w') →
        w.Reordered w') :
    Option.Rel Value.Reordered r r' := by
  rcases r with - | w <;> rcases r' with - | w'
  · exact .none
  · rcases l with - | v
    · cases h
    · obtain ⟨d, ds, ⟨hpath, hsame⟩, -, heq⟩ := List.forall₂_cons_left_iff.mp h
      rw [differencesAt] at heq
      have hmem : d ∈ differences path v w' := heq ▸ List.mem_cons_self ..
      exact absurd (hsame.removed_iff.mp ⟨v, rfl⟩)
        (not_removed_of_mem_differences (hl v rfl) (hr' w' rfl) hmem hpath.symm)
  · rcases l with - | v
    · cases h
    · obtain ⟨d, ds, ⟨hpath, hsame⟩, -, heq⟩ := List.forall₂_cons_right_iff.mp h
      rw [differencesAt] at heq
      have hmem : d ∈ differences path v w := heq ▸ List.mem_cons_self ..
      exact absurd (hsame.removed_iff.mpr ⟨v, rfl⟩)
        (not_removed_of_mem_differences (hl v rfl) (hr w rfl) hmem hpath)
  · rcases l with - | v
    · rw [differencesAt, differencesAt, List.forall₂_cons] at h
      exact .some (h.1.2.reordered_of_added (hr w rfl))
    · exact .some (ih v w w' rfl rfl rfl h)

section Same

variable {l r r' : Value} (hl : l.WellFormed) (hr : r.WellFormed) (hr' : r'.WellFormed)
  {path : Path} (h : List.Forall₂ Difference.Same (differences path l r) (differences path l r'))

include hl hr hr' h

/-- Where the differences are the same, so is what has changed at the place itself. -/
theorem same_ownChanges : List.Forall₂ Change.Same (ownChanges l r) (ownChanges l r') := by
  have hat := same_standingAt h path
  rw [standingAt_differences hl hr, standingAt_differences hl hr'] at hat
  exact (List.forall₂_map_left_iff.mp (List.forall₂_map_right_iff.mp hat)).imp
    fun _ _ hsame => hsame.2

/-- Where the differences are the same, so are those below a segment. -/
theorem same_differencesAt {s : Segment Condition}
    (hs : s ∉ comparedSegments l r → step l s = none ∧ step r s = none)
    (hs' : s ∉ comparedSegments l r' → step l s = none ∧ step r' s = none) :
    List.Forall₂ Difference.Same (differencesAt (path ++ [s]) (step l s) (step r s))
      (differencesAt (path ++ [s]) (step l s) (step r' s)) := by
  have hbelow := same_standingBelow h (path ++ [s])
  rwa [standingBelow_differences hl hr path s hs,
    standingBelow_differences hl hr' path s hs'] at hbelow

end Same

/-- Two values with the same differences to one value, wherever it stands, are reorderings. -/
theorem reordered_of_same_differences {l r r' : Value} (hl : l.WellFormed) (hr : r.WellFormed)
    (hr' : r'.WellFormed) (hil : l.IsIntegral) (hir : r.IsIntegral) (hir' : r'.IsIntegral)
    {path : Path}
    (h : List.Forall₂ Difference.Same (differences path l r) (differences path l r')) :
    r.Reordered r' := by
  induction l using Value.induct_step (φ := Condition) generalizing r r' path with
  | ih l ih =>
      have hown := same_ownChanges hl hr hr' h
      have hbelow : ∀ s : Segment Condition,
          (s ∉ comparedSegments l r → step l s = none ∧ step r s = none) →
          (s ∉ comparedSegments l r' → step l s = none ∧ step r' s = none) →
          Option.Rel Value.Reordered (step r s) (step r' s) := by
        intro s hs hs'
        refine rel_of_same_differencesAt (fun _ hv => hl.step hv) (fun _ hv => hr.step hv)
          (fun _ hv => hr'.step hv) (same_differencesAt hl hr hr' h hs hs')
          fun v w w' hv hw hw' hsame => ?_
        exact ih s v hv (hl.step hv) (hr.step hw) (hr'.step hw') (hil.step hv) (hir.step hw)
          (hir'.step hw') hsame
      have harrays : ∀ ls rs rs', l = .array ls → r = .array rs → r' = .array rs' →
          r.Reordered r' := by
        rintro ls rs rs' rfl rfl rfl
        exact Value.reordered_array_of_getElem? fun i =>
          hbelow (.index i) step_index_eq_none step_index_eq_none
      have hobjects : ∀ ls rs rs', l = .object ls → r = .object rs → r' = .object rs' →
          r.Reordered r' := by
        rintro ls rs rs' rfl rfl rfl
        exact Value.reordered_object_of_get? (Value.wellFormed_object_iff.mp hr).1
          (Value.wellFormed_object_iff.mp hr').1 fun k =>
            hbelow (.key k) step_key_eq_none step_key_eq_none
      rcases ownChanges_cases l r with hnone | ⟨c, hone, hbetween, -⟩
      · have hnone' : ownChanges l r' = [] := List.forall₂_nil_left_iff.mp (hnone ▸ hown)
        have hkind : l.kind = r.kind := kind_eq_of_ownChanges hnone
        have hkind' : l.kind = r'.kind := kind_eq_of_ownChanges hnone'
        cases l with
        | null | bool _ | number _ | string _ =>
            obtain rfl := eq_of_ownChanges_scalar rfl hl hr hil hir hnone
            obtain rfl := eq_of_ownChanges_scalar rfl hl hr' hil hir' hnone'
            exact .refl hl
        | array ls =>
            obtain ⟨rs, rfl⟩ := Value.exists_array hkind.symm
            obtain ⟨rs', rfl⟩ := Value.exists_array hkind'.symm
            exact harrays ls rs rs' rfl rfl rfl
        | object ls =>
            obtain ⟨rs, rfl⟩ := Value.exists_object hkind.symm
            obtain ⟨rs', rfl⟩ := Value.exists_object hkind'.symm
            exact hobjects ls rs rs' rfl rfl rfl
      · obtain ⟨c', cs, hsame, -, hone'⟩ := List.forall₂_cons_left_iff.mp (hone ▸ hown)
        have hmem : c' ∈ ownChanges l r' := hone' ▸ List.mem_cons_self ..
        rcases hsame.reordered hr hbetween (of_mem_ownChanges hmem).1 with
          hreordered | ⟨ls, rs, rs', hls, hrs, hrs'⟩
        · exact hreordered
        · exact harrays ls rs rs' hls hrs hrs'

/-! ### Documents -/

/-- **The differences to a document lose no change**: documents with integers only that have the
same differences to one of them, equal lists among them, are the same up to the order of keys. -/
theorem reordered_of_diff_same {l r r' : Value} (hl : l.WellFormed) (hr : r.WellFormed)
    (hr' : r'.WellFormed) (hil : l.IsIntegral) (hir : r.IsIntegral) (hir' : r'.IsIntegral)
    (h : List.Forall₂ Difference.Same (diff l r) (diff l r')) : r.Reordered r' :=
  reordered_of_same_differences hl hr hr' hil hir hir' h

/-- A document with a list in it. -/
def draftRecord : Value :=
  .object [("size", .int 1), ("list", .array [.bool true, .object [("x", .int 1), ("y", .null)]])]

/-- The document with a value changed and members added. -/
def editedRecord : Value :=
  .object [("list", .array [.bool true, .object [("y", .int 2), ("x", .int 1)], .null]),
    ("new", .object [("a", .int 1), ("b", .array [])]), ("size", .int 1)]

/-- The edited document with the members of all objects in another order. -/
def shuffledRecord : Value :=
  .object [("size", .int 1), ("new", .object [("b", .array []), ("a", .int 1)]),
    ("list", .array [.bool true, .object [("x", .int 1), ("y", .int 2)], .null])]

/-- Documents whose differences to one are the same, the order of the members of an added object
apart, are the same up to the order of keys. -/
theorem reordered_of_diff_same_shuffledRecord :
    (draftRecord.WellFormed ∧ editedRecord.WellFormed ∧ shuffledRecord.WellFormed) ∧
      (draftRecord.IsIntegral ∧ editedRecord.IsIntegral ∧ shuffledRecord.IsIntegral) ∧
      List.Forall₂ Difference.Same (diff draftRecord editedRecord)
        (diff draftRecord shuffledRecord) ∧
      editedRecord.Reordered shuffledRecord := by
  have hwell : draftRecord.WellFormed ∧ editedRecord.WellFormed ∧ shuffledRecord.WellFormed := by
    decide
  have hints : draftRecord.IsIntegral ∧ editedRecord.IsIntegral ∧ shuffledRecord.IsIntegral := by
    decide
  have hadded : (Value.object [("a", .int 1), ("b", .array [])]).Reordered
      (.object [("b", .array []), ("a", .int 1)]) := by
    refine (Value.reordered_object_iff (by simp) (by simp)).mpr ⟨rfl, fun k v hm => ?_⟩
    simp only [List.mem_cons, Prod.mk.injEq, List.not_mem_nil, or_false] at hm
    rcases hm with ⟨rfl, rfl⟩ | ⟨rfl, rfl⟩
    · exact ⟨.int 1, rfl, .number _⟩
    · exact ⟨.array [], rfl, Value.reordered_array_iff.mpr .nil⟩
  have hsame : List.Forall₂ Difference.Same (diff draftRecord editedRecord)
      (diff draftRecord shuffledRecord) :=
    .cons ⟨rfl, .refl _⟩ (.cons ⟨rfl, .refl _⟩ (.cons ⟨rfl, .refl _⟩
      (.cons ⟨rfl, .added hadded⟩ .nil)))
  exact ⟨hwell, hints, hsame, reordered_of_diff_same hwell.1 hwell.2.1 hwell.2.2 hints.1 hints.2.1
    hints.2.2 hsame⟩

end JsonWorkbench
