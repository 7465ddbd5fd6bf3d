import JsonWorkbench.Json.Printer
import JsonWorkbench.Proofs.Reordering
import JsonWorkbench.Transform.KeyOrder

/-!
# Values with their Keys in Order

Objects with their keys in order are a normal form of values up to the order of keys. The order is
strict, so that a list of different keys can be put in it in one way only (`eq_of_precedes`); a list
of keys to come first may repeat keys and name absent ones, of which neither makes a member of an
object appear twice or get lost (`perm_eraseDups_orderedKeys`). From this it follows for whole
values by induction: the sorted value is a reordering of the value, and any two reorderings of each
other with their keys in order are the same (`InKeyOrder.eq_of_reordered`).

Numbers are the same if they are written the same: the two zeros of doubles are different.

## Main definitions

* `KeyPrecedes` — a key comes before another one.
* `Value.InKeyOrder` — the members of all objects stand in the order of their keys.

## Main results

* `sortKeys_eq_iff` — sorted values are the same exactly if the values are reorderings.
* `sortKeys_canonical` — what sorting keeps and what it gives.
-/

namespace JsonWorkbench

/-! ### The order of keys -/

/-- A key comes before another one: listed keys in the order of their first places in the list,
then all others by code points. -/
inductive KeyPrecedes (order : List String) : String → String → Prop
  /-- Both keys are listed, the first of them earlier. -/
  | listed {k l : String} (hk : k ∈ order) (hl : l ∈ order)
      (hplace : order.idxOf k < order.idxOf l) : KeyPrecedes order k l
  /-- Only the first key is listed. -/
  | first {k l : String} (hk : k ∈ order) (hl : l ∉ order) : KeyPrecedes order k l
  /-- Neither key is listed. -/
  | others {k l : String} (hk : k ∉ order) (hl : l ∉ order) (htext : k < l) :
      KeyPrecedes order k l

variable {order : List String}

/-- No two keys come before each other. -/
theorem KeyPrecedes.asymm {k l : String} (h : KeyPrecedes order k l) :
    ¬KeyPrecedes order l k := by
  intro h'
  cases h with
  | listed hk hl hplace =>
      cases h' with
      | listed _ _ hplace' => exact Nat.lt_asymm hplace hplace'
      | first _ hk' => exact hk' hk
      | others hl' _ _ => exact hl' hl
  | first hk hl =>
      cases h' with
      | listed hl' _ _ | first hl' _ => exact hl hl'
      | others _ hk' _ => exact hk' hk
  | others hk hl htext =>
      cases h' with
      | listed hl' _ _ | first hl' _ => exact hl hl'
      | others _ _ htext' => exact String.lt_asymm htext htext'

/-- Keys can be put in order in one way only. -/
theorem eq_of_precedes {ks ls : List String} (hks : ks.Pairwise (KeyPrecedes order))
    (hls : ls.Pairwise (KeyPrecedes order)) (h : ks.Perm ls) : ks = ls :=
  h.eq_of_pairwise (fun _ _ _ _ hkl hlk => absurd hlk hkl.asymm) hks hls

/-! ### Keys in order -/

section Keys

variable {ks : List String}

/-- The ordered keys are the keys. -/
theorem mem_orderedKeys_iff {k : String} : k ∈ orderedKeys order ks ↔ k ∈ ks := by
  by_cases hk : k ∈ order <;> simp [orderedKeys, hk]

/-- Of different keys none is lost and none repeated, whatever the list repeats or misses. -/
theorem perm_eraseDups_orderedKeys (hks : ks.Nodup) : (orderedKeys order ks).eraseDups.Perm ks := by
  rw [List.perm_ext_iff_of_nodup (Keyed.nodup_eraseDups _) hks]
  intro k
  rw [List.mem_eraseDups, mem_orderedKeys_iff]

/-- The keys of a list that have a property come in the order of their first places. -/
theorem pairwise_idxOf_eraseDups (p : String → Bool) (order : List String) :
    (order.filter p).eraseDups.Pairwise fun k l => order.idxOf k < order.idxOf l := by
  induction order using List.reverseRecOn with
  | nil => exact .nil
  | append_singleton order k ih =>
      have hknown : ∀ l ∈ (order.filter p).eraseDups, l ∈ order := fun l hl =>
        (List.mem_filter.mp (List.mem_eraseDups.mp hl)).1
      have hplace : ∀ l ∈ order, (order ++ [k]).idxOf l = order.idxOf l := fun l hl =>
        List.idxOf_append_of_mem hl
      have hbefore : (order.filter p).eraseDups.Pairwise fun l m =>
          (order ++ [k]).idxOf l < (order ++ [k]).idxOf m := by
        refine ih.imp_of_mem fun {l m} hl hm hlm => ?_
        rwa [hplace l (hknown l hl), hplace m (hknown m hm)]
      rw [List.filter_append]
      cases hk : p k with
      | false => simpa [hk] using hbefore
      | true =>
          rw [List.filter_cons_of_pos hk, List.filter_nil, Keyed.eraseDups_concat]
          split
          · exact hbefore
          · next hnew =>
              have hnot : k ∉ order := fun hmem => hnew (by simp [hmem, hk])
              refine List.pairwise_append.mpr ⟨hbefore, List.pairwise_singleton .., ?_⟩
              intro l hl m hm
              rw [List.mem_singleton.mp hm, hplace l (hknown l hl), List.idxOf_append,
                if_neg hnot]
              have hlt := List.idxOf_lt_length_iff.mpr (hknown l hl)
              omega

/-- Different keys are sorted by code points. -/
theorem pairwise_mergeSort_textLe (hks : ks.Nodup) : (ks.mergeSort textLe).Pairwise (· < ·) := by
  have hle : ∀ {k l : String}, textLe k l = true ↔ k ≤ l := fun {k l} => by
    rw [textLe, Bool.not_eq_true', decide_eq_false_iff_not, String.not_lt]
  have htrans : ∀ k l m, textLe k l = true → textLe l m = true → textLe k m = true :=
    fun k l m hkl hlm => hle.mpr (String.le_trans (hle.mp hkl) (hle.mp hlm))
  have htotal : ∀ k l, (textLe k l || textLe l k) = true := fun k l => by
    rw [Bool.or_eq_true, hle, hle]
    exact String.le_total k l
  have hnodup : (ks.mergeSort textLe).Nodup := (List.mergeSort_perm ks textLe).nodup_iff.mpr hks
  refine ((List.pairwise_mergeSort htrans htotal ks).and hnodup).imp fun {k l} h => ?_
  exact String.not_le.mp fun hlk => h.2 (String.le_antisymm (hle.mp h.1) hlk)

/-- **The ordered keys are in order**, but for repetitions. -/
theorem pairwise_eraseDups_orderedKeys (hks : ks.Nodup) :
    (orderedKeys order ks).eraseDups.Pairwise (KeyPrecedes order) := by
  have hothers := pairwise_mergeSort_textLe (hks.filter (!order.contains ·))
  have hlisted : ∀ k ∈ (order.filter ks.contains).eraseDups, k ∈ order := by
    intro k hk
    exact (List.mem_filter.mp (List.mem_eraseDups.mp hk)).1
  have hunlisted : ∀ k ∈ (ks.filter (!order.contains ·)).mergeSort textLe, k ∉ order := by
    simp
  have happend : (orderedKeys order ks).eraseDups = (order.filter ks.contains).eraseDups ++
      (ks.filter (!order.contains ·)).mergeSort textLe := by
    have hapart : ((ks.filter (!order.contains ·)).mergeSort textLe).removeAll
        (order.filter ks.contains) = (ks.filter (!order.contains ·)).mergeSort textLe := by
      rw [List.removeAll, List.filter_eq_self]
      intro k hk
      simp [hunlisted k hk]
    rw [orderedKeys, List.eraseDups_append, hapart,
      Keyed.eraseDups_of_nodup (hothers.imp String.ne_of_lt)]
  rw [happend]
  refine List.pairwise_append.mpr ⟨?_, ?_, fun k hk l hl => .first (hlisted k hk) (hunlisted l hl)⟩
  · exact (pairwise_idxOf_eraseDups _ order).imp_of_mem fun hk hl hplace =>
      .listed (hlisted _ hk) (hlisted _ hl) hplace
  · exact hothers.imp_of_mem fun hk hl htext => .others (hunlisted _ hk) (hunlisted _ hl) htext

/-- The members of an object with their keys in order. -/
theorem arrange_eq (order : List String) (ms : Members) :
    arrange order ms = (orderedKeys order (Members.keys ms)).eraseDups.map fun k =>
      (k, (Members.get? ms k).getD .null) := by
  have hpairs : ((orderedKeys order (Members.keys ms)).filterMap fun k =>
      (Members.get? ms k).map (k, ·)) = (orderedKeys order (Members.keys ms)).map fun k =>
        (k, (Members.get? ms k).getD .null) := by
    rw [← List.filterMap_eq_map]
    refine List.filterMap_congr fun k hk => ?_
    cases hget : Members.get? ms k with
    | none => exact absurd (mem_orderedKeys_iff.mp hk) (Keyed.get?_eq_none_iff.mp hget)
    | some v => simp [hget]
  rw [arrange, hpairs]
  exact Keyed.ofPairs_map _ _

/-- An object has the same members with its keys in order. -/
theorem arrange_perm {ms : Members} (hms : (Members.keys ms).Nodup) :
    (arrange order ms).Perm ms := by
  have hself : ((Members.keys ms).map fun k => (k, (Members.get? ms k).getD .null)) = ms := by
    rw [Members.keys, List.map_map]
    refine (List.map_congr_left fun m hm => ?_).trans (List.map_id ms)
    have hget : Members.get? ms m.1 = some m.2 := Keyed.get?_of_mem hms hm
    simp [hget]
  rw [arrange_eq]
  exact ((perm_eraseDups_orderedKeys hms).map _).trans (.of_eq hself)

/-- The keys of an object are in order. -/
theorem pairwise_keys_arrange {ms : Members} (hms : (Members.keys ms).Nodup) :
    (Members.keys (arrange order ms)).Pairwise (KeyPrecedes order) := by
  have hkeys : Members.keys (arrange order ms) =
      (orderedKeys order (Members.keys ms)).eraseDups := by
    rw [arrange_eq, Members.keys, List.map_map]
    exact List.map_id _
  rw [hkeys]
  exact pairwise_eraseDups_orderedKeys hms

end Keys

/-! ### Values in order -/

namespace Value

/-- The members of all objects in a value stand in the order of their keys. -/
inductive InKeyOrder (order : List String) : Value → Prop
  /-- Nothing is to be ordered in null. -/
  | null : InKeyOrder order .null
  /-- Nothing is to be ordered in a truth value. -/
  | bool (b : Bool) : InKeyOrder order (.bool b)
  /-- Nothing is to be ordered in a number. -/
  | number (n : Number) : InKeyOrder order (.number n)
  /-- Nothing is to be ordered in a text. -/
  | string (s : String) : InKeyOrder order (.string s)
  /-- The items of an array are in order, each in itself. -/
  | array {vs : List Value} (hitem : ∀ v ∈ vs, InKeyOrder order v) : InKeyOrder order (.array vs)
  /-- The keys of an object are in order, and its values each in itself. -/
  | object {ms : Members} (hkeys : (Members.keys ms).Pairwise (KeyPrecedes order))
      (hmember : ∀ k v, (k, v) ∈ ms → InKeyOrder order v) : InKeyOrder order (.object ms)

/-- Reorderings of each other with their keys in order are the same. -/
theorem InKeyOrder.eq_of_reordered {v w : Value} (hv : v.InKeyOrder order)
    (hw : w.InKeyOrder order) (h : v.Reordered w) : v = w := by
  induction h with
  | null | bool _ | number _ | string _ => rfl
  | @array vs ws hlen hitem ih =>
      obtain _ | _ | _ | _ | hvs := hv
      obtain _ | _ | _ | _ | hws := hw
      refine congrArg Value.array (List.ext_getElem hlen fun i hi hi' => ?_)
      exact ih i _ _ (List.getElem?_eq_getElem hi) (List.getElem?_eq_getElem hi')
        (hvs _ (List.getElem_mem hi)) (hws _ (List.getElem_mem hi'))
  | @object ms ns hkeys hmember ih =>
      obtain _ | _ | _ | _ | _ | ⟨hms, hmsv⟩ := hv
      obtain _ | _ | _ | _ | _ | ⟨hns, hnsv⟩ := hw
      have hsame : Members.keys ms = Members.keys ns := eq_of_precedes hms hns hkeys
      have hlen : ms.length = ns.length := by
        simpa [Members.keys] using congrArg List.length hsame
      refine congrArg Value.object (List.ext_getElem hlen fun i hi hi' => ?_)
      have hkey : ms[i].1 = ns[i].1 := by
        have hat := congrArg (·[i]?) hsame
        simpa [Members.keys, hi, hi'] using hat
      have hmem : (ms[i].1, ms[i].2) ∈ ms := List.getElem_mem hi
      have hmem' : (ms[i].1, ns[i].2) ∈ ns := hkey ▸ List.getElem_mem hi'
      exact Prod.ext hkey (ih _ _ _ hmem hmem' (hmsv _ _ hmem) (hnsv _ _ hmem'))

end Value

/-! ### Sorting -/

/-- The items of an array are sorted one by one. -/
theorem sortKeysItems_eq (order : List String) (vs : List Value) :
    sortKeysItems order vs = vs.map (sortKeys order) := by
  induction vs with
  | nil => rfl
  | cons v vs ih => rw [sortKeysItems, ih, List.map_cons]

/-- The values of members are sorted one by one. -/
theorem sortKeysMembers_eq (order : List String) (ms : Members) :
    sortKeysMembers order ms = ms.map fun m => (m.1, sortKeys order m.2) := by
  induction ms with
  | nil => rfl
  | cons m ms ih => rw [sortKeysMembers, ih, List.map_cons]

/-- The keys of an object whose values are sorted. -/
theorem keys_sortKeysMembers (order : List String) (ms : Members) :
    Members.keys (sortKeysMembers order ms) = Members.keys ms := by
  rw [sortKeysMembers_eq, Members.keys, List.map_map]
  rfl

/-- A member of a sorted object is the sorted value of a member. -/
theorem exists_of_mem_arrange {ms : Members} (hms : (ms.map (·.1)).Nodup) {k : String} {v : Value}
    (h : (k, v) ∈ arrange order (sortKeysMembers order ms)) :
    ∃ u, (k, u) ∈ ms ∧ v = sortKeys order u := by
  have hkeys : (Members.keys (sortKeysMembers order ms)).Nodup :=
    (keys_sortKeysMembers order ms).symm ▸ hms
  have hmem := (arrange_perm hkeys).subset h
  rw [sortKeysMembers_eq] at hmem
  obtain ⟨⟨k', u⟩, hu, heq⟩ := List.mem_map.mp hmem
  obtain ⟨rfl, rfl⟩ := Prod.mk.inj heq
  exact ⟨u, hu, rfl⟩

/-- A sorted value is a reordering of the value. -/
theorem reordered_sortKeys (order : List String) {v : Value} (hv : v.WellFormed) :
    (sortKeys order v).Reordered v := by
  induction v using Value.induct with
  | null | bool _ | number _ | string _ => exact (Value.reordered_scalar_iff rfl).mpr rfl
  | array vs ih =>
      rw [Value.wellFormed_array_iff] at hv
      rw [sortKeys, sortKeysItems_eq, Value.reordered_array_iff, List.forall₂_map_left_iff,
        List.forall₂_same]
      exact fun v hm => ih v hm (hv.2 v hm)
  | object ms ih =>
      rw [Value.wellFormed_object_iff] at hv
      have hkeys : (Members.keys (sortKeysMembers order ms)).Nodup :=
        (keys_sortKeysMembers order ms).symm ▸ hv.1
      refine .object ?_ fun k v w hkv hkw => ?_
      · exact ((arrange_perm hkeys).map _).trans (.of_eq (keys_sortKeysMembers order ms))
      · obtain ⟨u, hu, rfl⟩ := exists_of_mem_arrange hv.1 hkv
        obtain rfl : u = w := Option.some.inj
          ((Keyed.get?_of_mem hv.1 hu).symm.trans (Keyed.get?_of_mem hv.1 hkw))
        exact ih k u hu (hv.2 k u hu)

/-- The keys of a sorted value are in order. -/
theorem inKeyOrder_sortKeys (order : List String) {v : Value} (hv : v.WellFormed) :
    (sortKeys order v).InKeyOrder order := by
  induction v using Value.induct with
  | null => exact .null
  | bool b => exact .bool b
  | number n => exact .number n
  | string s => exact .string s
  | array vs ih =>
      rw [Value.wellFormed_array_iff] at hv
      rw [sortKeys, sortKeysItems_eq]
      exact .array (List.forall_mem_map.mpr fun v hm => ih v hm (hv.2 v hm))
  | object ms ih =>
      rw [Value.wellFormed_object_iff] at hv
      have hkeys : (Members.keys (sortKeysMembers order ms)).Nodup :=
        (keys_sortKeysMembers order ms).symm ▸ hv.1
      refine .object (pairwise_keys_arrange hkeys) fun k v hkv => ?_
      obtain ⟨u, hu, rfl⟩ := exists_of_mem_arrange hv.1 hkv
      exact ih k u hu (hv.2 k u hu)

/-- **Sorted values are the same exactly if the values are reorderings of each other.** -/
theorem sortKeys_eq_iff (order : List String) {v w : Value} (hv : v.WellFormed)
    (hw : w.WellFormed) : sortKeys order v = sortKeys order w ↔ v.Reordered w := by
  have hsv := reordered_sortKeys order hv
  have hsw := reordered_sortKeys order hw
  constructor
  · intro heq
    rw [heq] at hsv
    exact hsv.symm.trans hsw
  · intro h
    exact (inKeyOrder_sortKeys order hv).eq_of_reordered (inKeyOrder_sortKeys order hw)
      ((hsv.trans h).trans hsw.symm)

/-- **Sorting the keys gives a canonical form**, whatever the list of keys to come first: the sorted
value is the value up to the order of keys, its keys are in order in every object, and values that
are the same up to the order of keys are written as the same text. -/
theorem sortKeys_canonical (order : List String) {v w : Value} (hv : v.WellFormed)
    (hw : w.WellFormed) :
    (sortKeys order v).Reordered v ∧ (sortKeys order v).InKeyOrder order ∧
      (v.Reordered w → Json.minify (sortKeys order v) = Json.minify (sortKeys order w)) :=
  ⟨reordered_sortKeys order hv, inKeyOrder_sortKeys order hv, fun h =>
    congrArg Json.minify ((sortKeys_eq_iff order hv hw).mpr h)⟩

/-- A record of records. -/
def parcelRecord : Value :=
  .object [("note", .null), ("id", .int 7),
    ("parts", .array [.object [("weight", .int 2), ("id", .int 1)], .object []])]

/-- The same record with its members in other orders. -/
def turnedParcelRecord : Value :=
  .object [("parts", .array [.object [("id", .int 1), ("weight", .int 2)], .object []]),
    ("id", .int 7), ("note", .null)]

/-- A list that repeats a key and has one that is nowhere brings a record and a reordering of it
into the same form. -/
theorem sortKeys_canonical_parcelRecord :
    (parcelRecord.WellFormed ∧ turnedParcelRecord.WellFormed) ∧
      parcelRecord.Reordered turnedParcelRecord ∧
      (sortKeys ["id", "name", "id"] parcelRecord).Reordered parcelRecord ∧
      (sortKeys ["id", "name", "id"] parcelRecord).InKeyOrder ["id", "name", "id"] ∧
      Json.minify (sortKeys ["id", "name", "id"] parcelRecord) =
        Json.minify (sortKeys ["id", "name", "id"] turnedParcelRecord) := by
  have hwell : parcelRecord.WellFormed ∧ turnedParcelRecord.WellFormed := by decide
  have hints : parcelRecord.IsIntegral ∧ turnedParcelRecord.IsIntegral := by decide
  have hreordered : parcelRecord.Reordered turnedParcelRecord :=
    (Value.looseEq_iff_reordered hwell.1 hwell.2 hints.1 hints.2).mp (by rfl)
  obtain ⟨hsame, hordered, htext⟩ := sortKeys_canonical ["id", "name", "id"] hwell.1 hwell.2
  exact ⟨hwell, hreordered, hsame, hordered, htext hreordered⟩

end JsonWorkbench
