import JsonWorkbench.Keyed
import Mathlib.Data.List.Induction
import Mathlib.Data.List.Nodup

/-!
# The Laws of Keyed Lists

A keyed list is a finite map together with an order of its keys. The lemmas of this module say
what look-up answers after an insertion and what an insertion makes of the list itself: a known
key keeps its place, a new one comes last. Where no key is repeated, look-up is membership, and
inserting the pairs one after another gives the list back; of repeated keys the first place is kept.
-/

namespace JsonWorkbench.Keyed

variable {α : Type}

/-- What is so of all pairs is so of the first one and of the others. -/
theorem forall_mem_cons {p : String → α → Prop} {k : String} {a : α} {ps : List (String × α)} :
    (∀ l b, (l, b) ∈ (k, a) :: ps → p l b) ↔ p k a ∧ ∀ l b, (l, b) ∈ ps → p l b := by
  have h := List.forall_mem_cons (p := fun q : String × α => p q.1 q.2) (a := (k, a)) (l := ps)
  simpa only [Prod.forall] using h

/-! ### Look-up -/

/-- Look-up finds nothing exactly under the keys that do not occur. -/
theorem get?_eq_none_iff {ps : List (String × α)} {key : String} :
    get? ps key = none ↔ key ∉ ps.map (·.1) := by
  induction ps with
  | nil => simp [get?]
  | cons p ps ih =>
      by_cases h : p.1 = key
      · simp [get?, h]
      · simp [get?, h, ih, Ne.symm h]

/-- What look-up finds is a pair of the list. -/
theorem mem_of_get? {ps : List (String × α)} {key : String} {a : α} (h : get? ps key = some a) :
    (key, a) ∈ ps := by
  induction ps with
  | nil => simp [get?] at h
  | cons p ps ih =>
      obtain ⟨k, b⟩ := p
      by_cases hk : k = key
      · simp only [get?, hk, if_true, Option.some.injEq] at h
        simp [hk, h]
      · rw [get?, if_neg hk] at h
        exact List.mem_cons_of_mem _ (ih h)

/-- Where no key is repeated, look-up finds every pair. -/
theorem get?_of_mem {ps : List (String × α)} (hps : (ps.map (·.1)).Nodup) {key : String} {a : α}
    (h : (key, a) ∈ ps) : get? ps key = some a := by
  induction ps with
  | nil => simp at h
  | cons p ps ih =>
      obtain ⟨k, b⟩ := p
      rw [List.map_cons, List.nodup_cons] at hps
      rcases List.mem_cons.mp h with heq | hmem
      · obtain ⟨rfl, rfl⟩ := Prod.mk.inj heq
        simp [get?]
      · have hk : k ≠ key := by
          rintro rfl
          exact hps.1 (List.mem_map.mpr ⟨_, hmem, rfl⟩)
        rw [get?, if_neg hk]
        exact ih hps.2 hmem

/-- A key is present exactly if it occurs. -/
theorem has_iff {ps : List (String × α)} {key : String} :
    has ps key = true ↔ key ∈ ps.map (·.1) := by
  rw [has, ← not_iff_not, Bool.not_eq_true, Option.isSome_eq_false_iff, Option.isNone_iff_eq_none,
    get?_eq_none_iff]

/-- The keys of one map are among those of another one that has a value under each of them. -/
theorem subset_of_get? {β : Type} {ps : List (String × α)} {qs : List (String × β)}
    (h : ∀ k a, (k, a) ∈ ps → ∃ b, get? qs k = some b) : ps.map (·.1) ⊆ qs.map (·.1) := by
  intro k hk
  obtain ⟨⟨k', a⟩, hm, rfl⟩ := List.mem_map.mp hk
  obtain ⟨b, hb⟩ := h _ a hm
  exact List.mem_map.mpr ⟨_, mem_of_get? hb, rfl⟩

/-- What a map has under a key, another one with its keys has as well. -/
theorem exists_mem_of_subset {β : Type} {ps : List (String × α)} {qs : List (String × β)}
    (h : ps.map (·.1) ⊆ qs.map (·.1)) {key : String} {a : α} (ha : (key, a) ∈ ps) :
    ∃ b, (key, b) ∈ qs := by
  obtain ⟨⟨k, b⟩, hb, rfl⟩ := List.mem_map.mp (h (List.mem_map.mpr ⟨(key, a), ha, rfl⟩))
  exact ⟨b, hb⟩

/-- Of different keys, at most one is looked up. -/
theorem filter_key_of_nodup {ps : List (String × α)} (hps : (ps.map (·.1)).Nodup) (key : String) :
    (ps.filter (·.1 = key)).map (·.2) = (get? ps key).toList := by
  induction ps with
  | nil => rfl
  | cons p ps ih =>
      obtain ⟨k, a⟩ := p
      rw [List.map_cons, List.nodup_cons] at hps
      by_cases hk : k = key
      · have hnone : get? ps key = none := get?_eq_none_iff.mpr (hk ▸ hps.1)
        simp [get?, hk, ih hps.2, hnone]
      · simp [get?, hk, ih hps.2]

/-- Look-up behind a list that does not have the key. -/
theorem get?_append_of_not_mem {ps qs : List (String × α)} {key : String}
    (h : key ∉ ps.map (·.1)) : get? (ps ++ qs) key = get? qs key := by
  induction ps with
  | nil => rfl
  | cons p ps ih =>
      simp only [List.map_cons, List.mem_cons, not_or] at h
      rw [List.cons_append, get?, if_neg (Ne.symm h.1), ih h.2]

/-- Where no key is repeated, the key of a pair is not among the others. -/
theorem not_mem_of_nodup_middle {ps qs : List (String × α)} {key : String} {a : α}
    (h : ((ps ++ (key, a) :: qs).map (·.1)).Nodup) : key ∉ (ps ++ qs).map (·.1) := by
  have hperm := (@List.perm_middle _ (key, a) ps qs).map (·.1)
  exact (List.nodup_cons.mp (hperm.nodup_iff.mp h)).1

/-! ### Insertion -/

/-- A new key comes last. -/
theorem insert_of_not_mem {ps : List (String × α)} {key : String} (h : key ∉ ps.map (·.1))
    (a : α) : insert ps key a = ps ++ [(key, a)] := by
  induction ps with
  | nil => rfl
  | cons p ps ih =>
      simp only [List.map_cons, List.mem_cons, not_or] at h
      rw [insert, if_neg (Ne.symm h.1), ih h.2, List.cons_append]

/-- A known key keeps its place. -/
theorem insert_append_cons {ps qs : List (String × α)} {key : String} (h : key ∉ ps.map (·.1))
    (a b : α) : insert (ps ++ (key, a) :: qs) key b = ps ++ (key, b) :: qs := by
  induction ps with
  | nil => simp [insert]
  | cons p ps ih =>
      simp only [List.map_cons, List.mem_cons, not_or] at h
      rw [List.cons_append, insert, if_neg (Ne.symm h.1), ih h.2, List.cons_append]

/-- Look-up after an insertion. -/
theorem get?_insert (ps : List (String × α)) (key key' : String) (a : α) :
    get? (insert ps key a) key' = if key = key' then some a else get? ps key' := by
  induction ps with
  | nil => simp [insert, get?]
  | cons p ps ih =>
      obtain ⟨k, b⟩ := p
      by_cases hk : k = key
      · subst hk
        by_cases hk' : k = key'
        · simp [insert, get?, hk']
        · simp [insert, get?, hk']
      · by_cases hk' : k = key'
        · subst hk'
          simp [insert, get?, hk, Ne.symm hk]
        · simp [insert, get?, hk, hk', ih]

/-- The keys after an insertion: those before it, and behind them the key if it is new. -/
theorem keys_insert (ps : List (String × α)) (key : String) (a : α) :
    (insert ps key a).map (·.1) = ps.map (·.1) ∨
      (key ∉ ps.map (·.1) ∧ (insert ps key a).map (·.1) = ps.map (·.1) ++ [key]) := by
  induction ps with
  | nil => exact .inr ⟨List.not_mem_nil, rfl⟩
  | cons p ps ih =>
      obtain ⟨k, b⟩ := p
      by_cases hk : k = key
      · exact .inl (by rw [insert, if_pos hk, List.map_cons, List.map_cons])
      · rw [insert, if_neg hk, List.map_cons, List.map_cons]
        rcases ih with hsame | ⟨hnew, hlast⟩
        · exact .inl (by rw [hsame])
        · exact .inr ⟨by simp [hnew, Ne.symm hk], by rw [hlast, List.cons_append]⟩

/-- An insertion adds its key. -/
theorem mem_keys_insert {ps : List (String × α)} {key key' : String} {a : α} :
    key' ∈ (insert ps key a).map (·.1) ↔ key' ∈ ps.map (·.1) ∨ key' = key := by
  rw [← has_iff, ← has_iff, has, has, get?_insert]
  by_cases hk : key = key'
  · simp [hk]
  · simp [hk, Ne.symm hk]

/-- The second of two insertions under a key wins. -/
theorem insert_insert (ps : List (String × α)) (key : String) (a b : α) :
    insert (insert ps key a) key b = insert ps key b := by
  induction ps with
  | nil => simp [insert]
  | cons p ps ih =>
      obtain ⟨k, c⟩ := p
      by_cases hk : k = key
      · simp [insert, hk]
      · simp [insert, hk, ih]

/-- Inserting what is there changes nothing. -/
theorem insert_of_get? {ps : List (String × α)} {key : String} {a : α}
    (h : get? ps key = some a) : insert ps key a = ps := by
  induction ps with
  | nil => exact absurd h (Option.some_ne_none a).symm
  | cons p ps ih =>
      obtain ⟨k, b⟩ := p
      by_cases hk : k = key
      · rw [get?, if_pos hk] at h
        rw [insert, if_pos hk, Option.some.inj h]
      · rw [get?, if_neg hk] at h
        rw [insert, if_neg hk, ih h]

/-- The pairs after an insertion are those before it and the new one. -/
theorem mem_of_mem_insert {ps : List (String × α)} {key k : String} {a b : α}
    (h : (k, b) ∈ insert ps key a) : (k, b) = (key, a) ∨ (k, b) ∈ ps := by
  induction ps with
  | nil => exact .inl (List.mem_singleton.mp h)
  | cons p ps ih =>
      obtain ⟨l, c⟩ := p
      rw [insert] at h
      split at h
      · next heq =>
          rcases List.mem_cons.mp h with h | h
          · exact .inl (heq ▸ h)
          · exact .inr (List.mem_cons_of_mem _ h)
      · rcases List.mem_cons.mp h with h | h
        · exact .inr (h ▸ List.mem_cons_self ..)
        · exact (ih h).imp_right (List.mem_cons_of_mem _)

/-- An insertion repeats no key. -/
theorem nodup_insert {ps : List (String × α)} (h : (ps.map (·.1)).Nodup) (key : String) (a : α) :
    ((insert ps key a).map (·.1)).Nodup := by
  induction ps with
  | nil => simp [insert]
  | cons p ps ih =>
      obtain ⟨k, b⟩ := p
      rw [List.map_cons, List.nodup_cons] at h
      by_cases hk : k = key
      · simpa [insert, hk] using h
      · rw [insert, if_neg hk, List.map_cons, List.nodup_cons]
        refine ⟨?_, ih h.2⟩
        rw [← get?_eq_none_iff, get?_insert, if_neg (Ne.symm hk), get?_eq_none_iff]
        exact h.1

/-- Pairs with new keys are put behind those that are there, in order. -/
theorem foldl_insert_of_nodup {ps qs : List (String × α)}
    (h : ((ps ++ qs).map (·.1)).Nodup) :
    qs.foldl (fun rs (k, a) => insert rs k a) ps = ps ++ qs := by
  induction qs generalizing ps with
  | nil => simp
  | cons q qs ih =>
      obtain ⟨k, a⟩ := q
      have hk : k ∉ ps.map (·.1) := fun hmem => not_mem_of_nodup_middle h (by simp [hmem])
      have hins : insert ps k a = ps ++ [(k, a)] := insert_of_not_mem hk a
      simp only [List.foldl_cons, hins]
      rw [ih (by simpa using h), List.append_assoc, List.singleton_append]

/-- The map that pairs give has no other pairs. -/
theorem mem_of_mem_ofPairs {ps : List (String × α)} {key : String} {a : α}
    (h : (key, a) ∈ ofPairs ps) : (key, a) ∈ ps := by
  have hfold : ∀ (qs : List (String × α)),
      (key, a) ∈ ps.foldl (fun rs (k, a) => insert rs k a) qs → (key, a) ∈ ps ∨ (key, a) ∈ qs := by
    clear h
    induction ps with
    | nil => exact fun qs h => .inr h
    | cons p ps ih =>
        intro qs h
        rcases ih _ h with h | h
        · exact .inl (List.mem_cons_of_mem _ h)
        · rcases mem_of_mem_insert h with h | h
          · exact .inl (h ▸ List.mem_cons_self ..)
          · exact .inr h
  exact (hfold [] h).resolve_right (by simp)

/-- Pairs with different keys are the map that they give. -/
theorem ofPairs_of_nodup {ps : List (String × α)} (h : (ps.map (·.1)).Nodup) : ofPairs ps = ps :=
  foldl_insert_of_nodup (by simpa using h)

/-! ### Repeated keys -/

/-- One more element is at the end of a list without repetitions unless it is known. -/
theorem eraseDups_concat (ks : List String) (k : String) :
    (ks ++ [k]).eraseDups =
      if ks.eraseDups.contains k then ks.eraseDups else ks.eraseDups ++ [k] := by
  have hone : [k].eraseDups = [k] := by
    rw [List.eraseDups_cons, List.filter_nil, List.eraseDups_nil]
  rw [List.eraseDups_append]
  by_cases hk : k ∈ ks <;> simp [hk, hone, List.removeAll]

/-- A list without its repetitions has none. -/
theorem nodup_eraseDups (ks : List String) : ks.eraseDups.Nodup := by
  induction ks using List.reverseRecOn with
  | nil => exact List.nodup_nil
  | append_singleton ks k ih =>
      rw [eraseDups_concat]
      split
      · exact ih
      · next hk =>
          rw [List.nodup_append_comm, List.singleton_append, List.nodup_cons]
          exact ⟨by simpa using hk, ih⟩

/-- A list of different keys has no repetitions to lose. -/
theorem eraseDups_of_nodup {ks : List String} (h : ks.Nodup) : ks.eraseDups = ks := by
  induction ks using List.reverseRecOn with
  | nil => exact List.eraseDups_nil
  | append_singleton ks k ih =>
      rw [List.nodup_append_comm, List.singleton_append, List.nodup_cons] at h
      have hk : ks.contains k = false := by simpa using h.1
      rw [eraseDups_concat, ih h.2, hk, if_neg Bool.false_ne_true]

/-- Pairs of which those with one key are the same are the map that they give, each at the place
where its key comes first. -/
theorem ofPairs_map (ks : List String) (f : String → α) :
    ofPairs (ks.map fun k => (k, f k)) = ks.eraseDups.map fun k => (k, f k) := by
  have hkeys : ∀ l : List String, (l.map fun k => (k, f k)).map (·.1) = l := fun l => by
    rw [List.map_map]
    exact List.map_id l
  induction ks using List.reverseRecOn with
  | nil => rfl
  | append_singleton ks k ih =>
      have hlast : ofPairs ((ks ++ [k]).map fun k => (k, f k)) =
          insert (ofPairs (ks.map fun k => (k, f k))) k (f k) := by
        rw [List.map_append, ofPairs, List.foldl_append]
        rfl
      rw [hlast, ih, eraseDups_concat]
      cases hk : ks.eraseDups.contains k with
      | true =>
          have hmem : k ∈ ks.eraseDups := List.contains_iff_mem.mp hk
          have hnodup := nodup_eraseDups ks
          rw [← hkeys ks.eraseDups] at hnodup
          rw [if_pos rfl]
          exact insert_of_get? (get?_of_mem hnodup (List.mem_map_of_mem hmem))
      | false =>
          have hmem : k ∉ ks.eraseDups := fun h => by simp [h] at hk
          rw [insert_of_not_mem (by rw [hkeys]; exact hmem), if_neg Bool.false_ne_true,
            List.map_append]
          rfl

end JsonWorkbench.Keyed
