import JsonWorkbench.Proofs.Equality
import JsonWorkbench.Proofs.Pointer

/-!
# Patches of Differences

The patch of the differences between two documents, applied to the left one, gives the right one
up to the order of keys and the spelling of numbers, unless an array loses two items or more. The
removals of surplus items stand in the patch in the order of their indices; the first shifts the
items behind it, so that the index of the last is gone when its turn comes, and the patch fails.

Every operation is made for the left document but done on a document that has been changed before.
What carries the induction is that the operations for a pair of values leave everything outside
their place alone: the place is a function from the value in it to the whole document (`Locates`),
and the containers on the way hold what has been dealt with in front of the place and what has not
behind it.

## Main definitions

* `LosesItems` — somewhere an array has two items more on the left than on the right.
* `Locates` — a path leads to the value in a place.

## Main results

* `applyPatch_diff` — what becomes of the left document.
* `not_forall_applyPatch_diff` — a document that its patch fails on.
-/

namespace JsonWorkbench

/-- Somewhere in two documents, at one place, an array loses two items or more. -/
inductive LosesItems : Value → Value → Prop
  /-- The array is the document itself. -/
  | here {ls rs : List Value} (h : rs.length + 2 ≤ ls.length) : LosesItems (.array ls) (.array rs)
  /-- The array is in the items at one index. -/
  | item {ls rs : List Value} {i : Nat} {l r : Value} (hl : ls[i]? = some l) (hr : rs[i]? = some r)
      (h : LosesItems l r) : LosesItems (.array ls) (.array rs)
  /-- The array is in the values under one key. -/
  | member {ls rs : Members} {k : String} {l r : Value} (hl : (k, l) ∈ ls)
      (hr : Members.get? rs k = some r) (h : LosesItems l r) : LosesItems (.object ls) (.object rs)

namespace LosesItems

/-- An empty array loses nothing. -/
theorem not_nil (rs : List Value) : ¬LosesItems (.array []) (.array rs) := by
  rintro (h | ⟨hl, -, -⟩)
  · simp at h
  · simp at hl

/-- An array loses two items to an empty one if it has two. -/
theorem array_nil_iff {ls : List Value} : LosesItems (.array ls) (.array []) ↔ 2 ≤ ls.length := by
  constructor
  · rintro (h | ⟨-, hr, -⟩)
    · simpa using h
    · simp at hr
  · intro h
    exact .here (by simpa using h)

/-- Items are lost in the first items or in the others. -/
theorem cons_iff {l r : Value} {ls rs : List Value} :
    LosesItems (.array (l :: ls)) (.array (r :: rs)) ↔
      LosesItems l r ∨ LosesItems (.array ls) (.array rs) := by
  constructor
  · rintro (h | ⟨hl, hr, h⟩)
    · exact .inr (.here (by simpa using h))
    · next i _ _ =>
        cases i with
        | zero =>
            obtain rfl : l = _ := by simpa using hl
            obtain rfl : r = _ := by simpa using hr
            exact .inl h
        | succ i => exact .inr (.item (by simpa using hl) (by simpa using hr) h)
  · rintro (h | h | ⟨hl, hr, h⟩)
    · exact .item (i := 0) rfl rfl h
    · exact .here (by simpa using h)
    · next i _ _ => exact .item (i := i + 1) (by simpa using hl) (by simpa using hr) h

/-- No member, nothing lost. -/
theorem not_object_nil (rs : Members) : ¬LosesItems (.object []) (.object rs) := by
  rintro (_ | _ | ⟨hl, -, -⟩)
  simp at hl

/-- Items are lost in the first member or in the others. -/
theorem object_cons_iff {k : String} {l : Value} {ls rs : Members} :
    LosesItems (.object ((k, l) :: ls)) (.object rs) ↔
      (∃ r, Members.get? rs k = some r ∧ LosesItems l r) ∨
        LosesItems (.object ls) (.object rs) := by
  constructor
  · rintro (_ | _ | ⟨hl, hr, h⟩)
    rcases List.mem_cons.mp hl with heq | hl
    · obtain ⟨rfl, rfl⟩ := Prod.mk.inj heq
      exact .inl ⟨_, hr, h⟩
    · exact .inr (.member hl hr h)
  · rintro (⟨r, hr, h⟩ | _ | _ | ⟨hl, hr, h⟩)
    · exact .member (List.mem_cons_self ..) hr h
    · exact .member (List.mem_cons_of_mem _ hl) hr h

end LosesItems

/-! ### Operations of differences -/

/-- The document after the operations for differences. -/
def applyDifferences (ds : List Difference) (v : Value) : Option Value :=
  applyPatch (toPatch ds) v

/-- No difference, no operation. -/
theorem applyDifferences_nil (v : Value) : applyDifferences [] v = some v := rfl

/-- The operations are done one after another. -/
theorem applyDifferences_append (ds ds' : List Difference) (v : Value) :
    applyDifferences (ds ++ ds') v = (applyDifferences ds v).bind (applyDifferences ds') := by
  rw [applyDifferences, toPatch, List.filterMap_append, applyPatch, List.foldlM_append]
  rfl

/-- The operations for one difference come before the others. -/
theorem applyDifferences_cons (d : Difference) (ds : List Difference) (v : Value) :
    applyDifferences (d :: ds) v = (applyDifferences [d] v).bind (applyDifferences ds) :=
  applyDifferences_append [d] ds v

/-- The reference tokens of a path. -/
def tokens (path : Path) : List String := path.map segmentToken

/-- An operation is done at the tokens of its path. -/
theorem applyDifferences_singleton {path : Path} (hp : ∀ s ∈ path, s.isLiteral = true)
    {change : Change} {op : PatchOp} {new : Option Value}
    (h : Difference.toOperation? { path, change } =
      some { op, pointer := path.pointer, value := new }) (v : Value) :
    applyDifferences [{ path, change }] v = applyAt op new (tokens path) v := by
  rw [applyDifferences, toPatch, List.filterMap_cons, h, List.filterMap_nil, applyPatch,
    List.foldlM_cons, PatchOperation.apply, pointerTokens?_pointer hp]
  exact Option.bind_fun_some _

/-! ### Places -/

/-- A path leads to the value in a place: an operation below the path, and a replacement also at
the path itself, is an operation on that value. -/
structure Locates (path : Path) (place : Value → Value) : Prop where
  /-- The path names one place. -/
  literal : ∀ s ∈ path, s.isLiteral = true
  /-- Operations are done on the value. -/
  apply : ∀ (op : PatchOp) (new : Option Value) (ts : List String) (c : Value),
    ts ≠ [] ∨ op = .replace →
      applyAt op new (tokens path ++ ts) (place c) = (applyAt op new ts c).map place

/-- The empty path leads to the document. -/
theorem Locates.root : Locates [] id where
  literal := by simp
  apply op new ts c _ := by simp [tokens]

/-- A path one segment longer leads to a place within the place. -/
theorem Locates.extend {path : Path} {place inner : Value → Value} (h : Locates path place)
    {s : Segment Condition} (hs : s.isLiteral = true)
    (hinner : ∀ (op : PatchOp) (new : Option Value) (ts : List String) (c : Value),
      ts ≠ [] ∨ op = .replace →
        applyAt op new (segmentToken s :: ts) (inner c) = (applyAt op new ts c).map inner) :
    Locates (path ++ [s]) (fun c => place (inner c)) where
  literal := by
    intro t ht
    rcases List.mem_append.mp ht with ht | ht
    · exact h.literal t ht
    · rwa [List.mem_singleton.mp ht]
  apply op new ts c hts := by
    have htokens : tokens (path ++ [s]) ++ ts = tokens path ++ segmentToken s :: ts := by
      simp [tokens]
    rw [htokens, h.apply op new _ _ (.inl (List.cons_ne_nil _ _)), hinner op new ts c hts,
      Option.map_map]
    rfl

/-- An index leads to the item behind so many others. -/
theorem Locates.index {path : Path} {place : Value → Value} (h : Locates path place)
    (before behind : List Value) :
    Locates (path ++ [.index before.length]) fun c => place (.array (before ++ c :: behind)) := by
  refine h.extend rfl fun op new ts c hts => ?_
  have hitem : (before ++ c :: behind)[before.length]? = some c := by simp
  have hset : ∀ w, (before ++ c :: behind).set before.length w = before ++ w :: behind := by simp
  have hlt : before.length < (before ++ c :: behind).length := by simp
  rcases ts with - | ⟨t, ts⟩
  · obtain rfl : op = .replace := hts.resolve_left (fun hne => hne rfl)
    cases new with
    | none => rfl
    | some w =>
        simp only [applyAt, applyHere, segmentToken, tokenIndex?_digitsOf, Option.bind_some, hlt,
          if_true, hset, Option.map_some]
  · simp only [applyAt, segmentToken, tokenIndex?_digitsOf, hitem, hset]

/-- A key leads to the value of the first member that has it. -/
theorem Locates.key {path : Path} {place : Value → Value} (h : Locates path place)
    {before : Members} {k : String} (hk : k ∉ before.map (·.1)) (behind : Members) :
    Locates (path ++ [.key k]) fun c => place (.object (before ++ (k, c) :: behind)) := by
  refine h.extend rfl fun op new ts c hts => ?_
  have hget : Members.get? (before ++ (k, c) :: behind) k = some c := by
    rw [Members.get?, Keyed.get?_append_of_not_mem hk]
    simp [Keyed.get?]
  have hhas : Members.has (before ++ (k, c) :: behind) k = true := Keyed.has_iff.mpr (by simp)
  have hinsert : ∀ w, Members.insert (before ++ (k, c) :: behind) k w =
      before ++ (k, w) :: behind := Keyed.insert_append_cons hk c
  rcases ts with - | ⟨t, ts⟩
  · obtain rfl : op = .replace := hts.resolve_left (fun hne => hne rfl)
    cases new with
    | none => rfl
    | some w =>
        simp only [applyAt, applyHere, segmentToken, hhas, if_true, hinsert, Option.map_some]
  · simp only [applyAt, segmentToken, hget, hinsert]

section Single

variable {path : Path} {place : Value → Value} (h : Locates path place)

include h

/-- A replacement at the path of a place puts another value there. -/
theorem Locates.replace {change : Change} {new : Value}
    (hop : Difference.toOperation? { path, change } =
      some { op := .replace, pointer := path.pointer, value := some new }) (v : Value) :
    applyDifferences [{ path, change }] (place v) = some (place new) := by
  have happly := h.apply .replace (some new) [] v (.inr rfl)
  rw [List.append_nil] at happly
  rw [applyDifferences_singleton h.literal hop, happly]
  rfl

/-- An operation one segment below a place is done at one token of the value there. -/
theorem Locates.applyHere {s : Segment Condition} (hs : s.isLiteral = true) {change : Change}
    {op : PatchOp} {new : Option Value}
    (hop : Difference.toOperation? { path := path ++ [s], change } =
      some { op, pointer := (path ++ [s]).pointer, value := new }) (v : Value) :
    applyDifferences [{ path := path ++ [s], change }] (place v) =
      (JsonWorkbench.applyHere op new (segmentToken s) v).map place := by
  have hliteral : ∀ t ∈ path ++ [s], t.isLiteral = true := by
    intro t ht
    rcases List.mem_append.mp ht with ht | ht
    · exact h.literal t ht
    · rwa [List.mem_singleton.mp ht]
  have htokens : tokens (path ++ [s]) = tokens path ++ [segmentToken s] := by simp [tokens]
  rw [applyDifferences_singleton hliteral hop, htokens,
    h.apply op new [segmentToken s] v (.inl (List.cons_ne_nil _ _)), applyAt]

end Single

/-! ### Arrays -/

section Arrays

variable {path : Path} {place : Value → Value} (h : Locates path place)

include h

/-- Added items come behind those that are there. -/
theorem applyDifferences_added_items (vs rs : List Value) :
    applyDifferences (differencesItems path vs.length [] rs) (place (.array vs)) =
      some (place (.array (vs ++ rs))) := by
  rw [differencesItems]
  induction rs generalizing vs with
  | nil => simp [applyDifferences_nil]
  | cons r rs ih =>
      have hadd : applyDifferences [{ path := path ++ [.index vs.length], change := .added r }]
          (place (.array vs)) = some (place (.array (vs ++ [r]))) := by
        rw [h.applyHere rfl rfl, JsonWorkbench.applyHere, segmentToken,
          if_neg (ofList_digitsOf_ne_dash _), tokenIndex?_digitsOf]
        simp
      have hnext := ih (vs ++ [r])
      rw [List.length_append, List.length_singleton, List.append_assoc] at hnext
      rw [List.zipIdx_cons, List.map_cons, applyDifferences_cons, hadd]
      exact hnext

/-- A removed item is taken out; there is none behind the last. -/
theorem applyDifferences_removed_item (vs : List Value) (i : Nat) (l : Value) :
    applyDifferences [{ path := path ++ [.index i], change := .removed l }] (place (.array vs)) =
      if i < vs.length then some (place (.array (vs.eraseIdx i))) else none := by
  rw [h.applyHere rfl rfl, JsonWorkbench.applyHere, segmentToken, tokenIndex?_digitsOf,
    Option.bind_some]
  split <;> rfl

/-- Removals in the order of indices fail as soon as an index is behind the items left: every
removal takes one item away and goes one index further. -/
theorem applyDifferences_removed_items (l : Value) (ls vs : List Value) (i : Nat)
    (hlen : vs.length ≤ i + 2 * ls.length) :
    applyDifferences (differencesItems path i (l :: ls) []) (place (.array vs)) = none := by
  rw [differencesItems, applyDifferences_cons, applyDifferences_removed_item h]
  induction ls generalizing l vs i with
  | nil =>
      have hout : ¬i < vs.length := by simpa using hlen
      rw [if_neg hout]
      rfl
  | cons l' ls ih =>
      split
      · next hlt =>
          rw [List.length_cons] at hlen
          have herase : (vs.eraseIdx i).length ≤ i + 1 + 2 * ls.length := by
            rw [List.length_eraseIdx_of_lt hlt]
            omega
          rw [Option.bind_some, differencesItems, applyDifferences_cons,
            applyDifferences_removed_item h]
          exact ih l' (vs.eraseIdx i) (i + 1) herase
      · rfl

end Arrays

/-! ### What becomes of a place -/

/-- What the differences between the value in a place and another value make of a document. -/
inductive Patched (place : Value → Value) (l r : Value) : Option Value → Prop
  /-- An array loses two items or more. -/
  | fails (h : LosesItems l r) : Patched place l r none
  /-- The place holds an equal value. -/
  | succeeds (h : ¬LosesItems l r) (w : Value) (hw : w.looseEq r = true) :
      Patched place l r (some (place w))

/-- Wherever a value stands, its differences to another one make it equal to that one. -/
def Patches (l : Value) : Prop :=
  ∀ (r : Value), l.WellFormed → r.WellFormed → ∀ (path : Path) (place : Value → Value),
    Locates path place → Patched place l r (applyDifferences (differences path l r) (place l))

/-- A value is replaced as a whole where the kinds differ. -/
theorem patched_replace {path : Path} {place : Value → Value} (h : Locates path place)
    {l r : Value} (hr : r.WellFormed) (hl : ¬LosesItems l r) {change : Change}
    (hop : Difference.toOperation? { path, change } =
      some { op := .replace, pointer := path.pointer, value := some r }) :
    Patched place l r (applyDifferences [{ path, change }] (place l)) := by
  rw [h.replace hop]
  exact .succeeds hl r (Value.looseEq_self hr)

/-- Only containers of one kind lose items. -/
theorem not_losesItems_of_kind_ne {l r : Value} (h : l.kind ≠ r.kind) : ¬LosesItems l r := by
  rintro (_ | _ | _) <;> exact h rfl

/-- Only containers lose items. -/
theorem LosesItems.isContainer {l r : Value} (h : LosesItems l r) : l.isContainer = true := by
  cases h <;> rfl

/-- A value that is no container is left or replaced. -/
theorem patches_scalar {l : Value} (hl : l.isContainer = false) : Patches l := by
  intro r _ hr path place h
  have hloses : ¬LosesItems l r := by
    intro hloses
    rw [hloses.isContainer] at hl
    exact Bool.noConfusion hl
  have hdiff : differences path l r =
      if l.kind = r.kind then
        if l.looseEq r then [] else [{ path, change := .valueChange l r }]
      else [{ path, change := .kindChange l.kind r.kind r }] := by
    cases l <;> first | rfl | simp [Value.isContainer] at hl
  rw [hdiff]
  split
  · split
    · next heq => exact .succeeds hloses l heq
    · exact patched_replace h hr hloses rfl
  · exact patched_replace h hr hloses rfl

/-- Items are dealt with from the front: those before are equal to those on the right. -/
theorem patched_items {ls : List Value} (hpatches : ∀ l ∈ ls, Patches l)
    (hls : ∀ l ∈ ls, l.WellFormed) {rs : List Value} (hrs : ∀ r ∈ rs, r.WellFormed) {path : Path}
    {place : Value → Value} (h : Locates path place) (done : List Value) :
    let result := applyDifferences (differencesItems path done.length ls rs)
      (place (.array (done ++ ls)))
    (LosesItems (.array ls) (.array rs) ∧ result = none) ∨
      (¬LosesItems (.array ls) (.array rs) ∧
        ∃ ws, result = some (place (.array (done ++ ws))) ∧
          List.Forall₂ (fun w r => w.looseEq r = true) ws rs) := by
  induction ls generalizing rs done with
  | nil =>
      refine .inr ⟨LosesItems.not_nil rs, rs, ?_, ?_⟩
      · rw [List.append_nil]
        exact applyDifferences_added_items h done rs
      · rw [List.forall₂_same]
        exact fun r hr => Value.looseEq_self (hrs r hr)
  | cons l ls ih =>
      rw [List.forall_mem_cons] at hpatches hls
      rcases rs with - | ⟨r, rs⟩
      · rw [LosesItems.array_nil_iff]
        rcases ls with - | ⟨l', ls⟩
        · -- the last item goes and nothing is behind it
          refine .inr ⟨by simp, [], ?_, .nil⟩
          have hlt : done.length < (done ++ [l]).length := by simp
          have herase : (done ++ [l]).eraseIdx done.length = done ++ [] := by
            rw [List.eraseIdx_append_of_length_le (Nat.le_refl _), Nat.sub_self]
            rfl
          rw [differencesItems, applyDifferences_cons, applyDifferences_removed_item h,
            if_pos hlt, herase]
          rfl
        · refine .inl ⟨by simp, applyDifferences_removed_items h l (l' :: ls) _ _ ?_⟩
          simp only [List.length_append, List.length_cons]
          omega
      · rw [List.forall_mem_cons] at hrs
        rw [LosesItems.cons_iff, differencesItems]
        have hfirst := hpatches.1 r hls.1 hrs.1 _ _ (h.index done ls)
        generalize happly : applyDifferences (differences (path ++ [.index done.length]) l r)
          (place (.array (done ++ l :: ls))) = result at hfirst
        rw [applyDifferences_append, happly]
        cases hfirst with
        | fails hloses => exact .inl ⟨.inl hloses, rfl⟩
        | succeeds hkeeps w hw =>
            have hrest := ih hpatches.2 hls.2 hrs.2 (done ++ [w])
            rw [List.length_append, List.length_singleton, List.append_assoc] at hrest
            rcases hrest with ⟨hloses, hnone⟩ | ⟨hkeeps', ws, hsome, hws⟩
            · exact .inl ⟨.inr hloses, hnone⟩
            · rw [List.append_assoc] at hsome
              exact .inr ⟨not_or.mpr ⟨hkeeps, hkeeps'⟩, w :: ws, hsome, .cons hw hws⟩

/-- An array is made equal item by item. -/
theorem patches_array {ls : List Value} (hpatches : ∀ l ∈ ls, Patches l) : Patches (.array ls) := by
  intro r hl hr path place h
  rw [Value.wellFormed_array_iff] at hl
  cases r with
  | array rs =>
      rw [Value.wellFormed_array_iff] at hr
      have hlength : applyDifferences
          (if ls.length = rs.length then []
            else [{ path, change := .arrayLength ls.length rs.length }])
          (place (.array ls)) = some (place (.array ls)) := by
        split <;> rfl
      rw [differences, applyDifferences_append, hlength, Option.bind_some]
      rcases patched_items hpatches hl.2 hr.2 h [] with ⟨hloses, hnone⟩ | ⟨hkeeps, ws, hsome, hws⟩
      · rw [List.nil_append, List.length_nil] at hnone
        rw [hnone]
        exact .fails hloses
      · rw [List.nil_append, List.nil_append, List.length_nil] at hsome
        rw [hsome]
        exact .succeeds hkeeps _ (Value.looseEq_array_iff.mpr hws)
  | null | bool _ | number _ | string _ | object _ =>
      exact patched_replace h hr (not_losesItems_of_kind_ne (by simp [Value.kind])) rfl

/-! ### Objects -/

/-- A removed member is taken out. -/
theorem applyDifferences_removed_member {path : Path} {place : Value → Value}
    (h : Locates path place) {before behind : Members} {k : String} {l : Value}
    (hkeys : ((before ++ (k, l) :: behind).map (·.1)).Nodup) :
    applyDifferences [{ path := path ++ [.key k], change := .removed l }]
        (place (.object (before ++ (k, l) :: behind))) =
      some (place (.object (before ++ behind))) := by
  have hhas : Members.has (before ++ (k, l) :: behind) k = true := Keyed.has_iff.mpr (by simp)
  have herase : Members.erase (before ++ (k, l) :: behind) k = before ++ behind := by
    have hk : k ∉ (before ++ behind).map (·.1) := Keyed.not_mem_of_nodup_middle hkeys
    rw [List.map_append, List.mem_append, not_or] at hk
    have hother : ∀ {ms : Members}, k ∉ ms.map (·.1) → ms.filter (·.1 ≠ k) = ms := by
      intro ms hms
      rw [List.filter_eq_self]
      intro m hm
      refine decide_eq_true fun heq => hms ?_
      rw [← heq]
      exact List.mem_map_of_mem hm
    rw [Members.erase, List.filter_append, List.filter_cons_of_neg (by simp), hother hk.1,
      hother hk.2]
  rw [h.applyHere rfl rfl, applyHere, segmentToken, hhas, if_pos rfl, herase]
  rfl

/-- Added members come behind those that are there. -/
theorem applyDifferences_added_members {path : Path} {place : Value → Value}
    (h : Locates path place) {ms rs : Members} (hkeys : ((ms ++ rs).map (·.1)).Nodup) :
    applyDifferences (rs.map fun (k, v) => { path := path ++ [.key k], change := .added v })
        (place (.object ms)) = some (place (.object (ms ++ rs))) := by
  induction rs generalizing ms with
  | nil => simp [applyDifferences_nil]
  | cons r rs ih =>
      obtain ⟨k, r⟩ := r
      have hk : k ∉ ms.map (·.1) :=
        fun hmem => Keyed.not_mem_of_nodup_middle hkeys (by simp [hmem])
      have hadd : applyDifferences [{ path := path ++ [.key k], change := .added r }]
          (place (.object ms)) = some (place (.object (ms ++ [(k, r)]))) := by
        rw [h.applyHere rfl rfl, applyHere, segmentToken, Members.insert,
          Keyed.insert_of_not_mem hk]
        rfl
      have hnext := ih (show (((ms ++ [(k, r)]) ++ rs).map (·.1)).Nodup by simpa using hkeys)
      rw [List.append_assoc] at hnext
      rw [List.map_cons, applyDifferences_cons, hadd]
      exact hnext

/-- Members are dealt with from the front: those whose keys are on the right are made equal to
what stands there, the others are taken out. -/
theorem patched_members {ls : Members} (hpatches : ∀ k l, (k, l) ∈ ls → Patches l)
    (hls : ∀ k l, (k, l) ∈ ls → l.WellFormed) {rs : Members}
    (hrs : ∀ k r, (k, r) ∈ rs → r.WellFormed) {path : Path} {place : Value → Value}
    (h : Locates path place) (done : Members) (hkeys : ((done ++ ls).map (·.1)).Nodup) :
    let result := applyDifferences (differencesMembers path ls rs) (place (.object (done ++ ls)))
    (LosesItems (.object ls) (.object rs) ∧ result = none) ∨
      (¬LosesItems (.object ls) (.object rs) ∧
        ∃ ws : Members, result = some (place (.object (done ++ ws))) ∧
          ws.map (·.1) = (ls.map (·.1)).filter (Members.has rs) ∧
          ∀ k w, (k, w) ∈ ws → ∃ r, Members.get? rs k = some r ∧ w.looseEq r = true) := by
  induction ls generalizing done with
  | nil =>
      exact .inr ⟨LosesItems.not_object_nil rs, [], rfl, rfl, by simp⟩
  | cons m ls ih =>
      obtain ⟨k, l⟩ := m
      rw [Keyed.forall_mem_cons] at hpatches hls
      have ih := ih hpatches.2 hls.2
      rw [LosesItems.object_cons_iff, differencesMembers, List.map_cons]
      rcases hget : Members.get? rs k with - | r
      · have hhas : Members.has rs k = false := congrArg Option.isSome hget
        have hrest : ((done ++ ls).map (·.1)).Nodup :=
          (hkeys.sublist ((List.sublist_cons_self _ _).append_left done |>.map _))
        rw [applyDifferences_append, applyDifferences_removed_member h hkeys, Option.bind_some,
          List.filter_cons_of_neg (by simp [hhas])]
        simpa using ih done hrest
      · have hhas : Members.has rs k = true := congrArg Option.isSome hget
        have hk : k ∉ done.map (·.1) :=
          fun hmem => Keyed.not_mem_of_nodup_middle hkeys (by simp [hmem])
        have hfirst := hpatches.1 r hls.1 (hrs k r (Keyed.mem_of_get? hget)) _ _ (h.key hk ls)
        simp only [Option.some.injEq, exists_eq_left']
        generalize happly : applyDifferences (differences (path ++ [.key k]) l r)
          (place (.object (done ++ (k, l) :: ls))) = result at hfirst
        rw [applyDifferences_append, happly, List.filter_cons_of_pos hhas]
        cases hfirst with
        | fails hloses => exact .inl ⟨.inl hloses, rfl⟩
        | succeeds hkeeps w hw =>
            have hrest := ih (done ++ [(k, w)]) (by simpa using hkeys)
            rw [List.append_assoc] at hrest
            rcases hrest with ⟨hloses, hnone⟩ | ⟨hkeeps', ws, hsome, hnames, hws⟩
            · exact .inl ⟨.inr hloses, hnone⟩
            · rw [List.append_assoc] at hsome
              refine .inr ⟨not_or.mpr ⟨hkeeps, hkeeps'⟩, (k, w) :: ws, hsome, ?_, ?_⟩
              · rw [List.map_cons, hnames]
              · exact Keyed.forall_mem_cons.mpr ⟨⟨r, hget, hw⟩, hws⟩

/-- The keys on the left that are on the right too, and the new ones, are the keys on the right. -/
theorem perm_keys {ls rs : Members} (hls : (ls.map (·.1)).Nodup) (hrs : (rs.map (·.1)).Nodup) :
    ((ls.map (·.1)).filter (Members.has rs) ++ (rs.map (·.1)).filter (!Members.has ls ·)).Perm
      (rs.map (·.1)) := by
  have hnodup : ((ls.map (·.1)).filter (Members.has rs) ++
      (rs.map (·.1)).filter (!Members.has ls ·)).Nodup := by
    rw [List.nodup_append]
    refine ⟨hls.filter _, hrs.filter _, ?_⟩
    rintro k hk _ hk' rfl
    rw [List.mem_filter, Bool.not_eq_true', ← Bool.not_eq_true, Members.has, Keyed.has_iff] at hk'
    exact hk'.2 (List.mem_filter.mp hk).1
  rw [List.perm_ext_iff_of_nodup hnodup hrs]
  intro k
  rw [List.mem_append, List.mem_filter, List.mem_filter, Bool.not_eq_true', ← Bool.not_eq_true,
    Members.has, Members.has, Keyed.has_iff, Keyed.has_iff]
  by_cases hl : k ∈ ls.map (·.1) <;> simp [hl]

/-- An object is made equal key by key. -/
theorem patches_object {ls : Members} (hpatches : ∀ k l, (k, l) ∈ ls → Patches l) :
    Patches (.object ls) := by
  intro r hl hr path place h
  rw [Value.wellFormed_object_iff] at hl
  cases r with
  | object rs =>
      rw [Value.wellFormed_object_iff] at hr
      rw [differences, applyDifferences_append]
      rcases patched_members hpatches hl.2 hr.2 h [] hl.1 with
        ⟨hloses, hnone⟩ | ⟨hkeeps, ws, hsome, hnames, hws⟩
      · rw [List.nil_append] at hnone
        rw [hnone]
        exact .fails hloses
      · rw [List.nil_append, List.nil_append] at hsome
        have hadded : ((rs.filter fun (k, _) => !Members.has ls k).map (·.1)) =
            (rs.map (·.1)).filter (!Members.has ls ·) := by
          rw [List.filter_map]
          rfl
        have hperm := perm_keys hl.1 hr.1
        rw [← hnames, ← hadded, ← List.map_append] at hperm
        rw [hsome, Option.bind_some,
          applyDifferences_added_members h (hperm.nodup_iff.mpr hr.1)]
        refine .succeeds hkeeps _ (Value.looseEq_object_iff.mpr ⟨?_, ?_⟩)
        · simpa using hperm.length_eq
        · intro k w hm
          rcases List.mem_append.mp hm with hm | hm
          · exact hws k w hm
          · have hm : (k, w) ∈ rs := (List.mem_filter.mp hm).1
            exact ⟨w, Keyed.get?_of_mem hr.1 hm, Value.looseEq_self (hr.2 k w hm)⟩
  | null | bool _ | number _ | string _ | array _ =>
      exact patched_replace h hr (not_losesItems_of_kind_ne (by simp [Value.kind])) rfl

/-! ### Documents -/

/-- Every value is made equal to every other, unless an array loses two items. -/
theorem patches (l : Value) : Patches l := by
  induction l using Value.induct with
  | null | bool _ | number _ | string _ => exact patches_scalar rfl
  | array ls ih => exact patches_array ih
  | object ls ih => exact patches_object ih

/-- **The patch of the differences between two documents** makes the left one equal to the right
one as data, if no array in it loses two items or more; if one does, the patch fails. -/
theorem applyPatch_diff {l r : Value} (hl : l.WellFormed) (hr : r.WellFormed) :
    (¬LosesItems l r → ∃ w, applyPatch (toPatch (diff l r)) l = some w ∧ w.looseEq r = true) ∧
      (LosesItems l r → applyPatch (toPatch (diff l r)) l = none) := by
  have hpatched := patches l r hl hr [] id Locates.root
  rw [id, applyDifferences] at hpatched
  rw [diff]
  generalize applyPatch (toPatch (differences [] l r)) l = result at hpatched
  cases hpatched with
  | fails hloses => exact ⟨fun hkeeps => absurd hloses hkeeps, fun _ => rfl⟩
  | succeeds hkeeps w hw => exact ⟨fun _ => ⟨w, rfl, hw⟩, fun hloses => absurd hloses hkeeps⟩

/-- An object whose list is to lose one item. -/
def longerList : Value :=
  .object [("a/b", .array [.int 1, .int 2]), ("~", .int 3), ("gone", .null)]

/-- An object with a shorter list, another number and another member. -/
def shorterList : Value :=
  .object [("new", .array []), ("~", .int 4), ("a/b", .array [.int 1])]

/-- One item can be lost, beside a change, a removal and an addition. -/
theorem applyPatch_diff_longerList :
    (longerList.WellFormed ∧ shorterList.WellFormed ∧ ¬LosesItems longerList shorterList) ∧
      ∃ w, applyPatch (toPatch (diff longerList shorterList)) longerList = some w ∧
        w.looseEq shorterList = true := by
  have hl : longerList.WellFormed := by decide
  have hr : shorterList.WellFormed := by decide
  have hnumber : ∀ m n, ¬LosesItems (.int m) (.int n) := fun m n h => by cases h
  have hkeeps : ¬LosesItems longerList shorterList := by
    simp [longerList, shorterList, LosesItems.object_cons_iff, LosesItems.not_object_nil,
      LosesItems.cons_iff, LosesItems.array_nil_iff, hnumber, Members.get?, Keyed.get?]
  exact ⟨⟨hl, hr, hkeeps⟩, (applyPatch_diff hl hr).1 hkeeps⟩

/-- A list of three numbers. -/
def threeItems : Value := .array [.int 1, .int 2, .int 3]

/-- The list of the first of them. -/
def oneItem : Value := .array [.int 1]

/-- The patch that takes two of three items away fails, so that not every document is made equal
to every other. -/
theorem not_forall_applyPatch_diff :
    ¬∀ l r : Value, l.WellFormed → r.WellFormed →
      ∃ w, applyPatch (toPatch (diff l r)) l = some w ∧ w.looseEq r = true := by
  intro h
  have hl : threeItems.WellFormed := by decide
  have hr : oneItem.WellFormed := by decide
  have hnone : applyPatch (toPatch (diff threeItems oneItem)) threeItems = none := by
    decide +kernel
  obtain ⟨w, hw, -⟩ := h threeItems oneItem hl hr
  rw [hnone] at hw
  exact Option.some_ne_none w hw.symm

end JsonWorkbench
