import JsonWorkbench.Proofs.Value
import JsonWorkbench.Transform.Merge

/-!
# Merging, Place by Place

A merged document is described by what it holds under every sequence of keys. A sequence is
followed through objects only: where it meets a value of another kind before its end, it leads
nowhere, also where that value is an array and the key a numeral. The second document decides
what kind of value stands at a place as far as it says anything about the place. It says nothing
only where one of its own objects has no such key, and there the first document is kept with all
that is below.

The recursion is on the second document, and meets the first one in the members that stand under
its keys, if there are any. So the value that is merged into may be missing (`merged`), and the
lemmas are stated for that.

## Main definitions

* `Value.member?`, `Value.under?` — the values under a key and under a sequence of keys.
* `Value.Blocks` — a value has something other than an object on the way of a sequence.
* `UnionAt` — what a union of two documents holds under a sequence of keys.

## Main results

* `get?_mergeMembers` — what stands under a key after members have been merged into others.
* `merge_pointwise` — what a merged document holds at every place.
-/

namespace JsonWorkbench

/-! ### Sequences of keys -/

namespace Value

/-- The value under a key. Only objects have keys. -/
def member? : Value → String → Option Value
  | .object ms, key => Members.get? ms key
  | _, _ => none

/-- The value under a sequence of keys. -/
def under? : Value → List String → Option Value
  | v, [] => some v
  | v, key :: keys => (v.member? key).bind (·.under? keys)

/-- A value that is no object stands on the way of a sequence of keys, before its end. -/
def Blocks (v : Value) (keys : List String) : Prop :=
  ∃ front w, front <+: keys ∧ front ≠ keys ∧ v.under? front = some w ∧ w.kind ≠ .object

/-- A value of another kind has no members. -/
theorem member?_of_kind_ne {v : Value} (h : v.kind ≠ .object) (key : String) :
    v.member? key = none := by
  cases v with
  | object ms => exact absurd rfl h
  | null | bool _ | number _ | string _ | array _ => rfl

/-- Only an object has a value under a key. -/
theorem kind_of_member? {v w : Value} {key : String} (h : v.member? key = some w) :
    v.kind = .object := by
  by_contra hkind
  rw [member?_of_kind_ne hkind] at h
  exact Option.some_ne_none w h.symm

/-- What stands under a key of a well-formed value is well formed. -/
theorem WellFormed.member? {v w : Value} (hv : v.WellFormed) {key : String}
    (h : v.member? key = some w) : w.WellFormed := by
  obtain ⟨ms, rfl⟩ := exists_object (kind_of_member? h)
  exact (wellFormed_object_iff.mp hv).2 key w (Keyed.mem_of_get? h)

/-- Nothing stands on the way of the empty sequence. -/
theorem not_blocks_nil (v : Value) : ¬v.Blocks [] := by
  rintro ⟨front, -, hprefix, hne, -⟩
  exact hne (List.prefix_nil.mp hprefix)

/-- A value is on the way of a sequence if it is no object itself, or if something is on the way
of the rest below the first key. -/
theorem blocks_cons_iff {v : Value} {key : String} {keys : List String} :
    v.Blocks (key :: keys) ↔
      v.kind ≠ .object ∨ ∃ w, v.member? key = some w ∧ w.Blocks keys := by
  constructor
  · rintro ⟨front, w, hprefix, hne, hfront, hw⟩
    rcases front with - | ⟨k, front⟩
    · exact .inl (Option.some.inj hfront ▸ hw)
    · obtain ⟨rfl, hrestPrefix⟩ := List.cons_prefix_cons.mp hprefix
      obtain ⟨child, hchild, hrest⟩ := Option.bind_eq_some_iff.mp hfront
      exact .inr ⟨child, hchild, front, w, hrestPrefix, fun h => hne (h ▸ rfl), hrest, hw⟩
  · rintro (hkind | ⟨child, hchild, front, w, hprefix, hne, hfront, hw⟩)
    · exact ⟨[], v, List.nil_prefix, (List.cons_ne_nil _ _).symm, rfl, hkind⟩
    · refine ⟨key :: front, w, List.cons_prefix_cons.mpr ⟨rfl, hprefix⟩, ?_, ?_, hw⟩
      · exact fun h => hne (List.cons.inj h).2
      · rw [under?, hchild, Option.bind_some, hfront]

end Value

/-! ### One value into another -/

variable {strategy : MergeStrategy}

/-- What stands where the second document has a value that is no object: this value, or the items
of both documents where arrays are joined. -/
def MergeStrategy.settle : MergeStrategy → Option Value → Value → Value
  | .concatArrays, some (.array ts), .array ss => .array (ts ++ ss)
  | _, _, source => source

/-- A value merged into another one that may be missing. -/
def merged (strategy : MergeStrategy) : Option Value → Value → Value
  | some target, source => merge strategy target source
  | none, source => source

/-- A value that is no object is settled at once. -/
theorem merged_of_kind_ne {source : Value} (h : source.kind ≠ .object) (target : Option Value) :
    merged strategy target source = strategy.settle target source := by
  rcases target with - | target
  · cases strategy <;> rfl
  · cases source with
    | object ss => exact absurd rfl h
    | null | bool _ | number _ | string _ => cases strategy <;> cases target <;> rfl
    | array ss => cases strategy <;> cases target <;> rfl

/-- What is settled is no object. -/
theorem kind_settle_ne {source : Value} (h : source.kind ≠ .object) (target : Option Value) :
    (strategy.settle target source).kind ≠ .object := by
  unfold MergeStrategy.settle
  split
  · exact Kind.noConfusion
  · exact h

/-- An object stays an object. -/
theorem kind_merged_of_kind {source : Value} (h : source.kind = .object) (target : Option Value) :
    (merged strategy target source).kind = .object := by
  obtain ⟨ss, rfl⟩ := Value.exists_object h
  rcases target with - | target
  · rfl
  · cases target <;> rfl

/-- **What stands under a key** after members have been merged into others: what these have there,
or the new value merged into it. -/
theorem get?_mergeMembers {ss : Members} (hss : (ss.map (·.1)).Nodup) (ts : Members)
    (key : String) :
    Members.get? (mergeMembers strategy ts ss) key =
      match Members.get? ss key with
      | some source => some (merged strategy (Members.get? ts key) source)
      | none => Members.get? ts key := by
  -- along the new members, each of which changes what stands under its own key only
  induction ss generalizing ts with
  | nil => rfl
  | cons m ss ih =>
      obtain ⟨k, v⟩ := m
      rw [List.map_cons, List.nodup_cons] at hss
      have hfirst : mergeMembers strategy ts ((k, v) :: ss) =
          mergeMembers strategy
            (Members.insert ts k (merged strategy (Members.get? ts k) v)) ss := by
        rw [mergeMembers]
        cases Members.get? ts k <;> rfl
      rw [hfirst, ih hss.2]
      simp only [Members.get?, Keyed.get?, Keyed.get?_insert]
      by_cases hk : k = key
      · subst hk
        rw [Keyed.get?_eq_none_iff.mpr hss.1, if_pos rfl, if_pos rfl]
      · rw [if_neg hk, if_neg hk]

/-- The value under a key after an object has been merged into a value. -/
theorem member?_merged {source : Value} (hsource : source.WellFormed)
    (hkind : source.kind = .object) (target : Option Value) (key : String) :
    (merged strategy target source).member? key =
      match source.member? key with
      | some v => some (merged strategy (target.bind (·.member? key)) v)
      | none => target.bind (·.member? key) := by
  obtain ⟨ss, rfl⟩ := Value.exists_object hkind
  -- what is no object is replaced, and has no members that could be kept
  have hreplaced : ∀ t : Option Value, t.bind (·.member? key) = none →
      merged strategy t (.object ss) = .object ss →
      (merged strategy t (.object ss)).member? key =
        match Members.get? ss key with
        | some v => some (merged strategy (t.bind (·.member? key)) v)
        | none => t.bind (·.member? key) := by
    intro t hnone hmerged
    rw [hmerged, hnone, Value.member?]
    cases Members.get? ss key <;> rfl
  rcases target with - | target
  · exact hreplaced none rfl rfl
  · cases target with
    | object ts => exact get?_mergeMembers (Value.wellFormed_object_iff.mp hsource).1 ts key
    | null | bool _ | number _ | string _ | array _ => exact hreplaced _ rfl rfl

/-! ### All places -/

/-- What a union of two documents, of which the first may be missing, holds under a sequence of
keys. -/
structure UnionAt (strategy : MergeStrategy) (target : Option Value) (source union : Value)
    (keys : List String) : Prop where
  /-- A value of the second document that is no object stands there, behind the items of the first
  one where both have arrays and these are joined. -/
  settled : ∀ v, source.under? keys = some v → v.kind ≠ .object →
    union.under? keys = some (strategy.settle (target.bind (·.under? keys)) v)
  /-- Where the second document has an object, there is one. -/
  opened : ∀ v, source.under? keys = some v → v.kind = .object →
    ∃ w, union.under? keys = some w ∧ w.kind = .object
  /-- Where the second document has nothing, and nothing else than objects on the way, there is
  what the first one has. -/
  kept : source.under? keys = none → ¬source.Blocks keys →
    union.under? keys = target.bind (·.under? keys)
  /-- Below a value of the second document that is no object there is nothing. -/
  replaced : source.Blocks keys → union.under? keys = none

/-- Where the second document has nothing, it matters only whether something is on the way. -/
theorem UnionAt.of_eq_none {target : Option Value} {source union : Value} {keys : List String}
    (hnone : source.under? keys = none)
    (hkept : ¬source.Blocks keys → union.under? keys = target.bind (·.under? keys))
    (hreplaced : source.Blocks keys → union.under? keys = none) :
    UnionAt strategy target source union keys where
  settled v hv := absurd (hv.symm.trans hnone) (Option.some_ne_none v)
  opened v hv := absurd (hv.symm.trans hnone) (Option.some_ne_none v)
  kept _ := hkept
  replaced := hreplaced

/-- The place of a key that both the second document and the union have is a place of what they
have there. -/
theorem UnionAt.below {target : Option Value} {source union v u : Value} {key : String}
    {keys : List String} (hsource : source.member? key = some v)
    (hunion : union.member? key = some u)
    (h : UnionAt strategy (target.bind (·.member? key)) v u keys) :
    UnionAt strategy target source union (key :: keys) := by
  have htarget : (target.bind (·.member? key)).bind (·.under? keys) =
      target.bind (·.under? (key :: keys)) := Option.bind_assoc ..
  have hv : source.under? (key :: keys) = v.under? keys := by
    rw [Value.under?, hsource, Option.bind_some]
  have hu : union.under? (key :: keys) = u.under? keys := by
    rw [Value.under?, hunion, Option.bind_some]
  have hblocks : source.Blocks (key :: keys) ↔ v.Blocks keys := by
    rw [Value.blocks_cons_iff]
    simp [hsource, Value.kind_of_member? hsource]
  refine ⟨?settled, ?opened, ?kept, ?replaced⟩
  case settled =>
    rw [hv, hu, ← htarget]
    exact h.settled
  case opened =>
    rw [hv, hu]
    exact h.opened
  case kept =>
    rw [hv, hu, hblocks, ← htarget]
    exact h.kept
  case replaced =>
    rw [hu, hblocks]
    exact h.replaced

/-- **A union of two documents** at every place, if the second one has no key twice. -/
theorem unionAt_merged {source : Value} (hsource : source.WellFormed) (target : Option Value)
    (keys : List String) : UnionAt strategy target source (merged strategy target source) keys := by
  induction keys generalizing source target with
  | nil =>
      have hself : target.bind (·.under? []) = target := by cases target <;> rfl
      refine ⟨?settled, ?opened, ?kept, ?replaced⟩
      case settled =>
        intro v hv hkind
        obtain rfl : source = v := Option.some.inj hv
        rw [hself, Value.under?, merged_of_kind_ne hkind]
      case opened =>
        intro v hv hkind
        obtain rfl : source = v := Option.some.inj hv
        exact ⟨_, rfl, kind_merged_of_kind hkind target⟩
      case kept => exact fun h => absurd h (Option.some_ne_none source)
      case replaced => exact fun h => absurd h source.not_blocks_nil
  | cons key keys ih =>
      by_cases hkind : source.kind = .object
      case neg =>
        -- nothing is below the second value, nor below what it is settled to
        refine .of_eq_none ?_ (fun h => ?_) fun _ => ?_
        · rw [Value.under?, Value.member?_of_kind_ne hkind, Option.bind_none]
        · exact absurd (Value.blocks_cons_iff.mpr (.inl hkind)) h
        · rw [merged_of_kind_ne hkind, Value.under?,
            Value.member?_of_kind_ne (kind_settle_ne hkind target), Option.bind_none]
      case pos =>
        have hmember : (merged strategy target source).member? key = _ :=
          member?_merged hsource hkind target key
        cases hget : source.member? key with
        | some v =>
            rw [hget] at hmember
            exact .below hget hmember (ih (hsource.member? hget) _)
        | none =>
            rw [hget] at hmember
            refine .of_eq_none ?_ (fun _ => ?_) fun h => ?_
            · rw [Value.under?, hget, Option.bind_none]
            · rw [Value.under?, hmember]
              exact Option.bind_assoc ..
            · rw [Value.blocks_cons_iff, hget] at h
              simp [hkind] at h

/-! ### Documents -/

/-- **What a merged document holds at every place**, when the second document has no key twice. A
value of the second document that is no object stands there, behind the items of the first one
where both have arrays and these are joined; an object of the second one is there as an object;
where the second one only lacks a key, all that the first one has is kept; and below a value of the
second one that is no object there is nothing. -/
theorem merge_pointwise (strategy : MergeStrategy) (a : Value) {b : Value} (hb : b.WellFormed)
    (keys : List String) :
    (∀ v, b.under? keys = some v → v.kind ≠ .object →
        (merge strategy a b).under? keys = some (strategy.settle (a.under? keys) v)) ∧
      (∀ v, b.under? keys = some v → v.kind = .object →
        ∃ w, (merge strategy a b).under? keys = some w ∧ w.kind = .object) ∧
      (b.under? keys = none → ¬b.Blocks keys →
        (merge strategy a b).under? keys = a.under? keys) ∧
      (b.Blocks keys → (merge strategy a b).under? keys = none) := by
  have h : UnionAt strategy (some a) b (merge strategy a b) keys := unionAt_merged hb (some a) keys
  exact ⟨h.settled, h.opened, h.kept, h.replaced⟩

/-- A document with a list in an object, a truth value, and another object. -/
def olderSettings : Value :=
  .object [("x", .object [("y", .int 1), ("z", .array [.int 1])]), ("keep", .bool true),
    ("old", .object [("deep", .null)])]

/-- A document that has an object for a number, and a number for an object. -/
def newerSettings : Value :=
  .object [("old", .int 5), ("x", .object [("z", .array [.int 2]), ("y", .object [])])]

/-- Where the kinds differ the second document decides; the lists are joined, and what only the
first one has is kept. -/
theorem merge_pointwise_newerSettings :
    newerSettings.WellFormed ∧
      (merge .concatArrays olderSettings newerSettings).under? ["x", "z"] =
        some (.array [.int 1, .int 2]) ∧
      (∃ w, (merge .concatArrays olderSettings newerSettings).under? ["x", "y"] = some w ∧
        w.kind = .object) ∧
      (merge .concatArrays olderSettings newerSettings).under? ["keep"] = some (.bool true) ∧
      (newerSettings.Blocks ["old", "deep"] ∧
        (merge .concatArrays olderSettings newerSettings).under? ["old", "deep"] = none) := by
  have hb : newerSettings.WellFormed := by decide
  have hfree : ¬newerSettings.Blocks ["keep"] := by
    simp [Value.blocks_cons_iff, newerSettings, Value.kind, Value.member?, Keyed.get?]
  have hblocks : newerSettings.Blocks ["old", "deep"] :=
    ⟨["old"], .int 5, ⟨["deep"], rfl⟩, by simp, rfl, Kind.noConfusion⟩
  have h := merge_pointwise .concatArrays olderSettings hb
  exact ⟨hb, (h ["x", "z"]).1 _ rfl Kind.noConfusion, (h ["x", "y"]).2.1 _ rfl rfl,
    (h ["keep"]).2.2.1 rfl hfree, hblocks, (h ["old", "deep"]).2.2.2 hblocks⟩

end JsonWorkbench
