import JsonWorkbench.Proofs.FlatKey
import JsonWorkbench.Proofs.Value
import JsonWorkbench.Proofs.Write

/-!
# Flattening and Back

A document is made again from its leaves. Between the two stand the paths of the leaves: the flat
object has a key for each of them, and the way back reads the keys as the same paths and writes
the leaves there in document order.

Writing the leaves of a child one after another, each below the segment of the child, is the same
as writing them into the child alone and putting the child in its place (`writePaths_under`). A
container is thus built child by child: after some children it holds exactly these, and the first
leaf of the next child finds no place there and opens one, a null behind the last item or under a
new key.

## Main definitions

* `leafPaths` — the leaves of a value under their paths.
* `writePaths` — leaves written at their paths one after another.

## Main results

* `leaves_eq_leafPaths` — the flat object has the leaves under the flat keys of their paths.
* `writePaths_leafPaths` — the leaves of a value, written into a null, are the value.
* `unflatten_flatten` — flattening loses nothing.
-/

namespace JsonWorkbench

/-! ### Leaves under their paths -/

/-- A leaf as it is found one segment further up. -/
def under (s : Segment φ) (leaf : Segments φ × Value) : Segments φ × Value :=
  (s :: leaf.1, leaf.2)

mutual

/-- The leaves of a value under their paths, in document order. -/
def leafPaths : Value → List (Path × Value)
  | .array (v :: vs) => itemPaths 0 (v :: vs)
  | .object (m :: ms) => memberPaths (m :: ms)
  | leaf => [([], leaf)]

/-- The leaves of items, the first of which is at index `i`. -/
def itemPaths (i : Nat) : List Value → List (Path × Value)
  | [] => []
  | v :: vs => (leafPaths v).map (under (.index i)) ++ itemPaths (i + 1) vs

/-- The leaves of members. -/
def memberPaths : List (String × Value) → List (Path × Value)
  | [] => []
  | (k, v) :: ms => (leafPaths v).map (under (.key k)) ++ memberPaths ms

end

/-- A leaf of items is a leaf of one of them. -/
theorem mem_itemPaths {i : Nat} {vs : List Value} {leaf : Path × Value}
    (h : leaf ∈ itemPaths i vs) :
    ∃ j v below, i ≤ j ∧ j < i + vs.length ∧ v ∈ vs ∧ below ∈ leafPaths v ∧
      leaf = under (.index j) below := by
  induction vs generalizing i with
  | nil => simp [itemPaths] at h
  | cons v vs ih =>
      rw [itemPaths, List.mem_append, List.mem_map] at h
      rw [List.length_cons]
      rcases h with ⟨below, hbelow, rfl⟩ | h
      · exact ⟨i, v, below, Nat.le_refl i, by omega, List.mem_cons_self .., hbelow, rfl⟩
      · obtain ⟨j, w, below, hle, hlt, hw, hbelow, rfl⟩ := ih h
        exact ⟨j, w, below, by omega, by omega, List.mem_cons_of_mem _ hw, hbelow, rfl⟩

/-- A leaf of members is a leaf of the value of one of them. -/
theorem mem_memberPaths {ms : Members} {leaf : Path × Value} (h : leaf ∈ memberPaths ms) :
    ∃ k v below, (k, v) ∈ ms ∧ below ∈ leafPaths v ∧ leaf = under (.key k) below := by
  induction ms with
  | nil => simp [memberPaths] at h
  | cons m ms ih =>
      obtain ⟨k, v⟩ := m
      rw [memberPaths, List.mem_append, List.mem_map] at h
      rcases h with ⟨below, hbelow, rfl⟩ | h
      · exact ⟨k, v, below, List.mem_cons_self .., hbelow, rfl⟩
      · obtain ⟨k', w, below, hw, hbelow, rfl⟩ := ih h
        exact ⟨k', w, below, List.mem_cons_of_mem _ hw, hbelow, rfl⟩

/-- Every value has leaves. -/
theorem leafPaths_ne_nil (v : Value) : leafPaths v ≠ [] := by
  induction v using Value.induct with
  | null | bool _ | number _ | string _ => simp [leafPaths]
  | array vs ih =>
      rcases vs with - | ⟨v, vs⟩
      · simp [leafPaths]
      · simp [leafPaths, itemPaths, ih v (List.mem_cons_self ..)]
  | object ms ih =>
      rcases ms with - | ⟨⟨k, v⟩, ms⟩
      · simp [leafPaths]
      · simp [leafPaths, memberPaths, ih k v (List.mem_cons_self ..)]

/-- The leaf of a value that is no container, or an empty one, is the value itself. -/
theorem leafPaths_cases (v : Value) :
    leafPaths v = [([], v)] ∨ (∃ w vs, v = .array (w :: vs)) ∨ ∃ m ms, v = .object (m :: ms) := by
  rcases v with - | b | n | s | (- | ⟨w, vs⟩) | (- | ⟨m, ms⟩) <;> simp [leafPaths]

/-! ### The flat keys of leaves -/

section FlatKeys

variable (separator : String)

/-- A leaf under the flat key of its path. -/
def flatLeaf (at_ : String) (leaf : Path × Value) : String × Value :=
  (flatKey separator at_ leaf.1, leaf.2)

/-- The flat key of a leaf one segment further up is that of the leaf from there on. -/
theorem map_flatLeaf_under (at_ : String) (s : Segment Condition) (ls : List (Path × Value)) :
    (ls.map (under s)).map (flatLeaf separator at_) =
      ls.map (flatLeaf separator (extendKey separator at_ s)) := by
  rw [List.map_map]
  rfl

/-- The leaves of items under flat keys, given those of each item. -/
theorem leavesItems_eq_itemPaths {vs : List Value}
    (h : ∀ v ∈ vs, ∀ at_, leaves separator at_ v = (leafPaths v).map (flatLeaf separator at_))
    (at_ : String) (i : Nat) :
    leavesItems separator at_ i vs = (itemPaths i vs).map (flatLeaf separator at_) := by
  induction vs generalizing i with
  | nil => rfl
  | cons v vs ih =>
      rw [List.forall_mem_cons] at h
      rw [leavesItems, itemPaths, List.map_append, map_flatLeaf_under, h.1, ih h.2, extendKey]

/-- The leaves of members under flat keys, given those of each value. -/
theorem leavesMembers_eq_memberPaths {ms : Members}
    (h : ∀ k v, (k, v) ∈ ms →
      ∀ at_, leaves separator at_ v = (leafPaths v).map (flatLeaf separator at_))
    (at_ : String) :
    leavesMembers separator at_ ms = (memberPaths ms).map (flatLeaf separator at_) := by
  induction ms with
  | nil => rfl
  | cons m ms ih =>
      obtain ⟨k, v⟩ := m
      rw [Keyed.forall_mem_cons] at h
      rw [leavesMembers, memberPaths, List.map_append, map_flatLeaf_under, h.1, ih h.2, extendKey]

/-- **The flat object has the leaves under the flat keys of their paths.** -/
theorem leaves_eq_leafPaths (v : Value) (at_ : String) :
    leaves separator at_ v = (leafPaths v).map (flatLeaf separator at_) := by
  induction v using Value.induct generalizing at_ with
  | null | bool _ | number _ | string _ => rfl
  | array vs ih =>
      rcases vs with - | ⟨v, vs⟩
      · rfl
      · exact leavesItems_eq_itemPaths separator ih at_ 0
  | object ms ih =>
      rcases ms with - | ⟨m, ms⟩
      · rfl
      · exact leavesMembers_eq_memberPaths separator ih at_

end FlatKeys

/-- A name with a property, or an index of 64 bits. -/
def SegmentSatisfies (p : String → Prop) : Segment φ → Prop
  | .key k => p k
  | .index i => i < Value.lengthBound
  | _ => False

/-- The segments on the way to a leaf are indices, and names that have what all keys have. -/
theorem segmentSatisfies_of_mem_leafPaths {p : String → Prop} {v : Value} (hv : v.WellFormed)
    (hk : v.KeysSatisfy p) {leaf : Path × Value} (h : leaf ∈ leafPaths v) :
    ∀ s ∈ leaf.1, SegmentSatisfies p s := by
  induction v using Value.induct generalizing leaf with
  | null | bool _ | number _ | string _ =>
      simp only [leafPaths, List.mem_singleton] at h
      simp [h]
  | array vs ih =>
      rcases vs with - | ⟨v, vs⟩
      · simp only [leafPaths, List.mem_singleton] at h
        simp [h]
      · rw [Value.wellFormed_array_iff] at hv
        rw [Value.keysSatisfy_array_iff] at hk
        rw [leafPaths] at h
        obtain ⟨j, w, below, -, hlt, hw, hbelow, rfl⟩ := mem_itemPaths h
        rw [under, List.forall_mem_cons]
        exact ⟨show j < Value.lengthBound by omega, ih w hw (hv.2 w hw) (hk w hw) hbelow⟩
  | object ms ih =>
      rcases ms with - | ⟨m, ms⟩
      · simp only [leafPaths, List.mem_singleton] at h
        simp [h]
      · rw [Value.wellFormed_object_iff] at hv
        rw [Value.keysSatisfy_object_iff] at hk
        rw [leafPaths] at h
        obtain ⟨k, w, below, hw, hbelow, rfl⟩ := mem_memberPaths h
        rw [under, List.forall_mem_cons]
        exact ⟨(hk k w hw).1, ih k w hw (hv.2 k w hw) (hk k w hw).2 hbelow⟩

/-- The segments on the way to a leaf can be held by flat keys if the names can. -/
theorem flatSegment_of_mem_leafPaths {separator : String} {v : Value} (hv : v.WellFormed)
    (hk : v.KeysSatisfy (FlatName separator)) {leaf : Path × Value} (h : leaf ∈ leafPaths v) :
    ∀ s ∈ leaf.1, FlatSegment separator s := by
  intro s hs
  have hseg := segmentSatisfies_of_mem_leafPaths hv hk h s hs
  cases s with
  | key _ | index _ | wildcard | slice _ _ | filter _ | descendant _ => exact hseg

/-- The indices on the way to a leaf have 64 bits. -/
theorem index_lt_of_mem_leafPaths {v : Value} (hv : v.WellFormed) {leaf : Path × Value}
    (h : leaf ∈ leafPaths v) (i : Nat) (hi : .index i ∈ leaf.1) : i < Value.lengthBound :=
  segmentSatisfies_of_mem_leafPaths hv (Value.keysSatisfy_of_forall (fun _ => trivial) v) h _ hi

/-! ### Leaves have different paths -/

/-- The paths of leaves are different one segment further up if they are. -/
theorem nodup_paths_under {ls : List (Path × Value)} (h : (ls.map (·.1)).Nodup)
    (s : Segment Condition) : ((ls.map (under s)).map (·.1)).Nodup := by
  have hmap : (ls.map (under s)).map (·.1) = (ls.map (·.1)).map (s :: ·) := by
    rw [List.map_map, List.map_map]
    rfl
  rw [hmap]
  exact h.map fun p q hpq => (List.cons.inj hpq).2

/-- The leaves of items have different paths if those of each item do. -/
theorem nodup_itemPaths {vs : List Value}
    (h : ∀ v ∈ vs, ((leafPaths v).map (·.1)).Nodup) (i : Nat) :
    ((itemPaths i vs).map (·.1)).Nodup := by
  induction vs generalizing i with
  | nil => simp [itemPaths]
  | cons v vs ih =>
      rw [List.forall_mem_cons] at h
      rw [itemPaths, List.map_append, List.nodup_append]
      refine ⟨nodup_paths_under h.1 _, ih h.2 (i + 1), ?_⟩
      intro p hp q hq hpq
      simp only [List.mem_map] at hp hq
      obtain ⟨-, ⟨below, -, rfl⟩, rfl⟩ := hp
      obtain ⟨leaf, hleaf, rfl⟩ := hq
      obtain ⟨j, w, below', hle, -, -, -, rfl⟩ := mem_itemPaths hleaf
      have hij : i = j := Segment.index.inj (List.cons.inj hpq).1
      omega

/-- The leaves of members have different paths if those of each value do and the keys do. -/
theorem nodup_memberPaths {ms : Members} (hms : (ms.map (·.1)).Nodup)
    (h : ∀ k v, (k, v) ∈ ms → ((leafPaths v).map (·.1)).Nodup) :
    ((memberPaths ms).map (·.1)).Nodup := by
  induction ms with
  | nil => simp [memberPaths]
  | cons m ms ih =>
      obtain ⟨k, v⟩ := m
      rw [Keyed.forall_mem_cons] at h
      rw [List.map_cons, List.nodup_cons] at hms
      rw [memberPaths, List.map_append, List.nodup_append]
      refine ⟨nodup_paths_under h.1 _, ih hms.2 h.2, ?_⟩
      intro p hp q hq hpq
      simp only [List.mem_map] at hp hq
      obtain ⟨-, ⟨below, -, rfl⟩, rfl⟩ := hp
      obtain ⟨leaf, hleaf, rfl⟩ := hq
      obtain ⟨k', w, below', hw, -, rfl⟩ := mem_memberPaths hleaf
      have hkk : k = k' := Segment.key.inj (List.cons.inj hpq).1
      exact hms.1 (List.mem_map.mpr ⟨_, hw, hkk.symm⟩)

/-- The leaves of a value have different paths. -/
theorem nodup_leafPaths {v : Value} (hv : v.WellFormed) : ((leafPaths v).map (·.1)).Nodup := by
  induction v using Value.induct with
  | null | bool _ | number _ | string _ => simp [leafPaths]
  | array vs ih =>
      rw [Value.wellFormed_array_iff] at hv
      rcases vs with - | ⟨v, vs⟩
      · simp [leafPaths]
      · exact nodup_itemPaths (fun w hw => ih w hw (hv.2 w hw)) 0
  | object ms ih =>
      rw [Value.wellFormed_object_iff] at hv
      rcases ms with - | ⟨m, ms⟩
      · simp [leafPaths]
      · exact nodup_memberPaths hv.1 fun k w hw => ih k w hw (hv.2 k w hw)

/-- The leaves below the root of a container have paths that are not empty. -/
theorem path_ne_nil_of_mem_leafPaths {v : Value}
    (hv : (∃ w vs, v = .array (w :: vs)) ∨ ∃ m ms, v = .object (m :: ms)) {leaf : Path × Value}
    (h : leaf ∈ leafPaths v) : leaf.1 ≠ [] := by
  rcases hv with ⟨w, vs, rfl⟩ | ⟨m, ms, rfl⟩
  · rw [leafPaths] at h
    obtain ⟨j, w, below, -, -, -, -, rfl⟩ := mem_itemPaths h
    exact List.cons_ne_nil _ _
  · rw [leafPaths] at h
    obtain ⟨k, w, below, -, -, rfl⟩ := mem_memberPaths h
    exact List.cons_ne_nil _ _

/-- The flat keys of the leaves of a value are read as the paths that they were made of. -/
def KeysReadBack (separator : String) (v : Value) : Prop :=
  ∀ leaf ∈ leafPaths v, leaf.1 ≠ [] →
    splitFlatKey separator (flatKey separator "" leaf.1) = leaf.1

/-- The flat object of a document is made of its leaves as they are if the keys are read back: no
two leaves have one flat key. -/
theorem KeysReadBack.flatten_eq {separator : String} {v : Value} (h : KeysReadBack separator v)
    (hv : v.WellFormed) :
    flatten separator v = .object ((leafPaths v).map (flatLeaf separator "")) := by
  rw [flatten, leaves_eq_leafPaths, Members.ofPairs, Keyed.ofPairs_of_nodup]
  rcases leafPaths_cases v with hleaf | hcontainer
  · simp [hleaf]
  have hkeys : ((leafPaths v).map (flatLeaf separator "")).map (·.1) =
      ((leafPaths v).map (·.1)).map (flatKey separator "") := by
    rw [List.map_map, List.map_map]
    rfl
  rw [hkeys]
  refine (nodup_leafPaths hv).map_on ?_
  rintro p hp q hq heq
  obtain ⟨leaf, hleaf, rfl⟩ := List.mem_map.mp hp
  obtain ⟨leaf', hleaf', rfl⟩ := List.mem_map.mp hq
  -- both flat keys are read as the paths that they were made of
  have hread := congrArg (splitFlatKey separator) heq
  rwa [h leaf hleaf (path_ne_nil_of_mem_leafPaths hcontainer hleaf),
    h leaf' hleaf' (path_ne_nil_of_mem_leafPaths hcontainer hleaf')] at hread

/-- Keys that can be told from the separator are read back. -/
theorem flatten_eq {separator : String} (hs : FlatSeparator separator) {v : Value}
    (hv : v.WellFormed) (hk : v.KeysSatisfy (FlatName separator)) :
    flatten separator v = .object ((leafPaths v).map (flatLeaf separator "")) :=
  KeysReadBack.flatten_eq (fun _ hleaf hne =>
    splitFlatKey_flatKey hs hne (flatSegment_of_mem_leafPaths hv hk hleaf)) hv

/-! ### Writing leaves -/

/-- The document after leaves have been written at their paths one after another, if no write
fails. -/
def writePaths : List (Path × Value) → Value → Option Value
  | [], v => some v
  | (p, x) :: ls, v =>
    match writeAt x p v with
    | { document := w, fault := none } => writePaths ls w
    | _ => none

/-- Leaves are written after the leaves before them. -/
theorem writePaths_append (ls ls' : List (Path × Value)) (v : Value) :
    writePaths (ls ++ ls') v = (writePaths ls v).bind (writePaths ls') := by
  induction ls generalizing v with
  | nil => rfl
  | cons l ls ih =>
      obtain ⟨p, x⟩ := l
      rw [List.cons_append, writePaths, writePaths]
      split
      · exact ih _
      · rfl

/-- A segment leads to the value that stands in a place: a write below the segment is a write into
that value. -/
def LeadsTo (s : Segment Condition) (place : Value → Value) : Prop :=
  ∀ (x : Value) (p : Path) (c : Value), writeAt x (s :: p) (place c) = (writeAt x p c).within place

/-- Leaves of a child are written into the child alone. -/
theorem writePaths_under {s : Segment Condition} {place : Value → Value} (h : LeadsTo s place)
    (ls : List (Path × Value)) (c : Value) :
    writePaths (ls.map (under s)) (place c) = (writePaths ls c).map place := by
  induction ls generalizing c with
  | nil => rfl
  | cons l ls ih =>
      obtain ⟨p, x⟩ := l
      rw [List.map_cons, under, writePaths, writePaths, h x p c, Written.within]
      rcases writeAt x p c with ⟨w, - | f⟩
      · exact ih w
      · rfl

/-- Where the first leaf of a child finds no place, it opens one that holds a null. -/
theorem writePaths_open {s : Segment Condition} {place : Value → Value} (h : LeadsTo s place)
    {v : Value} (hopen : ∀ x p, writeAt x (s :: p) v = writeAt x (s :: p) (place .null))
    {ls : List (Path × Value)} (hne : ls ≠ []) :
    writePaths (ls.map (under s)) v = (writePaths ls .null).map place := by
  rw [← writePaths_under h]
  obtain ⟨⟨p, x⟩, ls, rfl⟩ := List.exists_cons_of_ne_nil hne
  rw [List.map_cons, under, writePaths, writePaths, hopen]

/-- The slot behind the last item of an array. -/
theorem slot?_index_length (vs : List Value) :
    slot? (.array vs) (.index vs.length : Segment φ) =
      some { content := .null, put := fun c => .array (vs ++ [c]) } := by
  have hpad : padTo (vs.length + 1) vs = vs ++ [.null] := by simp [padTo]
  simp [slot?, arrayIndex?, itemSlot, hpad]

/-- An index leads to the last item of the array that is one longer. -/
theorem leadsTo_index (vs : List Value) :
    LeadsTo (.index vs.length) fun c => .array (vs ++ [c]) :=
  fun x p c => writeAt_put (slot?_index_length vs) x p c

/-- An index behind the last item opens a place that holds a null. -/
theorem writeAt_index_length (vs : List Value) (x : Value) (p : Path) :
    writeAt x (.index vs.length :: p) (.array vs) =
      writeAt x (.index vs.length :: p) (.array (vs ++ [.null])) := by
  rw [leadsTo_index vs x p .null, writeAt_of_slot (v := .array vs) (slot?_index_length vs)]

/-- The slot of an object under a new key. -/
theorem slot?_new_key {ms : Members} {k : String} (hk : k ∉ ms.map (·.1)) :
    slot? (.object ms) (.key k : Segment φ) =
      some { content := .null, put := fun c => .object (ms ++ [(k, c)]) } := by
  have hnone : Members.get? ms k = none := Keyed.get?_eq_none_iff.mpr hk
  have hinsert : ∀ c, Members.insert ms k c = ms ++ [(k, c)] := Keyed.insert_of_not_mem hk
  simp only [slot?, memberSlot, hnone, hinsert, Option.getD_none]

/-- A new key leads to the last member of the object that has it behind the others. -/
theorem leadsTo_key {ms : Members} {k : String} (hk : k ∉ ms.map (·.1)) :
    LeadsTo (.key k) fun c => .object (ms ++ [(k, c)]) :=
  fun x p c => writeAt_put (slot?_new_key hk) x p c

/-- A new key opens a place that holds a null. -/
theorem writeAt_new_key {ms : Members} {k : String} (hk : k ∉ ms.map (·.1)) (x : Value)
    (p : Path) :
    writeAt x (.key k :: p) (.object ms) =
      writeAt x (.key k :: p) (.object (ms ++ [(k, .null)])) := by
  rw [leadsTo_key hk x p .null, writeAt_of_slot (v := .object ms) (slot?_new_key hk)]

/-- The leaves of items, written behind the items that are there already, add these items. -/
theorem writePaths_itemPaths {vs : List Value}
    (h : ∀ v ∈ vs, writePaths (leafPaths v) .null = some v) (done : List Value) :
    writePaths (itemPaths done.length vs) (.array done) = some (.array (done ++ vs)) := by
  induction vs generalizing done with
  | nil => simp [itemPaths, writePaths]
  | cons v vs ih =>
      rw [List.forall_mem_cons] at h
      have hnext := ih h.2 (done ++ [v])
      rw [List.length_append, List.length_singleton, List.append_assoc] at hnext
      rw [itemPaths, writePaths_append,
        writePaths_open (leadsTo_index done) (writeAt_index_length done) (leafPaths_ne_nil v),
        h.1]
      exact hnext

/-- The leaves of members, written behind the members that are there already, add these
members. -/
theorem writePaths_memberPaths {ms : Members}
    (h : ∀ k v, (k, v) ∈ ms → writePaths (leafPaths v) .null = some v) {done : Members}
    (hkeys : ((done ++ ms).map (·.1)).Nodup) :
    writePaths (memberPaths ms) (.object done) = some (.object (done ++ ms)) := by
  induction ms generalizing done with
  | nil => simp [memberPaths, writePaths]
  | cons m ms ih =>
      obtain ⟨k, v⟩ := m
      rw [Keyed.forall_mem_cons] at h
      have hk : k ∉ done.map (·.1) :=
        fun hmem => Keyed.not_mem_of_nodup_middle hkeys (by simp [hmem])
      have hnext := ih h.2
        (show (((done ++ [(k, v)]) ++ ms).map (·.1)).Nodup by simpa using hkeys)
      rw [List.append_assoc] at hnext
      rw [memberPaths, writePaths_append,
        writePaths_open (leadsTo_key hk) (writeAt_new_key hk) (leafPaths_ne_nil v), h.1]
      exact hnext

/-- The first leaf makes the container that its path needs of a null. -/
theorem writePaths_null {s : Segment Condition} (hs : s.isLiteral = true)
    {ls : List (Path × Value)} (hne : ls ≠ []) (rest : List (Path × Value)) :
    writePaths (ls.map (under s) ++ rest) .null =
      writePaths (ls.map (under s) ++ rest) (containerFor s) := by
  obtain ⟨⟨p, x⟩, ls, rfl⟩ := List.exists_cons_of_ne_nil hne
  have hfirst : writeAt x (s :: p) .null = writeAt x (s :: p) (containerFor s) := by
    cases s with
    | key k => rfl
    | index i => rfl
    | wildcard | slice _ _ | filter _ | descendant _ => simp [Segment.isLiteral] at hs
  rw [List.map_cons, List.cons_append, under, writePaths, writePaths, hfirst]

/-- **A value is made again from its leaves**: written into a null, they are the value. -/
theorem writePaths_leafPaths {v : Value} (hv : v.WellFormed) :
    writePaths (leafPaths v) .null = some v := by
  induction v using Value.induct with
  | null | bool _ | number _ | string _ => rfl
  | array vs ih =>
      rw [Value.wellFormed_array_iff] at hv
      rcases vs with - | ⟨v, vs⟩
      · rfl
      · have hitems := writePaths_itemPaths (fun w hw => ih w hw (hv.2 w hw)) []
        rw [itemPaths] at hitems
        rw [leafPaths, itemPaths, writePaths_null rfl (leafPaths_ne_nil v)]
        exact hitems
  | object ms ih =>
      rw [Value.wellFormed_object_iff] at hv
      rcases ms with - | ⟨⟨k, v⟩, ms⟩
      · rfl
      · have hkeys : (([] ++ (k, v) :: ms : Members).map (·.1)).Nodup := hv.1
        have hmembers := writePaths_memberPaths (fun k w hw => ih k w hw (hv.2 k w hw)) hkeys
        rw [memberPaths] at hmembers
        rw [leafPaths, memberPaths, writePaths_null rfl (leafPaths_ne_nil v)]
        exact hmembers

/-! ### Flat objects and back -/

/-- A flat key stands for a path of names and indices. -/
theorem isLiteral_splitFlatKey (separator key : String) :
    (splitFlatKey separator key).isLiteral = true := by
  have hpart : ∀ part, (partSegments part).all Segment.isLiteral = true := by
    intro part
    rw [partSegments, List.all_append, List.all_map, Bool.and_eq_true]
    exact ⟨by split <;> rfl, List.all_eq_true.mpr fun _ _ => rfl⟩
  rw [Path.isLiteral, splitFlatKey, List.all_flatMap]
  exact List.all_eq_true.mpr fun part _ => hpart part

/-- The members of a flat object are written at the paths of the leaves if its keys are read as
these paths. -/
theorem writeLeaves_map_flatLeaf {separator : String} {ls : List (Path × Value)}
    (hread : ∀ leaf ∈ ls, splitFlatKey separator (flatKey separator "" leaf.1) = leaf.1)
    {v w : Value} (h : writePaths ls v = some w) :
    writeLeaves separator (ls.map (flatLeaf separator "")) v = .ok w := by
  induction ls generalizing v with
  | nil => simpa [writePaths, writeLeaves] using h
  | cons l ls ih =>
      obtain ⟨p, x⟩ := l
      obtain ⟨hp, hread⟩ := List.forall_mem_cons.mp hread
      replace hp : splitFlatKey separator (flatKey separator "" p) = p := hp
      have hliteral : p.isLiteral = true := by
        rw [← hp]
        exact isLiteral_splitFlatKey separator _
      rw [writePaths] at h
      rw [List.map_cons, flatLeaf, writeLeaves, hp, write_eq_writeAt hliteral]
      rcases hw : writeAt x p v with ⟨u, - | f⟩
      · rw [hw] at h
        exact ih hread h
      · rw [hw] at h
        simp at h

/-- The members of a flat object are written at the paths of the leaves if the segments can be told
from the separator. -/
theorem writeLeaves_eq_writePaths {separator : String} (hs : FlatSeparator separator)
    {ls : List (Path × Value)} (hne : ∀ leaf ∈ ls, leaf.1 ≠ [])
    (hls : ∀ leaf ∈ ls, ∀ s ∈ leaf.1, FlatSegment separator s) {v w : Value}
    (h : writePaths ls v = some w) :
    writeLeaves separator (ls.map (flatLeaf separator "")) v = .ok w :=
  writeLeaves_map_flatLeaf (fun leaf hleaf =>
    splitFlatKey_flatKey hs (hne leaf hleaf) (hls leaf hleaf)) h

/-- **Flattening loses nothing**: the document of the flat object of a document is that document,
with its keys in order, if the keys at all depths can be told from the separator. -/
theorem unflatten_flatten {separator : String} (hs : FlatSeparator separator) {v : Value}
    (hv : v.WellFormed) (hk : v.KeysSatisfy (FlatName separator)) :
    unflatten separator (flatten separator v) = .ok v := by
  rw [flatten_eq hs hv hk]
  rcases leafPaths_cases v with hleaf | hcontainer
  · rw [hleaf]
    rfl
  have hpath : ∀ leaf ∈ leafPaths v, leaf.1 ≠ [] :=
    fun leaf h => path_ne_nil_of_mem_leafPaths hcontainer h
  have hseg : ∀ leaf ∈ leafPaths v, ∀ s ∈ leaf.1, FlatSegment separator s :=
    fun leaf h => flatSegment_of_mem_leafPaths hv hk h
  have hwrite := writeLeaves_eq_writePaths hs hpath hseg (writePaths_leafPaths hv)
  rw [unflatten]
  · rw [hwrite]
    rcases hcontainer with ⟨w, vs, rfl⟩ | ⟨m, ms, rfl⟩ <;> rfl
  · -- no leaf stands at the root, so that the empty key does not occur
    intro root hroot
    obtain ⟨leaf, ls, hls⟩ := List.exists_cons_of_ne_nil (leafPaths_ne_nil v)
    have hmem : leaf ∈ leafPaths v := hls ▸ List.mem_cons_self ..
    rw [hls, List.map_cons] at hroot
    have hkey := congrArg Prod.fst (List.cons.inj hroot).1
    exact flatKey_ne_empty (hpath leaf hmem) (hseg leaf hmem) hkey

/-- A document with leaves of all kinds: a null in front of an object, and empty containers. -/
def mixedLeaves : Value :=
  .object [("list", .array [.null, .object [("7", .int 7), ("none", .object [])], .array []]),
    ("text", .string "a.b")]

/-- The document with leaves of all kinds is made again from its flat object. -/
theorem unflatten_flatten_mixedLeaves :
    (FlatSeparator "." ∧ mixedLeaves.WellFormed ∧ mixedLeaves.KeysSatisfy (FlatName ".")) ∧
      unflatten "." (flatten "." mixedLeaves) = .ok mixedLeaves := by
  have hs : FlatSeparator "." := by decide
  have hv : mixedLeaves.WellFormed := by decide
  have hk : mixedLeaves.KeysSatisfy (FlatName ".") := by decide
  exact ⟨⟨hs, hv, hk⟩, unflatten_flatten hs hv hk⟩

end JsonWorkbench
