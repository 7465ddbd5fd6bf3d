import JsonWorkbench.Proofs.Flatten
import JsonWorkbench.Proofs.Query
import JsonWorkbench.Proofs.Write.Frame

/-!
# Descents

A descent collects what stands under a key at any depth. The order of its results is that of the
document: a value comes before what is in it, and what is in one child of a container before what
is in the next. The places of a document are listed in this order once and for all (`places`); a
descent is a choice among them, of those that end in the key, and so it omits nothing, repeats
nothing and keeps the order.

A place is named by the segments that lead to it, with an index for an item. A numeral leads to the
item as well, but is not the name of its place (`location`).

## Main definitions

* `Value.children` — the values directly in a container, under their segments.
* `places` — the places in a value with what stands there.
* `Precedes` — the order of places.

## Main results

* `mem_places_iff` — all places are listed.
* `pairwise_precedes_places` — they are listed in order.
* `descendants_eq` — a descent chooses among the places.
* `query_descendant` — what a descent selects.
-/

namespace JsonWorkbench

/-! ### Children -/

namespace Value

/-- The values directly in a value, each under the segment that names its place, in order. -/
def children : Value → List (Segment Condition × Value)
  | .array vs => vs.zipIdx.map fun c => (.index c.2, c.1)
  | .object ms => ms.map fun m => (.key m.1, m.2)
  | _ => []

/-- The segments that name the places directly in a value, in order. -/
def segments (v : Value) : Path := v.children.map (·.1)

/-- The children of an array are its items, each under its index. -/
theorem mem_children_array_iff {vs : List Value} {s : Segment Condition} {w : Value} :
    (s, w) ∈ (Value.array vs).children ↔ ∃ i, s = .index i ∧ vs[i]? = some w := by
  simp only [children, List.mem_map, Prod.exists, List.mem_zipIdx_iff_getElem?, Prod.mk.injEq]
  constructor
  · rintro ⟨w', i, hget, rfl, rfl⟩
    exact ⟨i, rfl, hget⟩
  · rintro ⟨i, rfl, hget⟩
    exact ⟨w, i, hget, rfl, rfl⟩

/-- The children of an object are the values of its members, each under its key. -/
theorem mem_children_object_iff {ms : Members} {s : Segment Condition} {w : Value} :
    (s, w) ∈ (Value.object ms).children ↔ ∃ k, s = .key k ∧ (k, w) ∈ ms := by
  simp only [children, List.mem_map, Prod.exists, Prod.mk.injEq]
  constructor
  · rintro ⟨k, w', hm, rfl, rfl⟩
    exact ⟨k, rfl, hm⟩
  · rintro ⟨k, rfl, hm⟩
    exact ⟨k, w, hm, rfl, rfl⟩

/-- **Induction on values, one child at a time.** -/
theorem induct_children {motive : Value → Prop}
    (ih : ∀ v, (∀ c ∈ v.children, motive c.2) → motive v) (v : Value) : motive v := by
  induction v using Value.induct with
  | null | bool _ | number _ | string _ => exact ih _ fun c hc => absurd hc List.not_mem_nil
  | array vs hvs =>
      refine ih _ fun c hc => ?_
      obtain ⟨i, -, hget⟩ := mem_children_array_iff.mp hc
      exact hvs c.2 (List.mem_of_getElem? hget)
  | object ms hms =>
      refine ih _ fun c hc => ?_
      obtain ⟨k, -, hm⟩ := mem_children_object_iff.mp hc
      exact hms k c.2 hm

/-- No place directly in a value is named twice. -/
theorem nodup_segments {v : Value} (hv : v.WellFormed) : v.segments.Nodup := by
  cases v with
  | null | bool _ | number _ | string _ => exact List.nodup_nil
  | array vs =>
      have hindices : (Value.array vs).segments = (List.range' 0 vs.length).map .index := by
        rw [segments, children, List.map_map, ← List.zipIdx_map_snd, List.map_map]
        rfl
      rw [hindices]
      exact List.Nodup.map (fun i j h => Segment.index.inj h) (List.nodup_range' 1)
  | object ms =>
      have hkeys : (Value.object ms).segments = (ms.map (·.1)).map .key := by
        rw [segments, children, List.map_map, List.map_map]
        rfl
      rw [hkeys]
      exact (wellFormed_object_iff.mp hv).1.map fun k l h => Segment.key.inj h

/-- The children of a value are what those segments lead to that name a place. -/
theorem mem_children_iff {v w : Value} (hv : v.WellFormed) {s : Segment Condition} :
    (s, w) ∈ v.children ↔ step v s = some w ∧ placeIn v s = s := by
  cases v with
  | null | bool _ | number _ | string _ => simp [children, step]
  | array vs =>
      rw [mem_children_array_iff]
      constructor
      · rintro ⟨i, rfl, hget⟩
        exact ⟨hget, rfl⟩
      · rintro ⟨hstep, hplace⟩
        rw [step_array, Option.bind_eq_some_iff] at hstep
        obtain ⟨i, hi, hget⟩ := hstep
        exact ⟨i, hplace.symm.trans (placeIn_array hi vs), hget⟩
  | object ms =>
      rw [mem_children_object_iff, placeIn_object]
      constructor
      · rintro ⟨k, rfl, hm⟩
        exact ⟨Keyed.get?_of_mem (wellFormed_object_iff.mp hv).1 hm, rfl⟩
      · rintro ⟨hstep, -⟩
        cases s with
        | key k => exact ⟨k, rfl, Keyed.mem_of_get? hstep⟩
        | index _ | wildcard | slice _ _ | filter _ | descendant _ =>
            exact absurd hstep (Option.some_ne_none w).symm

end Value

/-! ### Places -/

mutual

/-- The places in a value, itself first, with what stands there. -/
def places : Value → List (Path × Value)
  | .array vs => ([], .array vs) :: itemPlaces 0 vs
  | .object ms => ([], .object ms) :: memberPlaces ms
  | v => [([], v)]

/-- The places in items, the first of which is at index `i`. -/
def itemPlaces (i : Nat) : List Value → List (Path × Value)
  | [] => []
  | v :: vs => (places v).map (under (.index i)) ++ itemPlaces (i + 1) vs

/-- The places in the values of members. -/
def memberPlaces : List (String × Value) → List (Path × Value)
  | [] => []
  | (k, v) :: ms => (places v).map (under (.key k)) ++ memberPlaces ms

end

/-- The places in the children of a value, one child after another. -/
def placesBelow (v : Value) : List (Path × Value) :=
  v.children.flatMap fun c => (places c.2).map (under c.1)

/-- The places in a value are the value itself and those in its children. -/
theorem places_eq (v : Value) : places v = ([], v) :: placesBelow v := by
  cases v with
  | null | bool _ | number _ | string _ => rfl
  | array vs =>
      have hitems : ∀ i, itemPlaces i vs =
          ((vs.zipIdx i).map fun c => ((.index c.2 : Segment Condition), c.1)).flatMap
            fun c => (places c.2).map (under c.1) := by
        induction vs with
        | nil => exact fun _ => rfl
        | cons v vs ih =>
            intro i
            rw [itemPlaces, ih, List.zipIdx_cons, List.map_cons, List.flatMap_cons]
      rw [places, hitems, placesBelow, Value.children]
  | object ms =>
      rw [places, placesBelow, Value.children]
      congr 1
      induction ms with
      | nil => rfl
      | cons m ms ih => rw [memberPlaces, ih, List.map_cons, List.flatMap_cons]

/-- A place in a child has the segment of the child in front. -/
theorem mem_placesBelow_iff {v w : Value} {p : Path} :
    (p, w) ∈ placesBelow v ↔
      ∃ s q child, p = s :: q ∧ (s, child) ∈ v.children ∧ (q, w) ∈ places child := by
  simp only [placesBelow, List.mem_flatMap, List.mem_map, Prod.exists, under, Prod.mk.injEq]
  constructor
  · rintro ⟨s, child, hchild, q, w', hq, rfl, rfl⟩
    exact ⟨s, q, child, rfl, hchild, hq⟩
  · rintro ⟨s, q, child, rfl, hchild, hq⟩
    exact ⟨s, child, hchild, q, w, hq, rfl, rfl⟩

/-- **All places are listed**: the paths that are their own locations, with what they lead to. -/
theorem mem_places_iff {v w : Value} (hv : v.WellFormed) {p : Path} :
    (p, w) ∈ places v ↔ locate v p = some w ∧ location v p = p := by
  induction p generalizing v with
  | nil =>
      have hbelow : ([], w) ∉ placesBelow v := by
        rw [mem_placesBelow_iff]
        rintro ⟨s, q, child, hcons, -⟩
        exact List.cons_ne_nil s q hcons.symm
      rw [places_eq, List.mem_cons]
      simp [hbelow, locate, location, eq_comm]
  | cons s q ih =>
      have hhere : (s :: q, w) ≠ ([], v) := fun h => List.cons_ne_nil s q (Prod.mk.inj h).1
      rw [places_eq, List.mem_cons, or_iff_right hhere, mem_placesBelow_iff]
      constructor
      · rintro ⟨s', q', child, hpath, hchild, hw⟩
        obtain ⟨rfl, rfl⟩ := List.cons.inj hpath
        obtain ⟨hstep, hplace⟩ := (Value.mem_children_iff hv).mp hchild
        obtain ⟨hlocate, hlocation⟩ := (ih (hv.step hstep)).mp hw
        rw [locate, hstep, location_cons hstep, hplace, hlocation]
        exact ⟨hlocate, rfl⟩
      · rintro ⟨hlocate, hlocation⟩
        obtain ⟨child, hstep, hchild⟩ := Option.bind_eq_some_iff.mp hlocate
        rw [location_cons hstep] at hlocation
        obtain ⟨hplace, hrest⟩ := List.cons.inj hlocation
        exact ⟨s, q, child, rfl, (Value.mem_children_iff hv).mpr ⟨hstep, hplace⟩,
          (ih (hv.step hstep)).mpr ⟨hchild, hrest⟩⟩

/-! ### The order of places -/

/-- One place comes before another: it is around it, or where their paths part it is in an earlier
child. -/
def Precedes : Value → Path → Path → Prop
  | _, _, [] => False
  | _, [], _ :: _ => True
  | v, s :: p, t :: q =>
    [s, t].Sublist v.segments ∨ s = t ∧ ∃ child, step v s = some child ∧ Precedes child p q

/-- No place comes before itself. -/
theorem not_precedes_self {v : Value} (hv : v.WellFormed) (p : Path) : ¬Precedes v p p := by
  induction p generalizing v with
  | nil => exact id
  | cons s p ih =>
      rintro (htwice | ⟨-, child, hstep, hchild⟩)
      · exact List.nodup_iff_sublist.mp (Value.nodup_segments hv) s htwice
      · exact ih (hv.step hstep) hchild

/-- **The places are listed in order.** -/
theorem pairwise_precedes_places {v : Value} (hv : v.WellFormed) :
    (places v).Pairwise fun a b => Precedes v a.1 b.1 := by
  induction v using Value.induct_children with
  | ih v ih =>
      rw [places_eq, List.pairwise_cons]
      constructor
      · rintro ⟨p, w⟩ hw
        obtain ⟨s, q, child, rfl, -, -⟩ := mem_placesBelow_iff.mp hw
        exact trivial
      rw [placesBelow, List.pairwise_flatMap]
      constructor
      · rintro ⟨s, child⟩ hchild
        have hstep := ((Value.mem_children_iff hv).mp hchild).1
        rw [List.pairwise_map]
        exact (ih _ hchild (hv.step hstep)).imp fun h => .inr ⟨rfl, child, hstep, h⟩
      · -- the segments of two children stand in the order of the children
        refine List.pairwise_iff_forall_sublist.mpr fun {c c'} hsub => ?_
        intro a ha b hb
        obtain ⟨a, -, rfl⟩ := List.mem_map.mp ha
        obtain ⟨b, -, rfl⟩ := List.mem_map.mp hb
        exact .inl (hsub.map Prod.fst)

/-! ### Descents -/

/-- Whether the segment is a key. -/
def Segment.isKey (key : String) : Segment Condition → Bool
  | .key k => k == key
  | _ => false

/-- Whether the last segment of a path is a key. -/
def Path.endsIn (key : String) (p : Path) : Bool := p.getLast?.any (·.isKey key)

/-- A path ends in a key if that is its last segment. -/
theorem endsIn_iff {key : String} {p : Path} :
    Path.endsIn key p = true ↔ p.getLast? = some (.key key) := by
  rw [Path.endsIn]
  cases p.getLast? with
  | none => simp
  | some s => cases s <;> simp [Segment.isKey]

/-- A descent into a value takes each child under the key, and what a descent into the child
takes. -/
theorem descendants_children (key : String) (v : Value) :
    descendants key v =
      v.children.flatMap fun c =>
        (if c.1.isKey key then [c.2] else []) ++ descendants key c.2 := by
  cases v with
  | null | bool _ | number _ | string _ => rfl
  | array vs =>
      have hitems : ∀ i, descendantsItems key vs =
          ((vs.zipIdx i).map fun c => ((.index c.2 : Segment Condition), c.1)).flatMap fun c =>
            (if c.1.isKey key then [c.2] else []) ++ descendants key c.2 := by
        induction vs with
        | nil => exact fun _ => rfl
        | cons v vs ih =>
            intro i
            rw [descendantsItems, ih (i + 1), List.zipIdx_cons, List.map_cons, List.flatMap_cons]
            rfl
      rw [descendants, hitems 0, Value.children]
  | object ms =>
      rw [descendants, Value.children]
      induction ms with
      | nil => rfl
      | cons m ms ih =>
          rw [descendantsMembers, ih, List.map_cons, List.flatMap_cons, List.append_assoc]
          simp [Segment.isKey]

/-- The places of a child that end in a key, one segment further up: these, and the child itself if
its segment is the key. -/
theorem filter_endsIn_under (key : String) (s : Segment Condition) (v : Value) :
    (((places v).map (under s)).filter (Path.endsIn key ·.1)).map (·.2) =
      (if s.isKey key then [v] else []) ++ ((places v).filter (Path.endsIn key ·.1)).map (·.2) := by
  have hbelow : (placesBelow v).filter (fun x => Path.endsIn key (s :: x.1)) =
      (placesBelow v).filter (Path.endsIn key ·.1) := by
    refine List.filter_congr fun ⟨p, w⟩ hw => ?_
    obtain ⟨t, q, child, rfl, -, -⟩ := mem_placesBelow_iff.mp hw
    rw [Path.endsIn, Path.endsIn, List.getLast?_cons_cons]
  have hfilter : ((places v).map (under s)).filter (Path.endsIn key ·.1) =
      ((places v).filter fun x => Path.endsIn key (s :: x.1)).map (under s) := List.filter_map
  have hone : Path.endsIn key [s] = s.isKey key := rfl
  have hnone : Path.endsIn key [] = false := rfl
  rw [hfilter, List.map_map, places_eq, List.filter_cons, List.filter_cons, hbelow, hone, hnone]
  cases s.isKey key <;> rfl

/-- **A descent chooses among the places** those that end in the key. -/
theorem descendants_eq (key : String) (v : Value) :
    descendants key v = ((places v).filter (Path.endsIn key ·.1)).map (·.2) := by
  induction v using Value.induct_children with
  | ih v ih =>
      have hhere : Path.endsIn key [] = false := rfl
      rw [descendants_children, places_eq, List.filter_cons_of_neg (by simp [hhere]), placesBelow,
        List.filter_flatMap, List.map_flatMap]
      refine List.flatMap_congr fun c hc => ?_
      rw [filter_endsIn_under, ih c hc]

/-- **What a descent selects**: the values at the places whose last segment is the key, at any
depth, each place once and in the order of the document. -/
theorem query_descendant {d : Value} (hd : d.WellFormed) (key : String) :
    ∃ found : List (Path × Value),
      query [.descendant key] d = some (.array (found.map (·.2))) ∧
        (∀ p v, (p, v) ∈ found ↔
          (locate d p = some v ∧ location d p = p) ∧ p.getLast? = some (.key key)) ∧
        (found.map (·.1)).Nodup ∧
        (found.map (·.1)).Pairwise (Precedes d) := by
  have hnone : query ([] : Path) = some := rfl
  have hordered : (((places d).filter (Path.endsIn key ·.1)).map (·.1)).Pairwise (Precedes d) :=
    List.pairwise_map.mpr ((pairwise_precedes_places hd).filter _)
  refine ⟨(places d).filter (Path.endsIn key ·.1), ?selected, ?all, ?once, hordered⟩
  case selected => rw [query, hnone, List.filterMap_some, descendants_eq]
  case all =>
    intro p v
    rw [List.mem_filter, mem_places_iff hd, endsIn_iff]
  case once =>
    refine hordered.imp fun {p q} hpq heq => ?_
    exact not_precedes_self hd p (heq ▸ hpq)

/-- A document with the key at three depths: a match with two others in it, one of them in a list,
and one behind it. -/
def nestedMatches : Value :=
  .object [("a", .object [("a", .int 1), ("b", .array [.null, .object [("a", .int 2)]])]),
    ("c", .object [("a", .array [])])]

/-- A match comes before those in it, and these before the next. -/
theorem query_descendant_nestedMatches :
    nestedMatches.WellFormed ∧
      query [.descendant "a"] nestedMatches =
        some (.array [.object [("a", .int 1), ("b", .array [.null, .object [("a", .int 2)]])],
          .int 1, .int 2, .array []]) ∧
      ∃ found : List (Path × Value),
        query [.descendant "a"] nestedMatches = some (.array (found.map (·.2))) ∧
          (∀ p v, (p, v) ∈ found ↔
            (locate nestedMatches p = some v ∧ location nestedMatches p = p) ∧
              p.getLast? = some (.key "a")) ∧
          (found.map (·.1)).Nodup ∧
          (found.map (·.1)).Pairwise (Precedes nestedMatches) := by
  have hd : nestedMatches.WellFormed := by decide
  exact ⟨hd, rfl, query_descendant hd "a"⟩

end JsonWorkbench
