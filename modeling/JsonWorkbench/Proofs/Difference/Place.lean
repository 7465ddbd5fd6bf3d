import JsonWorkbench.Proofs.Difference.Walk
import Mathlib.Data.List.Flatten

/-!
# The Places of Differences

A difference says what stands at its path in the two documents. Following the path on both sides
finds just that: nothing and the value that has been added, the value that has been removed and
nothing, two scalars of one kind that are not equal, two values of different kinds, or two arrays
of different lengths. The walk only ever takes keys at objects and indices at arrays, so that the
path it has come along is one that can be followed again.

No two differences overlap: a path that stands for a value as a whole has no other difference at
it or below it. A change of length is the exception, as it stands at the array whose items are
compared one by one as well.

## Main definitions

* `Change.Between` — a change is one between what stands at two places.
* `Apart` — neither of two paths leads on from the other.

## Main results

* `diff_between` — every difference is one between what its path leads to, and none overlaps.
-/

namespace JsonWorkbench

/-! ### What a change says -/

/-- Kinds are told apart by their names. -/
theorem Kind.name_injective : Function.Injective Kind.name := by
  intro a b
  cases a <;> cases b <;> decide

/-- A change is one between what stands at a place on the left and on the right. -/
inductive Change.Between : Change → Option Value → Option Value → Prop
  /-- There is nothing on the left. -/
  | added (v : Value) : Between (.added v) none (some v)
  /-- There is nothing on the right. -/
  | removed (v : Value) : Between (.removed v) (some v) none
  /-- There are values of one kind that are not equal as data. -/
  | valueChange {v w : Value} (hkind : v.kind = w.kind) (hne : v.looseEq w = false) :
      Between (.valueChange v w) (some v) (some w)
  /-- There are values of kinds with different names. -/
  | kindChange {v w : Value} (hne : v.kind.name ≠ w.kind.name) :
      Between (.kindChange v.kind w.kind w) (some v) (some w)
  /-- There are arrays of different lengths. -/
  | arrayLength {vs ws : List Value} (hne : vs.length ≠ ws.length) :
      Between (.arrayLength vs.length ws.length) (some (.array vs)) (some (.array ws))

/-- There is a value at one of the places that a change is between. -/
theorem Change.Between.exists_value {c : Change} {before after : Option Value}
    (h : c.Between before after) : ∃ v, before = some v ∨ after = some v := by
  cases h with
  | added v => exact ⟨v, .inr rfl⟩
  | removed v => exact ⟨v, .inl rfl⟩
  | valueChange | kindChange | arrayLength => exact ⟨_, .inl rfl⟩

/-- Whether a change is one of the length of an array. -/
def Change.isLength : Change → Bool
  | .arrayLength _ _ => true
  | _ => false

/-- At the place of two values there is at most one change. It is one between them, and they are
compared further only if it is one of length. -/
theorem ownChanges_cases (l r : Value) :
    ownChanges l r = [] ∨ ∃ c, ownChanges l r = [c] ∧ c.Between (some l) (some r) ∧
      (c.isLength = false → comparedSegments l r = []) := by
  have hscalar : ∀ v : Value, v.isContainer = false → v.kind = r.kind →
      ownChanges v r = [] ∨ ∃ c, ownChanges v r = [c] ∧ c.Between (some v) (some r) ∧
        (c.isLength = false → comparedSegments v r = []) := by
    intro v hv hkind
    rw [ownChanges_scalar hv, if_pos hkind]
    cases hne : v.looseEq r with
    | true => exact .inl rfl
    | false =>
        exact .inr ⟨_, rfl, .valueChange hkind hne, fun _ => comparedSegments_scalar hv r⟩
  by_cases hkind : l.kind = r.kind
  · cases l with
    | null | bool _ | number _ | string _ => exact hscalar _ rfl hkind
    | array ls =>
        cases r with
        | array rs =>
            rw [ownChanges, if_pos hkind]
            by_cases hlen : ls.length = rs.length
            · exact .inl (if_pos hlen)
            · exact .inr ⟨_, if_neg hlen, .arrayLength hlen, fun h => Bool.noConfusion h⟩
        | null | bool _ | number _ | string _ | object _ => exact Kind.noConfusion hkind
    | object ls =>
        cases r with
        | object rs => exact .inl rfl
        | null | bool _ | number _ | string _ | array _ => exact Kind.noConfusion hkind
  · refine .inr ⟨_, if_neg hkind, .kindChange fun h => hkind (Kind.name_injective h), fun _ => ?_⟩
    unfold comparedSegments
    split <;> first | rfl | exact absurd rfl hkind

/-- A change at the place of two values is one between them, and they are compared further only if
it is one of length. -/
theorem of_mem_ownChanges {l r : Value} {c : Change} (hc : c ∈ ownChanges l r) :
    c.Between (some l) (some r) ∧ (c.isLength = false → comparedSegments l r = []) := by
  rcases ownChanges_cases l r with hnone | ⟨c', hone, h⟩
  · exact absurd (hnone ▸ hc) List.not_mem_nil
  · obtain rfl : c = c' := List.mem_singleton.mp (hone ▸ hc)
    exact h

/-! ### Following the path of a difference -/

/-- The path of a difference leads on from where the walk has begun, to what the change is one
between. -/
theorem between_of_mem_differences {l r : Value} (hl : l.WellFormed) (hr : r.WellFormed)
    {path : Path} {d : Difference} (h : d ∈ differences path l r) :
    ∃ rest, d.path = path ++ rest ∧ d.change.Between (locate l rest) (locate r rest) := by
  induction l using Value.induct_step (φ := Condition) generalizing r path with
  | ih l ih =>
      rcases (mem_differences_iff hl hr).mp h with ⟨c, hc, rfl⟩ | ⟨s, -, h⟩
      · exact ⟨[], (List.append_nil path).symm, (of_mem_ownChanges hc).1⟩
      · rcases hls : step l s with - | l' <;> rcases hrs : step r s with - | r' <;>
          rw [hls, hrs, differencesAt] at h
        · exact absurd h List.not_mem_nil
        · obtain rfl := List.mem_singleton.mp h
          refine ⟨[s], rfl, ?_⟩
          simp only [locate, hls, hrs, Option.bind_none, Option.bind_some]
          exact .added r'
        · obtain rfl := List.mem_singleton.mp h
          refine ⟨[s], rfl, ?_⟩
          simp only [locate, hls, hrs, Option.bind_none, Option.bind_some]
          exact .removed l'
        · obtain ⟨rest, hpath, hbetween⟩ := ih s l' hls (hl.step hls) (hr.step hrs) h
          refine ⟨s :: rest, by rw [hpath, List.append_assoc, List.singleton_append], ?_⟩
          simpa only [locate, hls, hrs, Option.bind_some] using hbetween

/-- The paths of the differences at a path lead on from it. -/
theorem prefix_of_mem_differencesAt {l r : Option Value} (hl : ∀ v, l = some v → v.WellFormed)
    (hr : ∀ v, r = some v → v.WellFormed) {path : Path} {d : Difference}
    (h : d ∈ differencesAt path l r) : path <+: d.path := by
  rcases l with - | l <;> rcases r with - | r <;> rw [differencesAt] at h
  · exact absurd h List.not_mem_nil
  · exact List.mem_singleton.mp h ▸ List.prefix_rfl
  · exact List.mem_singleton.mp h ▸ List.prefix_rfl
  · obtain ⟨rest, hpath, -⟩ := between_of_mem_differences (hl l rfl) (hr r rfl) h
    exact hpath ▸ List.prefix_append path rest

/-! ### Paths that do not overlap -/

/-- Neither of two paths leads on from the other. -/
def Apart (p q : Path) : Prop := ¬p <+: q ∧ ¬q <+: p

/-- Paths that part at a segment are apart. -/
theorem Apart.of_segments {path p q : Path} {s t : Segment Condition} (hst : s ≠ t)
    (hp : path ++ [s] <+: p) (hq : path ++ [t] <+: q) : Apart p q := by
  have hpart : ∀ {s t : Segment Condition} {p q : Path}, s ≠ t →
      path ++ [s] <+: p → path ++ [t] <+: q → ¬p <+: q := by
    intro s t p q hst hp hq hpq
    have hsame : path ++ [s] = path ++ [t] :=
      (List.prefix_of_prefix_length_le (hp.trans hpq) hq (by simp)).eq_of_length (by simp)
    exact hst (List.singleton_inj.mp (List.append_cancel_left hsame))
  exact ⟨hpart hst hp hq, hpart hst.symm hq hp⟩

/-- **The differences between two values do not overlap**, changes of length apart. -/
theorem pairwise_apart_differences {l r : Value} (hl : l.WellFormed) (hr : r.WellFormed)
    (path : Path) :
    ((differences path l r).filter fun d => !d.change.isLength).Pairwise
      fun d e => Apart d.path e.path := by
  induction l using Value.induct_step (φ := Condition) generalizing r path with
  | ih l ih =>
      have hbelow : ∀ s, ∀ d ∈ differencesAt (path ++ [s]) (step l s) (step r s),
          path ++ [s] <+: d.path := fun s d hd =>
        prefix_of_mem_differencesAt (fun v hv => hl.step hv) (fun v hv => hr.step hv) hd
      rw [differences_eq hl hr, List.filter_append, List.filter_flatMap, List.pairwise_append]
      refine ⟨?here, ?below, ?between⟩
      case here =>
        refine List.Pairwise.filter _ ?_
        rcases ownChanges_cases l r with hnone | ⟨c, hone, -⟩
        · rw [hnone]
          exact .nil
        · rw [hone]
          exact List.pairwise_singleton _ _
      case below =>
        rw [List.pairwise_flatMap]
        constructor
        · intro s _
          rcases hls : step l s with - | l' <;> rcases hrs : step r s with - | r' <;>
            rw [differencesAt]
          · exact .nil
          · exact List.pairwise_singleton _ _
          · exact List.pairwise_singleton _ _
          · exact ih s l' hls (hl.step hls) (hr.step hrs) _
        · refine (nodup_comparedSegments hl hr).imp fun hst d hd e he => ?_
          exact .of_segments hst (hbelow _ d (List.mem_of_mem_filter hd))
            (hbelow _ e (List.mem_of_mem_filter he))
      case between =>
        intro d hd e he
        obtain ⟨hd, hlength⟩ := List.mem_filter.mp hd
        obtain ⟨c, hc, rfl⟩ := List.mem_map.mp hd
        rw [(of_mem_ownChanges hc).2 (by simpa using hlength)] at he
        exact absurd he List.not_mem_nil

/-! ### Documents -/

/-- **Every difference between two documents is one between what stands at its path** in the left
one and in the right one, and no path of a difference, changes of length apart, is that of another
or leads on from it. -/
theorem diff_between {l r : Value} (hl : l.WellFormed) (hr : r.WellFormed) :
    (∀ d ∈ diff l r, d.change.Between (locate l d.path) (locate r d.path)) ∧
      ((diff l r).filter fun d => !d.change.isLength).Pairwise
        fun d e => Apart d.path e.path := by
  refine ⟨fun d hd => ?_, pairwise_apart_differences hl hr []⟩
  obtain ⟨rest, hpath, hbetween⟩ := between_of_mem_differences hl hr hd
  rwa [hpath, List.nil_append]

/-- A document with a list and three scalars. -/
def earlierRecord : Value :=
  .object [("list", .array [.int 1, .bool true]), ("note", .string "x"), ("old", .null),
    ("size", .int 2)]

/-- The document with every kind of change: a shorter list, a note of another kind, a member gone,
one changed, and a new one. -/
def laterRecord : Value :=
  .object [("list", .array [.int 1]), ("note", .array []), ("size", .int 3), ("new", .null)]

/-- Differences of all five kinds say what stands at their paths. -/
theorem diff_between_laterRecord :
    (earlierRecord.WellFormed ∧ laterRecord.WellFormed) ∧
      (∀ d ∈ diff earlierRecord laterRecord,
        d.change.Between (locate earlierRecord d.path) (locate laterRecord d.path)) ∧
      ((diff earlierRecord laterRecord).filter fun d => !d.change.isLength).Pairwise
        fun d e => Apart d.path e.path := by
  have hl : earlierRecord.WellFormed := by decide
  have hr : laterRecord.WellFormed := by decide
  exact ⟨⟨hl, hr⟩, diff_between hl hr⟩

end JsonWorkbench
