import JsonWorkbench.Proofs.Difference.Walk
import Mathlib.Data.List.Flatten
import Mathlib.Data.List.Perm.Basic

/-!
# Swapped Documents

The walk treats its two documents differently: the keys of the left object come first, a change of
kind keeps the value of the right document, and equality is asked of the left value. None of this
matters but for the order of the list. Swapped documents are compared at the same segments, and what
has changed at a place is then the same change seen from the other side: something that has been
added is now removed, and what comes before and behind a change are exchanged. A change of kind does
not hold the value that it comes from; seen from the other side it has that of the left document at
its path.

## Main definitions

* `Change.mirror?`, `Difference.mirror?` — a change seen from the other side.

## Main results

* `diff_swap` — the differences of swapped documents are the same seen from the other side.
-/

namespace JsonWorkbench

/-! ### The other side of a change -/

/-- A change seen from the other side, where the left document has the value `left`, if any, at its
place. -/
def Change.mirror? (left : Option Value) : Change → Option Change
  | .added v => some (.removed v)
  | .removed v => some (.added v)
  | .valueChange before after => some (.valueChange after before)
  | .kindChange before after _ => left.map (.kindChange after before)
  | .arrayLength before after => some (.arrayLength after before)

/-- A difference to the document `left` seen from the other side. It stands at the same path. -/
def Difference.mirror? (left : Value) (d : Difference) : Option Difference :=
  (d.change.mirror? (locate left d.path)).map (Difference.mk d.path)

/-! ### At one place -/

/-- The changes at the place of two values, seen from the other side. -/
theorem ownChanges_swap (l r : Value) :
    (ownChanges r l).map some = (ownChanges l r).map (Change.mirror? (some l)) := by
  have hscalar : ∀ v : Value, v.isContainer = false → v.kind = r.kind →
      (ownChanges r v).map some = (ownChanges v r).map (Change.mirror? (some v)) := by
    intro v hv hkind
    have hr : r.isContainer = false := by
      cases r with
      | array _ | object _ => cases v <;> simp [Value.kind, Value.isContainer] at hkind hv
      | null | bool _ | number _ | string _ => rfl
    rw [ownChanges_scalar hr, ownChanges_scalar hv, if_pos hkind, if_pos hkind.symm,
      Value.looseEq_comm_scalar hr]
    split <;> rfl
  by_cases hkind : l.kind = r.kind
  · cases l with
    | null | bool _ | number _ | string _ => exact hscalar _ rfl hkind
    | array ls =>
        obtain ⟨rs, rfl⟩ := Value.exists_array hkind.symm
        by_cases hlen : ls.length = rs.length
        · simp [ownChanges, Value.kind, hlen]
        · simp [ownChanges, Value.kind, hlen, Ne.symm hlen, Change.mirror?]
    | object ls =>
        obtain ⟨rs, rfl⟩ := Value.exists_object hkind.symm
        rfl
  · have hswap : ownChanges r l = [.kindChange r.kind l.kind l] := if_neg (Ne.symm hkind)
    have hkeep : ownChanges l r = [.kindChange l.kind r.kind r] := if_neg hkind
    rw [hswap, hkeep]
    rfl

/-- The keys of one object and those that are new in another one are the keys of both. -/
theorem mem_keys_append_new {ms ns : Members} {k : String} :
    k ∈ ms.map (·.1) ++ (ns.filter fun (k, _) => !Members.has ms k).map (·.1) ↔
      k ∈ ms.map (·.1) ∨ k ∈ ns.map (·.1) := by
  have hnew : k ∈ (ns.filter fun (k, _) => !Members.has ms k).map (·.1) ↔
      k ∈ ns.map (·.1) ∧ k ∉ ms.map (·.1) := by
    have hhas : Keyed.has ms k = true ↔ k ∈ ms.map (·.1) := Keyed.has_iff
    rw [← hhas]
    simp [Members.has]
  rw [List.mem_append, hnew]
  tauto

/-- Two values are compared at the same segments when they are swapped. -/
theorem perm_comparedSegments {l r : Value} (hl : l.WellFormed) (hr : r.WellFormed) :
    (comparedSegments r l).Perm (comparedSegments l r) := by
  rw [List.perm_ext_iff_of_nodup (nodup_comparedSegments hr hl) (nodup_comparedSegments hl hr)]
  intro s
  cases l with
  | array ls => cases r <;> simp [comparedSegments, Nat.max_comm]
  | object ls =>
      cases r with
      | object rs =>
          rw [comparedSegments, comparedSegments, List.mem_map, List.mem_map]
          simp only [mem_keys_append_new, or_comm]
      | null | bool _ | number _ | string _ | array _ => rfl
  | null | bool _ | number _ | string _ => cases r <;> rfl

/-! ### The walk -/

/-- **Two values compared the other way round**, at a path at which the document `left` has the
first of them. -/
theorem differences_swap {left l r : Value} (hl : l.WellFormed) (hr : r.WellFormed) {path : Path}
    (hpath : locate left path = some l) :
    ((differences path r l).map some).Perm
      ((differences path l r).map (Difference.mirror? left)) := by
  induction l using Value.induct_step (φ := Condition) generalizing r path with
  | ih l ih =>
      rw [differences_eq hl hr, differences_eq hr hl, List.map_append, List.map_append,
        List.map_flatMap, List.map_flatMap]
      refine List.Perm.append ?here ?below
      case here =>
        have hmirror : ∀ c, (Difference.mk path c).mirror? left =
            (c.mirror? (some l)).map (Difference.mk path) := fun c => by
          rw [Difference.mirror?, hpath]
        have hswap := congrArg (List.map (Option.map (Difference.mk path))) (ownChanges_swap l r)
        simp only [List.map_map] at hswap ⊢
        exact .of_eq (hswap.trans (List.map_congr_left fun c _ => (hmirror c).symm))
      case below =>
        refine (perm_comparedSegments hl hr).flatMap fun s _ => ?_
        have hstep : locate left (path ++ [s]) = step l s := by
          rw [locate_append, hpath]
          exact Option.bind_fun_some (step l s)
        rcases hls : step l s with - | l' <;> rcases hrs : step r s with - | r'
        · exact .nil
        · exact .refl _
        · exact .refl _
        · exact ih s l' hls (hl.step hls) (hr.step hrs) (hstep.trans hls)

/-! ### Documents -/

/-- **The differences of swapped documents are, up to their order, the same seen from the other
side**: at the same paths, additions are removals, both ends of a change are exchanged, and a change
of kind leads to the value that the left document has at its path. -/
theorem diff_swap {a b : Value} (ha : a.WellFormed) (hb : b.WellFormed) :
    ((diff b a).map some).Perm ((diff a b).map (Difference.mirror? a)) :=
  differences_swap ha hb rfl

/-- A document with a list, a member of its own, and a member that is a text. -/
def plainOrder : Value :=
  .object [("list", .array [.int 1, .bool true, .int 3]), ("old", .null), ("kind", .string "x"),
    ("size", .int 2)]

/-- The document with a shorter list, an object for the text, and other members. -/
def revisedOrder : Value :=
  .object [("new", .bool true), ("size", .int 4), ("kind", .object [("name", .string "x")]),
    ("list", .array [.int 1, .null])]

/-- Changes of all five kinds are seen from both sides. -/
theorem diff_swap_revisedOrder :
    (plainOrder.WellFormed ∧ revisedOrder.WellFormed) ∧
      ((diff revisedOrder plainOrder).map some).Perm
        ((diff plainOrder revisedOrder).map (Difference.mirror? plainOrder)) := by
  have ha : plainOrder.WellFormed := by decide
  have hb : revisedOrder.WellFormed := by decide
  exact ⟨⟨ha, hb⟩, diff_swap ha hb⟩

end JsonWorkbench
