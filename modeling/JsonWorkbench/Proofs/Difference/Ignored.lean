import JsonWorkbench.Proofs.Difference.Place
import JsonWorkbench.Proofs.PathText.Prefix
import JsonWorkbench.Proofs.Write

/-!
# Ignored Differences

Differences are ignored by the texts of their paths: what begins with one of the given texts is left
out. For the text of a path this is meant to hide what stands at the path and below it, and it does;
but it also hides what stands at the paths that the given one shadows, as `$.a` is the start of
`$.ab`. A difference that is at or below another given path is hidden anyway, so that a shadow does
harm exactly if it falls on a difference that is at or below none.

## Main definitions

* `Path.Shadows` — the text of a path is the start of another one, which is not below it.

## Main results

* `ignoring_diff_iff` — which differences are ignored, and when these are the ones that are meant.
* `not_forall_ignoring_diff` — a difference that is ignored although it is not meant.
-/

namespace JsonWorkbench

/-- The text of a path is the start of the text of another one, which does not lead on from it. -/
abbrev Path.Shadows (p q : Path) : Prop := PathText.Shadows Condition.source p q

/-- The text of a path of names and indices is the start of another one exactly if the other path
leads on from it or is shadowed by it. -/
theorem isPrefixOf_text_iff {p q : Path} (hp : ∀ s ∈ p, s.isLiteral = true)
    (hq : ∀ s ∈ q, s.isLiteral = true) :
    p.text.toList.isPrefixOf q.text.toList = true ↔ p <+: q ∨ p.Shadows q := by
  rw [List.isPrefixOf_iff_prefix, Path.text, Path.text, segmentsText, segmentsText,
    String.toList_ofList, String.toList_ofList, List.prefix_cons_inj,
    PathText.flatMap_segmentText_prefix_iff Condition.source hp hq]

/-- The paths of differences are made of names and indices. -/
theorem isLiteral_of_mem_diff {l r : Value} (hl : l.WellFormed) (hr : r.WellFormed)
    {d : Difference} (h : d ∈ diff l r) : ∀ s ∈ d.path, s.isLiteral = true := by
  obtain ⟨rest, hpath, hbetween⟩ := between_of_mem_differences hl hr h
  obtain ⟨v, hv⟩ := hbetween.exists_value
  rw [hpath, List.nil_append, ← List.all_eq_true]
  exact hv.elim isLiteral_of_locate isLiteral_of_locate

open scoped Classical in
/-- A difference is ignored if its path leads on from one of the given paths or is shadowed by
one. -/
theorem ignoring_diff_eq {l r : Value} (hl : l.WellFormed) (hr : r.WellFormed) {ps : List Path}
    (hps : ∀ p ∈ ps, ∀ s ∈ p, s.isLiteral = true) :
    ignoring (ps.map Path.text) (diff l r) =
      (diff l r).filter fun d => ∀ p ∈ ps, ¬p <+: d.path ∧ ¬p.Shadows d.path := by
  refine List.filter_congr fun d hd => ?_
  have hd := isLiteral_of_mem_diff hl hr hd
  rw [Bool.eq_iff_iff, Bool.not_eq_true', List.any_map, List.any_eq_false, decide_eq_true_iff]
  refine forall₂_congr fun p hp => ?_
  rw [Function.comp_apply, isPrefixOf_text_iff (hps p hp) hd, not_or]

open scoped Classical in
/-- **Ignoring paths hides what stands at them and below them** and what stands at the paths that
they shadow; it hides nothing else than what is meant exactly if no shadow falls on a difference that
is at or below none of the paths. -/
theorem ignoring_diff_iff {l r : Value} (hl : l.WellFormed) (hr : r.WellFormed) {ps : List Path}
    (hps : ∀ p ∈ ps, ∀ s ∈ p, s.isLiteral = true) :
    (ignoring (ps.map Path.text) (diff l r) =
        (diff l r).filter fun d => ∀ p ∈ ps, ¬p <+: d.path ∧ ¬p.Shadows d.path) ∧
      (ignoring (ps.map Path.text) (diff l r) =
          (diff l r).filter (fun d => ∀ p ∈ ps, ¬p <+: d.path) ↔
        ∀ d ∈ diff l r, ∀ p ∈ ps, p.Shadows d.path → ∃ p' ∈ ps, p' <+: d.path) := by
  have hall := ignoring_diff_eq hl hr hps
  refine ⟨hall, ?_⟩
  rw [hall]
  constructor
  · intro h d hd p hp hshadows
    by_contra! hnone
    have hkept : d ∈ (diff l r).filter fun d => ∀ p ∈ ps, ¬p <+: d.path ∧ ¬p.Shadows d.path := by
      rw [h]
      exact List.mem_filter.mpr ⟨hd, decide_eq_true hnone⟩
    exact (of_decide_eq_true (List.mem_filter.mp hkept).2 p hp).2 hshadows
  · intro h
    refine List.filter_congr fun d hd => ?_
    rw [decide_eq_decide]
    refine ⟨fun hnone p hp => (hnone p hp).1, fun hnone p hp => ⟨hnone p hp, fun hshadows => ?_⟩⟩
    obtain ⟨p', hp', hprefix⟩ := h d hd p hp hshadows
    exact hnone p' hp' hprefix

/-- A document with a key that is longer than another one. -/
def nearNames : Value :=
  .object [("a", .object [("t", .int 1)]), ("ab", .int 1), ("list", .array [.null, .int 1])]

/-- The document with all numbers changed. -/
def nearNamesChanged : Value :=
  .object [("a", .object [("t", .int 2)]), ("ab", .int 2), ("list", .array [.null, .int 2])]

/-- The documents are well formed. -/
theorem wellFormed_nearNames : nearNames.WellFormed ∧ nearNamesChanged.WellFormed := by
  decide

/-- There are three differences between them. -/
theorem diff_nearNames :
    diff nearNames nearNamesChanged =
      [{ path := [.key "a", .key "t"], change := .valueChange (.int 1) (.int 2) },
        { path := [.key "ab"], change := .valueChange (.int 1) (.int 2) },
        { path := [.key "list", .index 1], change := .valueChange (.int 1) (.int 2) }] := rfl

open scoped Classical in
/-- A shadow does no harm at a path that is ignored anyway. -/
theorem ignoring_diff_iff_nearNames :
    ((nearNames.WellFormed ∧ nearNamesChanged.WellFormed) ∧
        ∀ p ∈ ([[.key "a"], [.key "ab"]] : List Path), ∀ s ∈ p, s.isLiteral = true) ∧
      ignoring ["$.a", "$.ab"] (diff nearNames nearNamesChanged) =
        (diff nearNames nearNamesChanged).filter fun d =>
          ∀ p ∈ ([[.key "a"], [.key "ab"]] : List Path), ¬p <+: d.path := by
  have hps : ∀ p ∈ ([[.key "a"], [.key "ab"]] : List Path), ∀ s ∈ p, s.isLiteral = true := by
    simp [Segment.isLiteral]
  obtain ⟨hl, hr⟩ := wellFormed_nearNames
  refine ⟨⟨⟨hl, hr⟩, hps⟩, (ignoring_diff_iff hl hr hps).2.mpr fun d hd p hp hshadows => ?_⟩
  have hstart := (isPrefixOf_text_iff (hps p hp) (isLiteral_of_mem_diff hl hr hd)).mpr
    (.inr hshadows)
  rw [diff_nearNames] at hd
  simp only [List.mem_cons, List.not_mem_nil, or_false] at hd hp
  rcases hd with rfl | rfl | rfl
  · exact ⟨[.key "a"], by simp, [.key "t"], rfl⟩
  · exact ⟨[.key "ab"], by simp, [], rfl⟩
  · rcases hp with rfl | rfl <;> exact absurd hstart (by decide)

open scoped Classical in
/-- Ignoring a path hides a difference at a longer name. -/
theorem not_forall_ignoring_diff :
    ¬∀ l r : Value, l.WellFormed → r.WellFormed → ∀ ps : List Path,
      (∀ p ∈ ps, ∀ s ∈ p, s.isLiteral = true) →
        ignoring (ps.map Path.text) (diff l r) =
          (diff l r).filter fun d => ∀ p ∈ ps, ¬p <+: d.path := by
  intro h
  obtain ⟨hl, hr⟩ := wellFormed_nearNames
  have hone := h _ _ hl hr [[.key "a"]] (by simp [Segment.isLiteral])
  have hlength := congrArg List.length hone
  have hignored : (ignoring ["$.a"] (diff nearNames nearNamesChanged)).length = 1 := by decide
  have hmeant : ((diff nearNames nearNamesChanged).filter fun d =>
      ∀ p ∈ ([[.key "a"]] : List Path), ¬p <+: d.path).length = 2 := by
    rw [diff_nearNames]
    simp
  rw [hmeant] at hlength
  exact absurd (hignored.symm.trans hlength) (by decide)

end JsonWorkbench
