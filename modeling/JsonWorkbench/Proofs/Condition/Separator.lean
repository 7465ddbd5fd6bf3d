import JsonWorkbench.Proofs.Text
import Mathlib.Data.List.Infix
import Mathlib.Data.List.TakeWhile

/-!
# Texts between Doubled Separators

The words that join conditions are one character written twice, between blanks. Texts without the
doubled character are read back from the text that joins them, up to blanks at their ends. A single
separator at the end of a text does no harm: the blank behind it keeps it from the joining word.

Blanks at the ends of the whole make no difference to the trimmed pieces either, so that the whole
may be trimmed before it is cut.

## Main results

* `map_trim_splitText_trim` — a text may be trimmed before it is cut.
* `map_trim_splitText_intercalate` — joined texts are read back.
-/

namespace JsonWorkbench.Text

/-! ### Doubled separators -/

section Doubled

variable {c : Char}

/-- A doubled character does not reach across another character. -/
theorem doubled_infix_append_cons {d : Char} (hd : d ≠ c) (u v : List Char) :
    [c, c] <:+: u ++ d :: v ↔ [c, c] <:+: u ∨ [c, c] <:+: v := by
  induction u with
  | nil => simp [List.infix_cons_iff, Ne.symm hd]
  | cons x u ih =>
      have hpre : [c, c] <+: x :: (u ++ d :: v) ↔ [c, c] <+: x :: u := by
        cases u <;> simp [Ne.symm hd]
      rw [List.cons_append, List.infix_cons_iff, List.infix_cons_iff, ih, hpre, or_assoc]

/-- The first piece in front of a doubled character, of which no part belongs to the piece. -/
theorem splitText_append_doubled {d : Char} (hd : d ≠ c) {u : List Char} (hu : ¬[c, c] <:+: u)
    (rest : List Char) :
    splitText [c, c] (u ++ d :: c :: c :: rest) = (u ++ [d]) :: splitText [c, c] rest := by
  induction u with
  | nil =>
      simp only [List.nil_append, splitText, splitTextFrom, List.isPrefixOf_cons_cons,
        List.isPrefixOf_nil_left, beq_self_eq_true, beq_eq_false_iff_ne.mpr (Ne.symm hd),
        Bool.and_true, Bool.false_eq_true, if_false, if_true]
      rfl
  | cons x u ih =>
      rw [List.infix_cons_iff, not_or] at hu
      have hpre : ([c, c].isPrefixOf (x :: (u ++ d :: c :: c :: rest))) = false := by
        rw [Bool.eq_false_iff, ne_eq, List.isPrefixOf_iff_prefix]
        refine fun hpre => hu.1 ?_
        cases u with
        | nil =>
            rw [List.nil_append, List.cons_prefix_cons, List.cons_prefix_cons] at hpre
            exact absurd hpre.2.1.symm hd
        | cons y u =>
            simpa only [List.cons_append, List.cons_prefix_cons, List.nil_prefix] using hpre
      have hrest : splitTextFrom [c, c] 0 (u ++ d :: c :: c :: rest) =
          (u ++ [d]) :: splitText [c, c] rest := ih hu.2
      rw [List.cons_append, splitText, splitTextFrom, hpre, hrest]
      rfl

end Doubled

/-! ### Pieces and the blanks around them -/

section Blanks

variable {pattern : List Char}

/-- A pattern does not reach into characters that it does not have. -/
theorem prefix_of_prefix_append {cs trail : List Char} (hapart : ∀ c ∈ trail, c ∉ pattern)
    (h : pattern <+: cs ++ trail) : pattern <+: cs := by
  obtain ⟨rest, heq⟩ := h
  rcases List.append_eq_append_iff.mp heq with ⟨behind, hcs, -⟩ | ⟨reach, hpattern, htrail⟩
  · exact ⟨behind, hcs.symm⟩
  · cases reach with
    | nil => exact ⟨[], by simpa using hpattern⟩
    | cons c reach => exact absurd (by simp [hpattern]) (hapart c (by simp [htrail]))

/-- There is a piece, and blanks behind the text belong to the last one. -/
theorem exists_splitTextFrom_append (hne : pattern ≠ [])
    (hpattern : ∀ c ∈ pattern, isBlank c = false) {trail : List Char}
    (htrail : ∀ c ∈ trail, isBlank c = true) (skip : Nat) (cs : List Char)
    (hskip : skip ≤ cs.length) :
    ∃ start last, splitTextFrom pattern skip cs = start ++ [last] ∧
      splitTextFrom pattern skip (cs ++ trail) = start ++ [last ++ trail] := by
  have hapart : ∀ c ∈ trail, c ∉ pattern := fun c hc hmem => by
    simpa [hpattern c hmem] using htrail c hc
  fun_induction splitTextFrom pattern skip cs with
  | case1 skip =>
      obtain rfl : skip = 0 := by simpa using hskip
      exact ⟨[], [], rfl, splitText_of_disjoint hne hapart⟩
  | case2 skip c cs ih =>
      obtain ⟨start, last, heq, happend⟩ := ih (by simpa using hskip)
      exact ⟨start, last, heq, by rw [List.cons_append, splitTextFrom, happend]⟩
  | case3 c cs hpre ih =>
      have hstart : pattern <+: c :: cs := List.isPrefixOf_iff_prefix.mp hpre
      have hlength : pattern.length - 1 ≤ cs.length := by
        have := hstart.length_le
        rw [List.length_cons] at this
        omega
      obtain ⟨start, last, heq, happend⟩ := ih hlength
      have hpre' : pattern.isPrefixOf (c :: (cs ++ trail)) = true :=
        List.isPrefixOf_iff_prefix.mpr (hstart.trans (List.prefix_append (c :: cs) trail))
      refine ⟨[] :: start, last, by rw [heq]; rfl, ?_⟩
      rw [List.cons_append, splitTextFrom, hpre', if_pos rfl, happend]
      rfl
  | case4 c cs hpre ih =>
      obtain ⟨start, last, heq, happend⟩ := ih (Nat.zero_le _)
      have hpre' : pattern.isPrefixOf (c :: (cs ++ trail)) = false := by
        rw [List.isPrefixOf_iff_prefix] at hpre
        rw [Bool.eq_false_iff, ne_eq, List.isPrefixOf_iff_prefix, ← List.cons_append]
        exact fun hstart => hpre (prefix_of_prefix_append hapart hstart)
      rw [List.cons_append, splitTextFrom, hpre', happend, heq]
      cases start with
      | nil => exact ⟨[], c :: last, rfl, rfl⟩
      | cons w start => exact ⟨(c :: w) :: start, last, rfl, rfl⟩

/-- Blanks in front of the text make no difference to the trimmed pieces. -/
theorem map_trim_splitText_append (hne : pattern ≠ [])
    (hpattern : ∀ c ∈ pattern, isBlank c = false) {lead : List Char}
    (hlead : ∀ c ∈ lead, isBlank c = true) (cs : List Char) :
    (splitText pattern (lead ++ cs)).map trim = (splitText pattern cs).map trim := by
  induction lead with
  | nil => rfl
  | cons b lead ih =>
      rw [List.forall_mem_cons] at hlead
      have hb : b ∉ pattern := fun hmem => by simpa [hpattern b hmem] using hlead.1
      obtain ⟨start, last, heq, -⟩ :=
        @exists_splitTextFrom_append pattern hne hpattern [] (by simp) 0 (lead ++ cs)
          (Nat.zero_le _)
      have htrim : ∀ w, trim (b :: w) = trim w := @trim_append [b] (by simpa using hlead.1)
      rw [← ih hlead.2, List.cons_append, splitText, splitTextFrom,
        not_isPrefixOf_cons hne hb, splitText, heq]
      cases start <;> simp [consFirst, htrim]

/-- A text may be trimmed before it is cut. -/
theorem map_trim_splitText_trim (hne : pattern ≠ [])
    (hpattern : ∀ c ∈ pattern, isBlank c = false) (cs : List Char) :
    (splitText pattern (trim cs)).map trim = (splitText pattern cs).map trim := by
  obtain ⟨lead, trail, hcs, hlead, htrail⟩ := exists_trim cs
  obtain ⟨start, last, heq, happend⟩ :=
    exists_splitTextFrom_append hne hpattern htrail 0 (trim cs) (Nat.zero_le _)
  conv_rhs => rw [hcs, List.append_assoc, map_trim_splitText_append hne hpattern hlead]
  rw [splitText, splitText, heq, happend, List.map_append, List.map_append]
  simpa using (@trim_append_append [] trail (by simp) htrail last).symm

end Blanks

/-! ### Joined texts -/

section Joined

variable {c : Char} {texts : List (List Char)}

/-- A character that is no blank is not the space. -/
theorem ne_of_isBlank (hblank : isBlank c = false) : ' ' ≠ c := by
  rintro rfl
  exact absurd hblank (by decide)

/-- Texts without a doubled character are joined, by another one, to a text without it. -/
theorem not_doubled_infix_intercalate (hblank : isBlank c = false) {d : Char} (hd : d ≠ c)
    (hfree : ∀ cs ∈ texts, ¬[c, c] <:+: cs) : ¬[c, c] <:+: [' ', d, d, ' '].intercalate texts := by
  have hspace : ' ' ≠ c := ne_of_isBlank hblank
  induction texts with
  | nil => simp [List.intercalate]
  | cons cs texts ih =>
      rw [List.forall_mem_cons] at hfree
      cases texts with
      | nil => rw [List.intercalate_singleton]; exact hfree.1
      | cons next texts =>
          rw [List.intercalate_cons_cons, List.append_assoc]
          simp only [List.cons_append, List.nil_append, doubled_infix_append_cons hspace]
          rw [← List.nil_append (d :: _), doubled_infix_append_cons hd, ← List.nil_append (d :: _),
            doubled_infix_append_cons hd, ← List.nil_append (' ' :: _),
            doubled_infix_append_cons hspace]
          simp [hfree.1, ih hfree.2]

/-- **Joined texts are read back**, up to the blanks at their ends. -/
theorem map_trim_splitText_intercalate (hblank : isBlank c = false) (hne : texts ≠ [])
    (hfree : ∀ cs ∈ texts, ¬[c, c] <:+: cs) :
    (splitText [c, c] (trim ([' ', c, c, ' '].intercalate texts))).map trim = texts.map trim := by
  have hspace : ' ' ≠ c := ne_of_isBlank hblank
  have hpattern : ∀ d ∈ [c, c], isBlank d = false := by simp [hblank]
  rw [map_trim_splitText_trim (by simp) hpattern]
  induction texts with
  | nil => exact absurd rfl hne
  | cons cs texts ih =>
      rw [List.forall_mem_cons] at hfree
      cases texts with
      | nil => rw [List.intercalate_singleton, splitText_eq_singleton hfree.1]
      | cons next texts =>
          have hspaces : ∀ d ∈ [' '], isBlank d = true := List.forall_mem_singleton.mpr rfl
          have hrest := map_trim_splitText_append (by simp) hpattern hspaces
            ([' ', c, c, ' '].intercalate (next :: texts))
          rw [List.singleton_append, ih (by simp) hfree.2] at hrest
          have hfirst : trim (cs ++ [' ']) = trim cs := by
            simpa using @trim_append_append [] [' '] (by simp) hspaces cs
          rw [List.intercalate_cons_cons, List.append_assoc]
          simp only [List.cons_append, List.nil_append]
          rw [splitText_append_doubled hspace hfree.1, List.map_cons, hfirst, hrest]
          rfl

/-- A text that joins two texts or more has the separator. -/
theorem hasText_trim_intercalate (hblank : isBlank c = false) (htwo : 2 ≤ texts.length)
    (hfree : ∀ cs ∈ texts, ¬[c, c] <:+: cs) :
    hasText [c, c] (trim ([' ', c, c, ' '].intercalate texts)) = true := by
  have hne : texts ≠ [] := by
    rintro rfl
    simp at htwo
  by_contra hnone
  have hpieces := congrArg List.length (map_trim_splitText_intercalate hblank hne hfree)
  rw [splitText_eq_singleton (mt hasText_iff.mpr hnone), List.length_map, List.length_map,
    List.length_singleton] at hpieces
  omega

end Joined

end JsonWorkbench.Text
