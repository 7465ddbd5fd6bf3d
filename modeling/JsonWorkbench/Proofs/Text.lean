import JsonWorkbench.Path.Basic
import Mathlib.Data.List.Basic
import Mathlib.Data.List.Induction
import Mathlib.Data.List.Infix
import Mathlib.Data.List.TakeDrop
import Mathlib.Data.List.TakeWhile

/-!
# The Laws of Cutting Texts

What the searches in texts answer on a text that has been put together from parts: a part without
a separator is one piece, and a part followed by a separator is the first of the pieces. The
separator may be a class of characters or a text; a part is free of a text as soon as it has no
character of it, so that no occurrence can begin in the part.

Natural numbers stand in keys and in pointers by their digits; reading the digits gives the number
back, below the bound of indices.

## Main results

* `Text.span_append`, `Text.span_eq_iff` — the run at the start of a text.
* `Text.exists_dropEndWhile` — what is left of a text without the characters of a class at its end.
* `Text.trim_append_append`, `Text.trim_trim` — blanks at the ends of a text.
* `Text.hasText_iff` — a text is found exactly where it occurs.
* `Text.pieces_append_cons`, `Text.splitText_append` — the first piece of a text.
* `Text.replaceText_singleton` — a replacement of one character goes character by character.
* `readIndex?_digitsOf` — an index is read back from its digits.
-/

namespace JsonWorkbench

namespace Text

/-! ### Runs of characters -/

/-- A text ends, or begins with a character that is not of a class. -/
def Stops (p : Char → Bool) (cs : List Char) : Prop := ∀ c, cs.head? = some c → p c = false

/-- An empty text ends. -/
theorem stops_nil (p : Char → Bool) : Stops p [] := by
  intro c hc
  simp at hc

/-- A text begins with a character that is not of a class. -/
theorem stops_cons {p : Char → Bool} {c : Char} {cs : List Char} :
    Stops p (c :: cs) ↔ p c = false := by
  simp [Stops]

/-- Every text is a run of characters of a class and a rest that stops it. -/
theorem exists_run (p : Char → Bool) (cs : List Char) :
    ∃ run rest, cs = run ++ rest ∧ (∀ c ∈ run, p c = true) ∧ Stops p rest := by
  induction cs with
  | nil => exact ⟨[], [], rfl, by simp, stops_nil p⟩
  | cons c cs ih =>
      cases hc : p c with
      | false => exact ⟨[], c :: cs, rfl, by simp, stops_cons.mpr hc⟩
      | true =>
          obtain ⟨run, rest, rfl, hrun, hrest⟩ := ih
          exact ⟨c :: run, rest, rfl, List.forall_mem_cons.mpr ⟨hc, hrun⟩, hrest⟩

/-- A text that begins with a character of a class begins with a run of such characters. -/
theorem exists_run_of_head {p : Char → Bool} {c : Char} (hc : p c = true) (cs : List Char) :
    ∃ run rest, c :: cs = run ++ rest ∧ (∀ x ∈ run, p x = true) ∧ Stops p rest ∧ run ≠ [] := by
  obtain ⟨run, rest, rfl, hrun, hrest⟩ := exists_run p cs
  exact ⟨c :: run, rest, rfl, List.forall_mem_cons.mpr ⟨hc, hrun⟩, hrest, by simp⟩

/-- A run of characters of a class ends where the text stops. -/
theorem span_append {p : Char → Bool} {run rest : List Char} (hrun : ∀ c ∈ run, p c = true)
    (hrest : Stops p rest) : (run ++ rest).span p = (run, rest) := by
  have hnone : rest.takeWhile p = [] ∧ rest.dropWhile p = rest := by
    rcases rest with - | ⟨c, rest⟩
    · exact ⟨rfl, rfl⟩
    · rw [stops_cons] at hrest
      simp [hrest]
  rw [List.span_eq_takeWhile_dropWhile, List.takeWhile_append_of_pos hrun,
    List.dropWhile_append_of_pos hrun, hnone.1, hnone.2, List.append_nil]

/-- A text is cut at the end of a run exactly where the run is one and the rest stops it. -/
theorem span_eq_iff {p : Char → Bool} {cs run rest : List Char} :
    cs.span p = (run, rest) ↔ cs = run ++ rest ∧ (∀ c ∈ run, p c = true) ∧ Stops p rest := by
  constructor
  · intro h
    obtain ⟨run', rest', rfl, hrun, hrest⟩ := exists_run p cs
    rw [span_append hrun hrest, Prod.mk.injEq] at h
    obtain ⟨rfl, rfl⟩ := h
    exact ⟨rfl, hrun, hrest⟩
  · rintro ⟨rfl, hrun, hrest⟩
    exact span_append hrun hrest

/-- Two texts are cut alike at the first place of a character. -/
theorem append_cons_inj {u v s t : List Char} {c : Char} (hu : c ∉ u) (hv : c ∉ v)
    (h : u ++ c :: s = v ++ c :: t) : u = v ∧ s = t := by
  have hspan : ∀ {w : List Char} (rest : List Char), c ∉ w →
      (w ++ c :: rest).span (· != c) = (w, c :: rest) := fun rest hw =>
    span_append (fun d hd => bne_iff_ne.mpr fun heq => hw (heq ▸ hd)) (stops_cons.mpr (by simp))
  have hcut := hspan s hu
  rw [h, hspan t hv, Prod.mk.injEq, List.cons.injEq] at hcut
  exact ⟨hcut.1.symm, hcut.2.2.symm⟩

/-! ### Ends of texts -/

variable {α : Type} {p : α → Bool}

/-- Nothing is left of a text whose characters all go. -/
theorem dropEndWhile_of_forall {cs : List α} (h : ∀ c ∈ cs, p c = true) :
    dropEndWhile p cs = [] := by
  induction cs with
  | nil => rfl
  | cons c cs ih =>
      rw [List.forall_mem_cons] at h
      simp [dropEndWhile, ih h.2, h.1]

/-- If something is left of the end of a text, all before it is left. -/
theorem dropEndWhile_append_of_ne_nil {ds : List α} (h : dropEndWhile p ds ≠ []) (cs : List α) :
    dropEndWhile p (cs ++ ds) = cs ++ dropEndWhile p ds := by
  induction cs with
  | nil => rfl
  | cons c cs ih =>
      have hne : cs ++ dropEndWhile p ds ≠ [] := by simp [h]
      obtain ⟨d, rest, heq⟩ := List.exists_cons_of_ne_nil hne
      rw [List.cons_append, dropEndWhile, ih, List.cons_append, heq]

/-- A character that stays is left, whatever is behind it. -/
theorem dropEndWhile_cons {c : α} (h : p c = false) (cs : List α) :
    dropEndWhile p (c :: cs) = c :: dropEndWhile p cs := by
  rw [dropEndWhile]
  split
  · next hnil => simp [h, hnil]
  · rfl

/-- A text ends where its last character stays. -/
theorem dropEndWhile_concat {c : α} (h : p c = false) (cs : List α) :
    dropEndWhile p (cs ++ [c]) = cs ++ [c] := by
  have hone : dropEndWhile p [c] = [c] := by simp [dropEndWhile, h]
  rw [dropEndWhile_append_of_ne_nil (by simp [hone]), hone]

/-- Characters at the end that all go make no difference. -/
theorem dropEndWhile_append_of_forall {ds : List α} (h : ∀ d ∈ ds, p d = true) (cs : List α) :
    dropEndWhile p (cs ++ ds) = dropEndWhile p cs := by
  induction cs with
  | nil => exact dropEndWhile_of_forall h
  | cons c cs ih => rw [List.cons_append, dropEndWhile, ih, dropEndWhile]

/-- A text is what is left of it and characters that go; what is left ends in one that stays. -/
theorem exists_dropEndWhile (p : α → Bool) (cs : List α) :
    ∃ ds, cs = dropEndWhile p cs ++ ds ∧ (∀ d ∈ ds, p d = true) ∧
      (dropEndWhile p cs = [] ∨ ∃ start c, dropEndWhile p cs = start ++ [c] ∧ p c = false) := by
  induction cs using List.reverseRecOn with
  | nil => exact ⟨[], rfl, by simp, .inl rfl⟩
  | append_singleton cs c ih =>
      cases hc : p c with
      | false =>
          refine ⟨[], ?_, by simp, .inr ⟨cs, c, dropEndWhile_concat hc cs, hc⟩⟩
          rw [dropEndWhile_concat hc, List.append_nil]
      | true =>
          obtain ⟨ds, heq, hds, hlast⟩ := ih
          rw [dropEndWhile_append_of_forall (by simp [hc])]
          refine ⟨ds ++ [c], ?_, ?_, hlast⟩
          · rw [← List.append_assoc, ← heq]
          · intro d hd
            rcases List.mem_append.mp hd with hd | hd
            · exact hds d hd
            · rw [List.mem_singleton.mp hd, hc]

/-- Nothing goes from the end of a text that has no character of the class. -/
theorem dropEndWhile_of_forall_not {cs : List α} (h : ∀ c ∈ cs, p c = false) :
    dropEndWhile p cs = cs := by
  induction cs using List.reverseRecOn with
  | nil => rfl
  | append_singleton cs c _ => exact dropEndWhile_concat (h c (by simp)) cs

/-! ### Trimming -/

/-- Blanks at the start of a text go. -/
theorem trimStart_append {gap rest : List Char} (hgap : ∀ c ∈ gap, isBlank c = true)
    (hrest : Stops isBlank rest) : trimStart (gap ++ rest) = rest := by
  have hspan := span_append hgap hrest
  rw [List.span_eq_takeWhile_dropWhile, Prod.mk.injEq] at hspan
  exact hspan.2

/-- What is left behind the blanks at the start of a text begins with a character that is none. -/
theorem trimStart_eq_cons_iff {cs rest : List Char} {c : Char} :
    trimStart cs = c :: rest ↔
      isBlank c = false ∧ ∃ gap, (∀ d ∈ gap, isBlank d = true) ∧ cs = gap ++ c :: rest := by
  constructor
  · intro h
    obtain ⟨gap, behind, rfl, hgap, hbehind⟩ := exists_run isBlank cs
    rw [trimStart_append hgap hbehind] at h
    subst h
    exact ⟨stops_cons.mp hbehind, gap, hgap, rfl⟩
  · rintro ⟨hc, gap, hgap, rfl⟩
    exact trimStart_append hgap (stops_cons.mpr hc)

/-- A text without blanks is not trimmed. -/
theorem trim_of_forall_not {cs : List Char} (h : ∀ c ∈ cs, isBlank c = false) : trim cs = cs := by
  have hstops : Stops isBlank cs := fun c hc => h c (List.mem_of_head? hc)
  rw [trim, ← List.nil_append cs, trimStart_append (by simp) hstops, trimEnd,
    dropEndWhile_of_forall_not h]
  rfl

/-- Every text is its trimmed form between blanks. -/
theorem exists_trim (cs : List Char) :
    ∃ lead trail, cs = lead ++ trim cs ++ trail ∧ (∀ c ∈ lead, isBlank c = true) ∧
      ∀ c ∈ trail, isBlank c = true := by
  obtain ⟨lead, rest, rfl, hlead, hrest⟩ := exists_run isBlank cs
  obtain ⟨trail, heq, htrail, -⟩ := exists_dropEndWhile isBlank rest
  refine ⟨lead, trail, ?_, hlead, htrail⟩
  rw [trim, trimStart_append hlead hrest, List.append_assoc, trimEnd, ← heq]

/-- A trimmed text occurs in the text. -/
theorem trim_isInfix (cs : List Char) : trim cs <:+: cs := by
  obtain ⟨lead, trail, heq, -, -⟩ := exists_trim cs
  exact ⟨lead, trail, heq.symm⟩

/-- Blanks at the ends of a text go. -/
theorem trim_append_append {lead trail : List Char} (hlead : ∀ c ∈ lead, isBlank c = true)
    (htrail : ∀ c ∈ trail, isBlank c = true) (cs : List Char) :
    trim (lead ++ cs ++ trail) = trim cs := by
  have hnone : trail.dropWhile isBlank = [] := List.dropWhile_eq_nil_iff.mpr htrail
  rw [trim, trim, trimStart, trimStart, List.append_assoc, List.dropWhile_append_of_pos hlead,
    List.dropWhile_append, hnone]
  split
  · next hempty => rw [List.isEmpty_iff.mp hempty]
  · exact dropEndWhile_append_of_forall htrail _

/-- Blanks at the start of a text go. -/
theorem trim_append {lead : List Char} (hlead : ∀ c ∈ lead, isBlank c = true) (cs : List Char) :
    trim (lead ++ cs) = trim cs := by
  simpa using @trim_append_append lead [] hlead (by simp) cs

/-- A text is not trimmed that neither begins nor ends with a blank. -/
theorem trim_cons_concat {c d : Char} (hc : isBlank c = false) (hd : isBlank d = false)
    (cs : List Char) : trim (c :: (cs ++ [d])) = c :: (cs ++ [d]) := by
  have hstart : trimStart (c :: (cs ++ [d])) = c :: (cs ++ [d]) :=
    @trimStart_append [] _ (by simp) (stops_cons.mpr hc)
  rw [trim, hstart, trimEnd, ← List.cons_append, dropEndWhile_concat hd]

/-- A trimmed text stays as it is. -/
theorem trim_trim (cs : List Char) : trim (trim cs) = trim cs := by
  obtain ⟨lead, trail, heq, hlead, htrail⟩ := exists_trim cs
  rw [← trim_append_append hlead htrail (trim cs), ← heq]

/-! ### Texts with a character between them -/

/-- Texts with a character between them are the first and, each behind the character, the others. -/
theorem flatten_intersperse (c : Char) (cs : List Char) (others : List (List Char)) :
    ((cs :: others).intersperse [c]).flatten = cs ++ others.flatMap (c :: ·) := by
  induction others generalizing cs with
  | nil => simp
  | cons next others ih =>
      rw [List.intersperse_cons_cons, List.flatten_cons, List.flatten_cons, ih]
      rfl

/-- What stands behind a given start of a text. -/
theorem afterStart?_append (start rest : List Char) :
    afterStart? start (start ++ rest) = some rest := by
  simp [afterStart?]

/-! ### Pieces between characters -/

/-- A text without a separator is one piece. -/
theorem pieces_of_forall_not {p : Char → Bool} {cs : List Char} (h : ∀ c ∈ cs, p c = false) :
    pieces p cs = [cs] := by
  induction cs with
  | nil => rfl
  | cons c cs ih =>
      rw [List.forall_mem_cons] at h
      simp only [pieces, h.1, ih h.2, consFirst, Bool.false_eq_true, if_false]

/-- What stands before the first separator is the first piece. -/
theorem pieces_append_cons {p : Char → Bool} {cs : List Char} (h : ∀ c ∈ cs, p c = false)
    {c : Char} (hc : p c = true) (rest : List Char) :
    pieces p (cs ++ c :: rest) = cs :: pieces p rest := by
  induction cs with
  | nil => simp only [List.nil_append, pieces, hc, if_true]
  | cons d cs ih =>
      rw [List.forall_mem_cons] at h
      simp only [List.cons_append, pieces, h.1, ih h.2, consFirst, Bool.false_eq_true, if_false]

/-- There is a piece. -/
theorem pieces_ne_nil (p : Char → Bool) (cs : List Char) : pieces p cs ≠ [] := by
  cases cs with
  | nil => exact List.cons_ne_nil _ _
  | cons c cs =>
      rw [pieces]
      split
      · exact List.cons_ne_nil _ _
      · unfold consFirst
        split <;> exact List.cons_ne_nil _ _

/-- No separator stands in a piece. -/
theorem forall_pieces {p : Char → Bool} {cs w : List Char} (h : w ∈ pieces p cs) :
    ∀ c ∈ w, p c = false := by
  induction cs generalizing w with
  | nil => simp [List.mem_singleton.mp h]
  | cons d cs ih =>
      obtain ⟨first, others, hpieces⟩ := List.exists_cons_of_ne_nil (pieces_ne_nil p cs)
      rw [pieces, hpieces] at h
      rw [hpieces] at ih
      cases hd : p d with
      | true =>
          rw [hd, if_pos rfl] at h
          rcases List.mem_cons.mp h with rfl | h
          · simp
          · exact ih h
      | false =>
          rw [hd, if_neg Bool.false_ne_true, consFirst] at h
          rcases List.mem_cons.mp h with rfl | h
          · exact List.forall_mem_cons.mpr ⟨hd, ih (List.mem_cons_self ..)⟩
          · exact ih (List.mem_cons_of_mem _ h)

/-- Behind a separator at the end there is an empty piece. -/
theorem pieces_concat {p : Char → Bool} {c : Char} (hc : p c = true) (cs : List Char) :
    pieces p (cs ++ [c]) = pieces p cs ++ [[]] := by
  induction cs with
  | nil => simp only [List.nil_append, pieces, hc, if_true, List.cons_append]
  | cons d cs ih =>
      obtain ⟨w, ws, hpieces⟩ := List.exists_cons_of_ne_nil (pieces_ne_nil p cs)
      rw [List.cons_append, pieces, pieces, ih, hpieces]
      split <;> rfl

/-! ### Pieces between occurrences of a text -/

/-- A text is found exactly where it occurs. -/
theorem hasText_iff {pattern cs : List Char} : hasText pattern cs = true ↔ pattern <:+: cs := by
  induction cs with
  | nil => simp [hasText, cutAt]
  | cons c cs ih =>
      rw [List.infix_cons_iff, ← List.isPrefixOf_iff_prefix, ← ih, hasText, cutAt]
      by_cases hpre : pattern.isPrefixOf (c :: cs) = true
      · simp [hpre]
      · simp [hpre, hasText]

/-- A text has a first piece. -/
theorem splitText_ne_nil (pattern cs : List Char) : splitText pattern cs ≠ [] := by
  have hfrom : ∀ skip, splitTextFrom pattern skip cs ≠ [] := by
    intro skip
    fun_induction splitTextFrom pattern skip cs with
    | case1 | case3 => exact List.cons_ne_nil _ _
    | case2 _ _ _ ih => exact ih
    | case4 c cs =>
        unfold consFirst
        split <;> exact List.cons_ne_nil _ _
  exact hfrom 0

/-- A text in which the pattern does not occur is one piece. -/
theorem splitText_eq_singleton {pattern cs : List Char} (h : ¬pattern <:+: cs) :
    splitText pattern cs = [cs] := by
  induction cs with
  | nil => rfl
  | cons c cs ih =>
      rw [List.infix_cons_iff, not_or, ← List.isPrefixOf_iff_prefix, Bool.not_eq_true] at h
      have hrest : splitTextFrom pattern 0 cs = [cs] := ih h.2
      rw [splitText, splitTextFrom, h.1, hrest]
      rfl

/-- No occurrence of a pattern begins with a character that the pattern does not have. -/
theorem not_isPrefixOf_cons {pattern : List Char} (hp : pattern ≠ []) {c : Char}
    (hc : c ∉ pattern) (cs : List Char) : pattern.isPrefixOf (c :: cs) = false := by
  cases pattern with
  | nil => exact absurd rfl hp
  | cons p pattern =>
      have hne : (p == c) = false := by
        rw [beq_eq_false_iff_ne]
        rintro rfl
        exact hc (List.mem_cons_self ..)
      rw [List.isPrefixOf_cons_cons, hne, Bool.false_and]

/-- Characters that are still to be skipped say nothing. -/
theorem splitTextFrom_append (pattern skipped rest : List Char) :
    splitTextFrom pattern skipped.length (skipped ++ rest) = splitTextFrom pattern 0 rest := by
  induction skipped with
  | nil => rfl
  | cons c skipped ih => rw [List.length_cons, List.cons_append, splitTextFrom, ih]

/-- A pattern ends a text that it stands behind: it does not occur earlier, not even with characters
of the text and of itself. -/
def Delimits (pattern cs : List Char) : Prop :=
  ∀ before behind, cs ++ pattern = before ++ (pattern ++ behind) → behind = []

/-- A pattern ends a text exactly if it does not occur at a character of the text. -/
theorem delimits_iff {pattern cs : List Char} :
    Delimits pattern cs ↔ ∀ n < cs.length, ¬pattern <+: (cs ++ pattern).drop n := by
  constructor
  · rintro h n hn ⟨behind, hbehind⟩
    have heq : cs ++ pattern = (cs ++ pattern).take n ++ (pattern ++ behind) := by
      rw [hbehind, List.take_append_drop]
    obtain rfl := h _ _ heq
    have hlength := congrArg List.length hbehind
    simp only [List.append_nil, List.length_drop, List.length_append] at hlength
    omega
  · intro h before behind heq
    have hlength := congrArg List.length heq
    simp only [List.length_append] at hlength
    by_contra hne
    have hpos := List.length_pos_iff.mpr hne
    refine h before.length (by omega) ⟨behind, ?_⟩
    rw [heq, List.drop_left]

instance (pattern cs : List Char) : Decidable (Delimits pattern cs) :=
  decidable_of_iff _ delimits_iff.symm

/-- A pattern that ends a text ends it without its first character as well. -/
theorem Delimits.tail {pattern cs : List Char} {c : Char} (h : Delimits pattern (c :: cs)) :
    Delimits pattern cs := fun before behind heq =>
  h (c :: before) behind (by rw [List.cons_append, heq, List.cons_append])

/-- A pattern does not occur at the start of a text that it ends. -/
theorem Delimits.isPrefixOf_eq_false {pattern cs : List Char} {c : Char}
    (h : Delimits pattern (c :: cs)) (rest : List Char) :
    pattern.isPrefixOf (c :: (cs ++ (pattern ++ rest))) = false := by
  rw [← Bool.not_eq_true, List.isPrefixOf_iff_prefix]
  intro hprefix
  have hfirst : pattern <+: c :: cs ++ pattern := by
    refine List.prefix_of_prefix_length_le hprefix ⟨rest, ?_⟩ ?_
    · rw [List.cons_append, List.cons_append, List.append_assoc]
    · rw [List.length_append]
      omega
  obtain ⟨behind, hbehind⟩ := hfirst
  obtain rfl := h [] behind hbehind.symm
  have hlength := congrArg List.length hbehind
  simp only [List.append_nil, List.length_append, List.length_cons] at hlength
  omega

/-- A pattern does not occur in a text that it ends. -/
theorem Delimits.not_infix {pattern cs : List Char} (hp : pattern ≠ [])
    (h : Delimits pattern cs) : ¬pattern <:+: cs := by
  rintro ⟨before, behind, rfl⟩
  have hnil := h before (behind ++ pattern) (by simp only [List.append_assoc])
  exact hp (List.append_eq_nil_iff.mp hnil).2

/-- A pattern ends a text exactly if it does not occur in the text and all but the last of its own
characters. -/
theorem delimits_concat_iff {start cs : List Char} {last : Char} :
    Delimits (start ++ [last]) cs ↔ ¬ (start ++ [last]) <:+: cs ++ start := by
  constructor
  · rintro h ⟨before, behind, heq⟩
    have hnil := h before (behind ++ [last]) (by
      rw [← List.append_assoc, ← heq]
      simp only [List.append_assoc])
    exact absurd hnil (by simp)
  · intro h before behind heq
    rcases List.eq_nil_or_concat behind with rfl | ⟨behind, c, rfl⟩
    · rfl
    · refine absurd ⟨before, behind, ?_⟩ h
      have hlast := congrArg List.dropLast heq
      rw [← List.append_assoc, List.dropLast_concat, List.concat_eq_append, ← List.append_assoc,
        ← List.append_assoc, List.dropLast_concat] at hlast
      rw [hlast]

/-- A pattern does not end in characters behind a text among which its last one is not. -/
theorem infix_append_iff {start cs more : List Char} {last : Char} (hlast : last ∉ more) :
    (start ++ [last]) <:+: cs ++ more ↔ (start ++ [last]) <:+: cs := by
  refine ⟨?_, fun h => h.trans (List.prefix_append cs more).isInfix⟩
  rintro ⟨before, behind, heq⟩
  rcases List.append_eq_append_iff.mp heq with ⟨rest, hcs, -⟩ | ⟨rest, hpattern, hmore⟩
  · exact ⟨before, rest, hcs.symm⟩
  · rcases List.eq_nil_or_concat rest with rfl | ⟨rest, c, rfl⟩
    · exact ⟨before, [], by simpa using hpattern⟩
    · have hc := congrArg List.getLast? hpattern
      rw [← List.append_assoc, List.getLast?_concat, List.concat_eq_append, ← List.append_assoc,
        List.getLast?_concat, Option.some.injEq] at hc
      exact absurd (by simp [hmore, hc]) hlast

/-- A text is cut at a pattern exactly where the pattern ends what stands before it. -/
theorem cutAt_eq_some_iff {pattern : List Char} (hp : pattern ≠ []) {cs before behind : List Char} :
    cutAt pattern cs = some (before, behind) ↔
      cs = before ++ (pattern ++ behind) ∧ Delimits pattern before := by
  constructor
  · intro h
    induction cs generalizing before with
    | nil => simp [cutAt, hp] at h
    | cons c cs ih =>
        rw [cutAt] at h
        split at h
        · next hpre =>
            obtain ⟨rest, hrest⟩ := List.isPrefixOf_iff_prefix.mp hpre
            rw [← hrest, List.drop_left, Option.some.injEq, Prod.mk.injEq] at h
            obtain ⟨rfl, rfl⟩ := h
            refine ⟨hrest.symm, delimits_iff.mpr fun n hn => ?_⟩
            exact absurd hn (Nat.not_lt_zero n)
        · next hpre =>
            obtain ⟨⟨front, back⟩, hcut, heq⟩ := Option.map_eq_some_iff.mp h
            obtain ⟨rfl, rfl⟩ := Prod.mk.inj heq
            obtain ⟨rfl, hends⟩ := ih hcut
            refine ⟨rfl, fun start rest heq => ?_⟩
            rw [List.cons_append] at heq
            rcases List.cons_eq_append_iff.mp heq with ⟨-, hstart⟩ | ⟨start, rfl, hstart⟩
            · refine absurd (List.isPrefixOf_iff_prefix.mpr ⟨rest ++ back, ?_⟩) hpre
              rw [← List.append_assoc, hstart, List.cons_append, List.append_assoc]
            · exact hends start rest hstart
  · rintro ⟨rfl, hends⟩
    induction before with
    | nil =>
        obtain ⟨p, ps, rfl⟩ := List.exists_cons_of_ne_nil hp
        have hpre : (p :: ps).isPrefixOf (p :: (ps ++ behind)) = true :=
          List.isPrefixOf_iff_prefix.mpr ⟨behind, rfl⟩
        rw [List.nil_append, List.cons_append, cutAt, if_pos hpre, ← List.cons_append,
          List.drop_left]
    | cons c before ih =>
        rw [List.cons_append, cutAt, hends.isPrefixOf_eq_false, ih hends.tail]
        rfl

/-- What stands before the first occurrence is the first piece. -/
theorem splitText_append {pattern : List Char} (hp : pattern ≠ []) {cs : List Char}
    (h : Delimits pattern cs) (rest : List Char) :
    splitText pattern (cs ++ (pattern ++ rest)) = cs :: splitText pattern rest := by
  induction cs with
  | nil =>
      obtain ⟨p, ps, rfl⟩ := List.exists_cons_of_ne_nil hp
      have hpre : (p :: ps).isPrefixOf (p :: (ps ++ rest)) = true :=
        List.isPrefixOf_iff_prefix.mpr ⟨rest, rfl⟩
      have hskip := splitTextFrom_append (p :: ps) ps rest
      rw [List.nil_append, List.cons_append, splitText, splitTextFrom, hpre, if_pos rfl,
        List.length_cons, Nat.add_sub_cancel, hskip]
      rfl
  | cons c cs ih =>
      have hrest : splitTextFrom pattern 0 (cs ++ (pattern ++ rest)) =
          cs :: splitText pattern rest := ih h.tail
      rw [List.cons_append, splitText, splitTextFrom, h.isPrefixOf_eq_false, hrest]
      rfl

section Disjoint

variable {pattern cs : List Char}

/-- A pattern does not occur in a text that shares no character with it. -/
theorem not_infix_of_disjoint (hp : pattern ≠ []) (h : ∀ c ∈ cs, c ∉ pattern) :
    ¬pattern <:+: cs := by
  obtain ⟨p, ps, rfl⟩ := List.exists_cons_of_ne_nil hp
  exact fun hoccurs => h p (hoccurs.subset (List.mem_cons_self ..)) (List.mem_cons_self ..)

/-- A text that shares no character with the pattern is one piece. -/
theorem splitText_of_disjoint (hp : pattern ≠ []) (h : ∀ c ∈ cs, c ∉ pattern) :
    splitText pattern cs = [cs] :=
  splitText_eq_singleton (not_infix_of_disjoint hp h)

/-- A pattern ends a text that shares no character with it. -/
theorem delimits_of_disjoint (hp : pattern ≠ []) (h : ∀ c ∈ cs, c ∉ pattern) :
    Delimits pattern cs := by
  intro before behind heq
  obtain ⟨p, ps, rfl⟩ := List.exists_cons_of_ne_nil hp
  rcases List.append_eq_append_iff.mp heq with ⟨as, -, has⟩ | ⟨bs, rfl, hbs⟩
  · have hlength := congrArg List.length has
    rw [List.length_append, List.length_append] at hlength
    exact List.eq_nil_of_length_eq_zero (by omega)
  · rcases bs with - | ⟨b, bs⟩
    · exact List.append_right_eq_self.mp hbs
    · obtain rfl : p = b := (List.cons.inj hbs).1
      exact absurd (List.mem_cons_self ..) (h p (by simp))

end Disjoint

/-! ### Occurrences in parts of a text -/

section Parts

variable {α : Type} {pattern u v : List α} {c : α}

/-- A pattern at the start of a text does not reach up to a character that it does not have. -/
theorem prefix_append_cons (hc : c ∉ pattern) (h : pattern <+: u ++ c :: v) : pattern <+: u := by
  rcases List.prefix_or_prefix_of_prefix h (List.prefix_append u _) with hle | ⟨reach, rfl⟩
  · exact hle
  · rw [List.prefix_append_right_inj] at h
    cases reach with
    | nil => rw [List.append_nil]
    | cons d reach =>
        obtain ⟨rfl, -⟩ := List.cons_prefix_cons.mp h
        exact absurd (by simp) hc

/-- A pattern does not occur across a character that it does not have. -/
theorem infix_append_cons (hc : c ∉ pattern) (h : pattern <:+: u ++ c :: v) :
    pattern <:+: u ∨ pattern <:+: v := by
  induction u with
  | nil =>
      rcases List.infix_cons_iff.mp h with hpre | hin
      · exact .inl (prefix_append_cons hc hpre).isInfix
      · exact .inr hin
  | cons d u ih =>
      rcases List.infix_cons_iff.mp h with hpre | hin
      · exact .inl (prefix_append_cons (u := d :: u) hc hpre).isInfix
      · exact (ih hin).imp_left fun hu => List.infix_cons_iff.mpr (.inr hu)

end Parts

section Ends

variable {pattern cs : List Char}

/-- A pattern occurs in a text between characters that it does not have only if it occurs in the
text itself. -/
theorem infix_of_infix_append_append {lead trail : List Char} (hp : pattern ≠ [])
    (hlead : ∀ c ∈ lead, c ∉ pattern) (htrail : ∀ c ∈ trail, c ∉ pattern)
    (h : pattern <:+: lead ++ (cs ++ trail)) : pattern <:+: cs := by
  have hfront : pattern <:+: cs ++ trail := by
    induction lead with
    | nil => exact h
    | cons c lead ih =>
        rw [List.forall_mem_cons] at hlead
        rcases infix_append_cons (u := []) hlead.1 h with hnil | hrest
        · exact absurd (List.infix_nil.mp hnil) hp
        · exact ih hlead.2 hrest
  cases trail with
  | nil => simpa using hfront
  | cons c trail =>
      rw [List.forall_mem_cons] at htrail
      exact (infix_append_cons htrail.1 hfront).resolve_right (not_infix_of_disjoint hp htrail.2)

/-- A pattern without blanks occurs in the trimmed text exactly if it occurs in the text. -/
theorem infix_trim_iff (hp : pattern ≠ []) (hblank : ∀ c ∈ pattern, isBlank c = false) :
    pattern <:+: trim cs ↔ pattern <:+: cs := by
  refine ⟨fun h => h.trans (trim_isInfix cs), fun h => ?_⟩
  obtain ⟨lead, trail, hcs, hlead, htrail⟩ := exists_trim cs
  have hapart : ∀ c, isBlank c = true → c ∉ pattern := fun c hc hmem => by
    rw [hblank c hmem] at hc
    exact Bool.noConfusion hc
  rw [hcs, List.append_assoc] at h
  exact infix_of_infix_append_append hp (fun c hc => hapart c (hlead c hc))
    (fun c hc => hapart c (htrail c hc)) h

end Ends

/-! ### Replacing a character -/

/-- A replacement of one character goes character by character. -/
theorem replaceText_singleton (c : Char) (by' cs : List Char) :
    replaceText [c] by' cs = cs.flatMap fun d => if d = c then by' else [d] := by
  induction cs with
  | nil => rfl
  | cons d cs ih =>
      have hrest : replaceTextFrom [c] by' 0 cs =
          cs.flatMap fun d => if d = c then by' else [d] := ih
      rw [replaceText, replaceTextFrom, List.flatMap_cons, List.length_singleton, hrest]
      by_cases hd : d = c
      · simp [hd, List.isPrefixOf]
      · simp [hd, List.isPrefixOf, Ne.symm hd]

end Text

/-! ### Letters and digits -/

/-- The letters and digits of ASCII by their numbers. -/
theorem toNat_of_isAlphanum {c : Char} (h : c.isAlphanum = true) :
    (0x41 ≤ c.toNat ∧ c.toNat ≤ 0x5A) ∨ (0x61 ≤ c.toNat ∧ c.toNat ≤ 0x7A) ∨
      (0x30 ≤ c.toNat ∧ c.toNat ≤ 0x39) := by
  replace h : ((decide (0x41 ≤ c.toNat ∧ c.toNat ≤ 0x5A) ||
      (decide (0x61 ≤ c.toNat) && decide (c.toNat ≤ 0x7A))) ||
      (decide (0x30 ≤ c.toNat) && decide (c.toNat ≤ 0x39))) = true := h
  simpa only [Bool.or_eq_true, Bool.and_eq_true, decide_eq_true_eq, or_assoc] using h

/-! ### Numbers by their digits -/

/-- The digits of a number are digits. -/
theorem isDigit_of_mem_digitsOf {n : Nat} {c : Char} (h : c ∈ digitsOf n) : c.isDigit = true :=
  Nat.isDigit_of_mem_toDigits (by decide) (by decide) h

/-- A number has digits only. -/
theorem all_isDigit_digitsOf (n : Nat) : (digitsOf n).all Char.isDigit = true :=
  List.all_eq_true.mpr fun _ hc => isDigit_of_mem_digitsOf hc

/-- A number has digits. -/
theorem digitsOf_ne_nil (n : Nat) : digitsOf n ≠ [] := Nat.toDigits_ne_nil

/-- The digits of a number are no empty text. -/
theorem isEmpty_digitsOf (n : Nat) : (digitsOf n).isEmpty = false :=
  List.isEmpty_eq_false_iff.mpr (digitsOf_ne_nil n)

/-- A number has a first digit, and digits behind it. -/
theorem exists_digitsOf (n : Nat) : ∃ d ds, digitsOf n = d :: ds ∧ d.isDigit = true ∧
    ∀ c ∈ ds, c.isDigit = true := by
  obtain ⟨d, ds, hds⟩ := List.exists_cons_of_ne_nil (digitsOf_ne_nil n)
  have hall : ∀ c ∈ d :: ds, c.isDigit = true := fun c hc => isDigit_of_mem_digitsOf (hds ▸ hc)
  rw [List.forall_mem_cons] at hall
  exact ⟨d, ds, hds, hall⟩

/-- A number begins with a digit, whatever stands behind it. -/
theorem digitsOf_append_ne_cons {c : Char} (hc : c.isDigit = false) (n : Nat)
    (rest more : List Char) : digitsOf n ++ rest ≠ c :: more := by
  obtain ⟨d, ds, hds, hd, -⟩ := exists_digitsOf n
  rw [hds, List.cons_append]
  intro heq
  rw [(List.cons.inj heq).1, hc] at hd
  exact Bool.false_ne_true hd

/-- A number is no text that begins with another character than a digit. -/
theorem digitsOf_ne_cons {c : Char} (hc : c.isDigit = false) (n : Nat) (more : List Char) :
    digitsOf n ≠ c :: more := by
  simpa using digitsOf_append_ne_cons hc n [] more

/-- A text that begins with a digit has no sign. -/
theorem spanSign_of_isDigit {d : Char} (hd : d.isDigit = true) (ds : List Char) :
    Decimal.spanSign (d :: ds) = (false, d :: ds) := by
  unfold Decimal.spanSign
  split
  · next heq =>
      rw [(List.cons.inj heq).1] at hd
      exact absurd hd (by decide)
  · next heq =>
      rw [(List.cons.inj heq).1] at hd
      exact absurd hd (by decide)
  · rfl

/-- The digits of a number have no sign. -/
theorem spanSign_digitsOf (n : Nat) : Decimal.spanSign (digitsOf n) = (false, digitsOf n) := by
  obtain ⟨d, ds, hds, hd, -⟩ := exists_digitsOf n
  rw [hds, spanSign_of_isDigit hd]

/-- A number above zero has no leading zero. -/
theorem head?_digitsOf {n : Nat} (h : 0 < n) : (digitsOf n).head? ≠ some '0' := by
  induction n using Nat.strongRecOn with
  | ind n ih =>
      rcases Nat.lt_or_ge n 10 with hlt | hge
      · have hdigit : ∀ m < 10, 0 < m → ([Nat.digitChar m].head? ≠ some '0') := by decide
        rw [digitsOf, Nat.toDigits_of_lt_base hlt]
        exact hdigit n hlt h
      · have hhead := ih (n / 10) (by omega) (by omega)
        have hne : digitsOf (n / 10) ≠ [] := digitsOf_ne_nil _
        rw [digitsOf, Nat.toDigits_of_base_le (by decide) hge, ← digitsOf,
          List.head?_append_of_ne_nil _ hne]
        exact hhead

/-- A number is the number behind its digits. -/
theorem digitsValue_digitsOf (n : Nat) : Decimal.digitsValue (digitsOf n) = n :=
  Nat.ofDigitChars_ten_toDigits

/-- Different numbers have different digits. -/
theorem digitsOf_injective : Function.Injective digitsOf :=
  Function.LeftInverse.injective digitsValue_digitsOf

/-- An integer is a sign, if it is negative, and the digits of its absolute value. -/
theorem toList_toString_int (n : Int) :
    (toString n).toList = (if n < 0 then ['-'] else []) ++ digitsOf n.natAbs := by
  cases n with
  | ofNat m =>
      have hsign : ¬ Int.ofNat m < 0 := Int.not_lt.mpr (Int.natCast_nonneg m)
      rw [if_neg hsign]
      simp [toString, Int.repr, Nat.repr, digitsOf]
  | negSucc m =>
      rw [if_pos (Int.negSucc_lt_zero m)]
      simp [toString, Int.repr, Nat.repr, digitsOf]

/-- An index is read back from its digits. -/
theorem readIndex?_digitsOf {i : Nat} (h : i < Value.lengthBound) :
    readIndex? (digitsOf i) = some i := by
  rw [Value.lengthBound] at h
  unfold readIndex?
  split
  · next rest hplus => exact absurd hplus (digitsOf_ne_cons rfl i rest)
  · simp only [isEmpty_digitsOf, all_isDigit_digitsOf, digitsValue_digitsOf, h, Bool.not_false,
      Bool.true_and, decide_true, if_true]

end JsonWorkbench
