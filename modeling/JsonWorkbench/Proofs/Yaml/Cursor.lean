import JsonWorkbench.Proofs.Text
import JsonWorkbench.Yaml.Folding

/-!
# Moving a Cursor

A scan moves its cursor over the characters that it takes. Where the text in front of a cursor is
known as a part to be taken and a rest, the cursor stands at the rest afterwards, and its place is
that of the part's end: further to the right on the same line, or in a column of a later line if
the part has line breaks.

## Main definitions

* `Mark.after` — the place behind a text.

## Main results

* `Cursor.drop_append`, `Cursor.span_append` — the cursor behind a part.
-/

namespace JsonWorkbench.Yaml

/-! ### Places -/

/-- The place behind a text. -/
def Mark.after (m : Mark) (cs : List Char) : Mark := cs.foldl Mark.step m

namespace Mark

variable (m : Mark)

/-- The place behind no text. -/
@[simp]
theorem after_nil : m.after [] = m := rfl

/-- The place behind a character and a text. -/
theorem after_cons (c : Char) (cs : List Char) : m.after (c :: cs) = (m.step c).after cs := rfl

/-- The place behind two texts. -/
theorem after_append (cs ds : List Char) : m.after (cs ++ ds) = (m.after cs).after ds :=
  List.foldl_append

/-- A line break leads to the start of the next line. -/
theorem step_of_break {c : Char} (h : isBreak c = true) :
    m.step c = { line := m.line + 1, column := 0 } := by
  rw [step, if_pos h]

/-- A text without line breaks leads to the right. -/
theorem after_of_no_break {cs : List Char} (h : ∀ c ∈ cs, isBreak c = false) :
    m.after cs = { m with column := m.column + cs.length } := by
  induction cs generalizing m with
  | nil => rfl
  | cons c cs ih =>
      rw [List.forall_mem_cons] at h
      rw [after_cons, step, h.1, ih _ h.2]
      simp only [Bool.false_eq_true, if_false, List.length_cons]
      rw [Nat.add_assoc, Nat.add_comm 1]

/-- Line breaks lead to the start of a line. -/
theorem column_after_breaks {cs : List Char} (hne : cs ≠ []) (h : ∀ c ∈ cs, isBreak c = true) :
    (m.after cs).column = 0 := by
  obtain ⟨start, b, rfl⟩ := (List.eq_nil_or_concat cs).resolve_left hne
  rw [List.concat_eq_append, after_append, after_cons, step_of_break _ (h b (by simp))]
  rfl

/-- Blanks lead to the right. -/
theorem after_replicate_blank (n : Nat) :
    m.after (List.replicate n ' ') = { m with column := m.column + n } := by
  have hblank : ∀ c ∈ List.replicate n ' ', isBreak c = false := by
    intro c hc
    rw [(List.mem_replicate.mp hc).2]
    rfl
  rw [after_of_no_break m hblank, List.length_replicate]

/-- A text without line breaks does not lead back to the start of a line. -/
theorem column_after_ne_zero {m : Mark} (hm : m.column ≠ 0) {cs : List Char}
    (h : ∀ c ∈ cs, isBreak c = false) : (m.after cs).column ≠ 0 := by
  rw [after_of_no_break m h]
  simp only
  omega

/-- Lines are only counted up. -/
theorem line_le_after (cs : List Char) : m.line ≤ (m.after cs).line := by
  induction cs generalizing m with
  | nil => exact Nat.le_refl _
  | cons c cs ih =>
      refine Nat.le_trans ?_ (ih (m.step c))
      rw [step]
      split
      · exact Nat.le_succ _
      · exact Nat.le_refl _

end Mark

/-! ### Cursors -/

namespace Cursor

/-- The cursor behind a part, drawn character by character. -/
theorem drop_append (part rest : List Char) (m : Mark) :
    drop part.length { rest := part ++ rest, mark := m } = { rest, mark := m.after part } := by
  induction part generalizing m with
  | nil => rfl
  | cons c part ih => exact ih (m.step c)

/-- The run that is next, and the cursor behind it. -/
theorem span_append {p : Char → Bool} {run rest : List Char} (hrun : ∀ c ∈ run, p c = true)
    (hrest : Text.Stops p rest) (m : Mark) :
    span p { rest := run ++ rest, mark := m } = (run, { rest, mark := m.after run }) := by
  rw [span, Text.span_append hrun hrest]
  rfl

/-- Where a text stops there is no run. -/
theorem span_of_stops {p : Char → Bool} {rest : List Char} (h : Text.Stops p rest) (m : Mark) :
    span p { rest, mark := m } = ([], { rest, mark := m }) := by
  have hspan : span p { rest := [] ++ rest, mark := m } = ([], { rest, mark := m }) :=
    span_append (by simp) h m
  exact hspan

/-- Where a text stops there is nothing to skip. -/
theorem skipWhile_of_stops {p : Char → Bool} {rest : List Char} (h : Text.Stops p rest)
    (m : Mark) : skipWhile p { rest, mark := m } = { rest, mark := m } := by
  rw [skipWhile, span_of_stops h]

/-- The cursor behind the run that is next. -/
theorem skipWhile_append {p : Char → Bool} {run rest : List Char} (hrun : ∀ c ∈ run, p c = true)
    (hrest : Text.Stops p rest) (m : Mark) :
    skipWhile p { rest := run ++ rest, mark := m } = { rest, mark := m.after run } := by
  rw [skipWhile, span_append hrun hrest]

/-- No mark of a document stands where no line begins. -/
theorem isAtBoundary_of_column {c : Cursor} (h : c.mark.column ≠ 0) : c.isAtBoundary = false := by
  simp [isAtBoundary, isAtTriple, h]

end Cursor

/-! ### Gaps -/

/-- Blanks without line breaks among them stand for themselves. -/
theorem foldGap_of_no_break {run : List Char} (h : ∀ c ∈ run, isBreak c = false) :
    foldGap run = run := by
  have hfilter : run.filter isBreak = [] := by
    rw [List.filter_eq_nil_iff]
    intro c hc
    rw [h c hc]
    exact Bool.false_ne_true
  rw [foldGap, hfilter]

/-- Line breaks that are no line feeds stand for themselves, without the blanks behind them. -/
theorem foldGap_append_blanks {breaks : List Char} (hne : breaks ≠ [])
    (h : ∀ c ∈ breaks, isBreak c = true ∧ c ≠ '\n') {blanks : List Char}
    (hblanks : ∀ c ∈ blanks, isBreak c = false) : foldGap (breaks ++ blanks) = breaks := by
  obtain ⟨b, bs, rfl⟩ := List.exists_cons_of_ne_nil hne
  have hfilter : (b :: bs ++ blanks).filter isBreak = b :: bs := by
    rw [List.filter_append, List.filter_eq_self.mpr fun c hc => (h c hc).1,
      List.filter_eq_nil_iff.mpr fun c hc => by simp [hblanks c hc], List.append_nil]
  have hb : (b == '\n') = false := by simpa using (h b (List.mem_cons_self ..)).2
  rw [foldGap, hfilter]
  simp only [foldBreaks, hb, Bool.false_eq_true, if_false]

end JsonWorkbench.Yaml
