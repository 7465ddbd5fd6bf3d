import JsonWorkbench.Proofs.Yaml.Cursor
import JsonWorkbench.Yaml.Plain
import JsonWorkbench.Yaml.Printer
import Mathlib.Data.List.Basic

/-!
# Reading Plain Scalars

A text that is written without quotes is read back as it is. It stands on one line, so that its
words are kept apart by blanks only, and none of its colons and number signs stands where it would
end the scalar. Behind it the text ends, or a colon ends it as a key, or the next line begins
further to the left than the lines of the scalar would.

## Main definitions

* `IsPlain` — the texts that can be written without quotes.
* `EndsPlain` — what stands behind a plain scalar.

## Main results

* `readPlain_isPlain` — a plain text is read back.
* `isPlain_of_allowsPlain` — the writer leaves the quotes away only for plain texts.
-/

namespace JsonWorkbench.Yaml

/-! ### Plain texts -/

/-- Words with single blanks or more between them, of which none has a colon at its end or, but for
the first, a number sign at its start. -/
structure IsWords (cs : List Char) : Prop where
  /-- There is a word. -/
  ne_nil : cs ≠ []
  /-- There is no blank at the start. -/
  first : cs.head? ≠ some ' '
  /-- There is no blank at the end. -/
  last : cs.getLast? ≠ some ' '
  /-- All blanks are spaces. -/
  blanks : ∀ c ∈ cs, isGapOrBreak c = true → c = ' '
  /-- No colon ends a word. -/
  colon : ∀ before behind, cs = before ++ ':' :: behind →
    (behind.head?.map separates).getD true = false
  /-- No number sign begins a word behind a blank. -/
  comment : ∀ before behind, cs ≠ before ++ ' ' :: '#' :: behind

/-- A text that can be written without quotes. -/
structure IsPlain (cs : List Char) : Prop extends IsWords cs where
  /-- The text does not begin like the mark of a document's start. -/
  notStart : ['-', '-', '-'].isPrefixOf cs = false
  /-- The text does not begin like the mark of a document's end. -/
  notEnd : ['.', '.', '.'].isPrefixOf cs = false
  /-- The first character begins no other syntax. -/
  leading : ∀ c rest, cs = c :: rest → isLeadingIndicator c rest.head? = false

/-- Blanks and line breaks keep words apart for the writer. -/
theorem separates_of_isGapOrBreak {c : Char} (h : isGapOrBreak c = true) : separates c = true := by
  simp only [isGapOrBreak, isGap, isBreak, Bool.or_eq_true, beq_iff_eq] at h
  rcases h with (rfl | rfl) | (rfl | rfl) | rfl <;> rfl

/-- What ends a word keeps it apart for the writer. -/
theorem separates_of_endsWord {next : Option Char} (h : endsWord next = true) :
    (next.map separates).getD true = true := by
  rcases next with - | c
  · rfl
  · exact separates_of_isGapOrBreak h

/-! ### Words -/

/-- A word of a scalar with what stands behind it: the text ends, or a blank or line break follows,
or a colon that ends the word. -/
def StopsWord (rest : List Char) : Prop :=
  ∀ c cs, rest = c :: cs → isGapOrBreak c = true ∨ (c = ':' ∧ endsWord cs.head? = true)

/-- A colon inside a word does not end it. -/
def GoesOn (word rest : List Char) : Prop :=
  ∀ before behind, word = before ++ ':' :: behind → endsWord (behind ++ rest).head? = false

/-- A word is taken up to what ends it. -/
theorem takeWord_append {word rest : List Char} (hword : ∀ c ∈ word, isGapOrBreak c = false)
    (hgo : GoesOn word rest) (hrest : StopsWord rest) :
    takeWord false (word ++ rest) = { text := word, badColon := false } := by
  induction word with
  | nil =>
      rcases rest with - | ⟨c, rest⟩
      · rfl
      · rcases hrest c rest rfl with hc | ⟨rfl, hnext⟩
        · simp [takeWord, hc]
        · simp [takeWord, hnext]
  | cons c word ih =>
      rw [List.forall_mem_cons] at hword
      have hcolon : (c == ':' && endsWord (word ++ rest).head?) = false := by
        by_cases hc : c = ':'
        · subst hc
          rw [hgo [] word rfl, Bool.and_false]
        · simp [hc]
      have hgo' : GoesOn word rest := fun before behind heq =>
        hgo (c :: before) behind (by rw [heq, List.cons_append])
      rw [List.cons_append, takeWord, ih hword.2 hgo', hword.1, hcolon]
      simp

/-! ### Plain scalars -/

/-- What stands behind a plain scalar, at a place, and where the reading stops. -/
inductive EndsPlain (margin : Nat) : List Char → Mark → Cursor → Bool → Prop
  /-- The text ends. -/
  | finish {m : Mark} : EndsPlain margin [] m { rest := [], mark := m } false
  /-- The scalar is a key. -/
  | colon {m : Mark} (c : Char) (cs : List Char) (hc : isGapOrBreak c = true) :
      EndsPlain margin (':' :: c :: cs) m { rest := ':' :: c :: cs, mark := m } false
  /-- The next line begins further to the left. -/
  | line {m : Mark} (column : Nat) (c : Char) (cs : List Char) (hcolumn : column < margin)
      (hc : isGapOrBreak c = false) :
      EndsPlain margin ('\n' :: (pad column ++ c :: cs)) m
        { rest := c :: cs, mark := { line := m.line + 1, column } } true

/-- Behind a plain scalar its last word ends. -/
theorem EndsPlain.stopsWord {margin : Nat} {rest : List Char} {m : Mark} {behind : Cursor}
    {crossed : Bool} (h : EndsPlain margin rest m behind crossed) : StopsWord rest := by
  intro c cs heq
  cases h with
  | finish => simp at heq
  | colon c' cs' hc =>
      obtain ⟨rfl, rfl⟩ := List.cons.inj heq
      exact .inr ⟨rfl, hc⟩
  | line column c' cs' hcolumn hc =>
      obtain ⟨rfl, rfl⟩ := List.cons.inj heq
      exact .inl rfl

/-- There is no tab in blanks. -/
theorem earlyTab?_eq_none {run : List Char} (h : '\t' ∉ run) (margin line : Nat) (crossed : Bool)
    (column : Nat) : earlyTab? margin line crossed column run = none := by
  induction run generalizing line crossed column with
  | nil => rfl
  | cons c run ih =>
      rw [List.mem_cons, not_or] at h
      have hc : (c == '\t') = false := by simpa using Ne.symm h.1
      rw [earlyTab?, hc, Bool.and_false, Bool.false_and, ih h.2, ih h.2]
      simp

/-- A word and the blanks behind it stand on one line. -/
theorem column_after_word {word gap : List Char} (hword : ∀ c ∈ word, isGapOrBreak c = false)
    (hblank : ∀ c ∈ gap, c = ' ') (m : Mark) :
    (m.after (word ++ gap)).column = m.column + (word.length + gap.length) := by
  rw [Mark.after_of_no_break, List.length_append]
  intro c hc
  rcases List.mem_append.mp hc with hc | hc
  · exact (Bool.or_eq_false_iff.mp (hword c hc)).2
  · rw [hblank c hc]
    rfl

/-- **One word is read.** What stands behind it decides whether the reading stops before the run of
blanks and line breaks, behind it, or goes on. -/
theorem readPlainFrom_word {margin : Nat} {word rest : List Char} (hne : word ≠ [])
    (hword : ∀ c ∈ word, isGapOrBreak c = false) (hgo : GoesOn word rest) (hstops : StopsWord rest)
    {m : Mark}
    (hstart : m.column = 0 → Cursor.isAtBoundary { rest := word ++ rest, mark := m } = false)
    (hcomment : word.head? ≠ some '#') {run : List Char} {next : Cursor}
    (hspan : Cursor.span isGapOrBreak { rest, mark := m.after word } = (run, next))
    (htab : '\t' ∉ run) (fuel : Nat) (gap : List Char) (crossed : Bool) :
    readPlainFrom false margin (fuel + 1) gap crossed { rest := word ++ rest, mark := m } =
      if run.isEmpty then
        .ok { text := gap ++ word, behind := { rest, mark := m.after word }, crossed := false }
      else if next.mark.column < margin then
        .ok { text := gap ++ word, behind := next, crossed := run.any isBreak }
      else
        (readPlainFrom false margin fuel (foldGap run) (run.any isBreak) next).map fun s =>
          { s with text := gap ++ word ++ s.text } := by
  have hboundary : Cursor.isAtBoundary { rest := word ++ rest, mark := m } = false := by
    by_cases hm : m.column = 0
    · exact hstart hm
    · exact Cursor.isAtBoundary_of_column hm
  have hhash : Cursor.isAt { rest := word ++ rest, mark := m } '#' = false := by
    rw [Cursor.isAt, beq_eq_false_iff_ne, List.head?_append_of_ne_nil _ hne]
    exact hcomment
  have hempty : word.isEmpty = false := by simpa using hne
  rw [readPlainFrom]
  simp only [hboundary, hhash, takeWord_append hword hgo hstops, hempty, Cursor.drop_append, hspan,
    earlyTab?_eq_none htab, Bool.or_self, Bool.false_eq_true, if_false, Bool.not_false,
    Bool.true_and, decide_eq_true_eq]

/-- Behind a last word the reading stops. -/
theorem readPlainFrom_last {margin : Nat} {word rest : List Char} (hne : word ≠ [])
    (hword : ∀ c ∈ word, isGapOrBreak c = false) (hgo : GoesOn word rest) {m : Mark}
    (hstart : m.column = 0 → Cursor.isAtBoundary { rest := word ++ rest, mark := m } = false)
    (hcomment : word.head? ≠ some '#') {behind : Cursor} {crossed : Bool}
    (hend : EndsPlain margin rest (m.after word) behind crossed) (fuel : Nat) (gap : List Char)
    (crossed' : Bool) :
    readPlainFrom false margin (fuel + 1) gap crossed' { rest := word ++ rest, mark := m } =
      .ok { text := gap ++ word, behind, crossed } := by
  have hread := @readPlainFrom_word margin word rest hne hword hgo hend.stopsWord m hstart hcomment
  cases hend with
  | finish => exact hread rfl List.not_mem_nil fuel gap crossed'
  | colon c cs hc =>
      have hspan : Cursor.span isGapOrBreak { rest := ':' :: c :: cs, mark := m.after word } =
          ([], { rest := ':' :: c :: cs, mark := m.after word }) :=
        Cursor.span_of_stops (Text.stops_cons.mpr rfl) _
      exact hread hspan List.not_mem_nil fuel gap crossed'
  | line column c cs hcolumn hc =>
      have hrun : ∀ x ∈ '\n' :: pad column, isGapOrBreak x = true := by
        intro x hx
        rcases List.mem_cons.mp hx with rfl | hx
        · rfl
        · rw [(List.mem_replicate.mp hx).2]
          rfl
      have hspan : Cursor.span isGapOrBreak
          { rest := '\n' :: (pad column ++ c :: cs), mark := m.after word } =
          ('\n' :: pad column,
            { rest := c :: cs, mark := { line := (m.after word).line + 1, column } }) := by
        rw [← List.cons_append, Cursor.span_append hrun (Text.stops_cons.mpr hc), Mark.after_cons,
          Mark.step_of_break _ rfl, pad, Mark.after_replicate_blank, Nat.zero_add]
      have htab : '\t' ∉ '\n' :: pad column := by simp [pad]
      rw [hread hspan htab, List.isEmpty_cons, if_neg Bool.false_ne_true, if_pos hcolumn]
      rfl

/-- A word with a word behind it is read with the blanks between them. -/
theorem readPlainFrom_next {margin : Nat} {word gap' rest : List Char} (hne : word ≠ [])
    (hword : ∀ c ∈ word, isGapOrBreak c = false) (hgo : GoesOn word (gap' ++ rest)) {m : Mark}
    (hstart : m.column = 0 →
      Cursor.isAtBoundary { rest := word ++ (gap' ++ rest), mark := m } = false)
    (hcomment : word.head? ≠ some '#') (hgap : gap' ≠ []) (hblank : ∀ c ∈ gap', c = ' ')
    (hrest : Text.Stops isGapOrBreak rest) (hmargin : margin ≤ m.column + 1) (fuel : Nat)
    (gap : List Char) (crossed : Bool) :
    readPlainFrom false margin (fuel + 1) gap crossed
        { rest := word ++ (gap' ++ rest), mark := m } =
      (readPlainFrom false margin fuel gap' false
        { rest, mark := m.after (word ++ gap') }).map fun s =>
          { s with text := gap ++ word ++ s.text } := by
  have hgapEmpty : gap'.isEmpty = false := by simpa using hgap
  have hnoBreak : ∀ c ∈ gap', isBreak c = false := by
    intro c hc
    rw [hblank c hc]
    rfl
  have hstops : StopsWord (gap' ++ rest) := by
    obtain ⟨c, gap', rfl⟩ := List.exists_cons_of_ne_nil hgap
    intro d ds heq
    obtain ⟨rfl, -⟩ := List.cons.inj heq
    rw [hblank c (List.mem_cons_self ..)]
    exact .inl rfl
  have hspan : Cursor.span isGapOrBreak { rest := gap' ++ rest, mark := m.after word } =
      (gap', { rest, mark := m.after (word ++ gap') }) := by
    rw [Cursor.span_append _ hrest, Mark.after_append]
    intro c hc
    rw [hblank c hc]
    rfl
  have htab : '\t' ∉ gap' := by
    intro hmem
    exact absurd (hblank _ hmem) (by decide)
  have hany : gap'.any isBreak = false := by
    rw [List.any_eq_false]
    intro c hc
    rw [hnoBreak c hc]
    exact Bool.false_ne_true
  have hcolumn : ¬(m.after (word ++ gap')).column < margin := by
    have hpos : 0 < word.length := List.length_pos_of_ne_nil hne
    rw [column_after_word hword hblank]
    omega
  rw [readPlainFrom_word hne hword hgo hstops hstart hcomment hspan htab, hgapEmpty,
    if_neg Bool.false_ne_true, if_neg hcolumn, foldGap_of_no_break hnoBreak, hany]

/-- A colon inside plain words does not end a word, whatever stands behind them. -/
theorem IsWords.goesOn {word more : List Char} (h : IsWords (word ++ more)) (rest : List Char) :
    GoesOn word (more ++ rest) := by
  intro before behind heq
  have hcolon := h.colon before (behind ++ more) (by rw [heq, List.append_assoc]; rfl)
  rw [← List.append_assoc]
  rcases hmore : behind ++ more with - | ⟨c, cs⟩
  · rw [hmore] at hcolon
    exact absurd hcolon (by decide)
  · rw [hmore] at hcolon
    rw [← Bool.not_eq_true]
    intro hends
    exact absurd (separates_of_endsWord hends) (by simpa using hcolon)

/-- Plain words are one word, or a word with plain words behind a gap. -/
theorem IsWords.cases {cs : List Char} (h : IsWords cs) :
    (∀ c ∈ cs, isGapOrBreak c = false) ∨
      ∃ word gap cs', cs = word ++ (gap ++ cs') ∧ word ≠ [] ∧
        (∀ c ∈ word, isGapOrBreak c = false) ∧ gap ≠ [] ∧ (∀ c ∈ gap, c = ' ') ∧ IsWords cs' ∧
        cs'.head? ≠ some '#' := by
  obtain ⟨word, more, rfl, hword, hmore⟩ := Text.exists_run (!isGapOrBreak ·) cs
  simp only [Bool.not_eq_true'] at hword
  rcases more with - | ⟨blank, more⟩
  · rw [List.append_nil]
    exact .inl hword
  have hblank : blank = ' ' := by
    refine h.blanks blank (by simp) ?_
    simpa using Text.stops_cons.mp hmore
  obtain ⟨gap, cs', heq, hgap, hcs', hgapNe⟩ :=
    @Text.exists_run_of_head (· == ' ') blank (by simpa using hblank) more
  simp only [beq_iff_eq] at hgap
  rw [heq] at h ⊢
  have hwordNe : word ≠ [] := by
    rintro rfl
    rw [← heq, hblank] at h
    exact h.first rfl
  have hcsNe : cs' ≠ [] := by
    rintro rfl
    have hlast : (word ++ (gap ++ [])).getLast? = some ' ' := by
      obtain ⟨start, b, rfl⟩ := (List.eq_nil_or_concat gap).resolve_left hgapNe
      simp [hgap b (by simp)]
    exact h.last hlast
  obtain ⟨c, cs', rfl⟩ := List.exists_cons_of_ne_nil hcsNe
  refine .inr ⟨word, gap, c :: cs', rfl, hwordNe, hword, hgapNe, hgap, ?_, ?_⟩
  · refine ⟨hcsNe, ?_, ?_, ?_, ?_, ?_⟩
    · simpa using Text.stops_cons.mp hcs'
    · have hlast := h.last
      rwa [← List.append_assoc, List.getLast?_append_of_ne_nil _ hcsNe] at hlast
    · exact fun d hd => h.blanks d (by simp [hd])
    · intro before behind hcut
      exact h.colon (word ++ (gap ++ before)) behind (by simp [hcut])
    · intro before behind hcut
      exact h.comment (word ++ (gap ++ before)) behind (by simp [hcut])
  · intro hhash
    obtain ⟨start, b, rfl⟩ := (List.eq_nil_or_concat gap).resolve_left hgapNe
    have hc : c = '#' := by simpa using hhash
    refine h.comment (word ++ start) cs' ?_
    simp [hgap b (by simp), hc]

/-- Plain words are read back, whatever the gap before them is. -/
theorem readPlainFrom_words {margin : Nat} {cs rest : List Char} (hcs : IsWords cs) {m : Mark}
    (hstart : m.column = 0 → Cursor.isAtBoundary { rest := cs ++ rest, mark := m } = false)
    (hcomment : cs.head? ≠ some '#') (hmargin : margin ≤ m.column + 1) {behind : Cursor}
    {crossed : Bool} (hend : EndsPlain margin rest (m.after cs) behind crossed) {fuel : Nat}
    (hfuel : cs.length ≤ fuel) (gap : List Char) (crossed' : Bool) :
    readPlainFrom false margin fuel gap crossed' { rest := cs ++ rest, mark := m } =
      .ok { text := gap ++ cs, behind, crossed } := by
  induction fuel generalizing cs m gap crossed' with
  | zero => exact absurd (List.length_eq_zero_iff.mp (Nat.le_zero.mp hfuel)) hcs.ne_nil
  | succ fuel ih =>
      rcases hcs.cases with hword | ⟨word, gap', cs', rfl, hne, hword, hgap, hblank, hcs', hhash⟩
      · have hgo : GoesOn cs ([] ++ rest) := IsWords.goesOn (by rwa [List.append_nil]) rest
        exact readPlainFrom_last hcs.ne_nil hword hgo hstart hcomment hend
          fuel gap crossed'
      · have hpos : 0 < word.length := List.length_pos_of_ne_nil hne
        rw [List.length_append, List.length_append] at hfuel
        have hgo : GoesOn word (gap' ++ (cs' ++ rest)) := by
          rw [← List.append_assoc]
          exact hcs.goesOn rest
        have hstops : Text.Stops isGapOrBreak (cs' ++ rest) := by
          obtain ⟨c, cs', rfl⟩ := List.exists_cons_of_ne_nil hcs'.ne_nil
          rw [List.cons_append, Text.stops_cons, ← Bool.not_eq_true]
          intro hc
          exact hcs'.first (by simp [hcs'.blanks c (List.mem_cons_self ..) hc])
        have hcolumn := column_after_word hword hblank m
        have hnext : readPlainFrom false margin fuel gap' false
            { rest := cs' ++ rest, mark := m.after (word ++ gap') } =
            .ok { text := gap' ++ cs', behind, crossed } := by
          refine ih hcs' (fun h0 => by omega) hhash (by omega) ?_ (by omega) gap' false
          rwa [← Mark.after_append, List.append_assoc]
        have hstart' : m.column = 0 → Cursor.isAtBoundary
            { rest := word ++ (gap' ++ (cs' ++ rest)), mark := m } = false := by
          intro h0
          simpa only [List.append_assoc] using hstart h0
        have hcomment' : word.head? ≠ some '#' := by
          rwa [List.head?_append_of_ne_nil _ hne] at hcomment
        rw [List.append_assoc, List.append_assoc,
          readPlainFrom_next hne hword hgo hstart' hcomment' hgap hblank hstops hmargin, hnext]
        simp [Except.map]

/-- A text does not begin with three times a character if its first part does not and the second
part begins with another one. -/
theorem take_three_ne {x : Char} {cs rest : List Char} (hcs : [x, x, x].isPrefixOf cs = false)
    (hrest : rest.head? ≠ some x) : ((cs ++ rest).take 3 == [x, x, x]) = false := by
  rw [beq_eq_false_iff_ne]
  intro heq
  have hget : ∀ i < 3, (cs ++ rest)[i]? = some x := by
    intro i hi
    rw [← List.getElem?_take_of_lt hi, heq]
    rcases i with - | - | - | i
    · rfl
    · rfl
    · rfl
    · omega
  rcases Nat.lt_or_ge cs.length 3 with hlt | hge
  · have hx := hget cs.length hlt
    rw [List.getElem?_append_right (Nat.le_refl _), Nat.sub_self, ← List.head?_eq_getElem?] at hx
    exact hrest hx
  · have hbegins : [x, x, x].isPrefixOf cs = true := by
      rw [List.isPrefixOf_iff_prefix, ← heq, List.take_append_of_le_length hge]
      exact List.take_prefix 3 cs
    rw [hbegins] at hcs
    exact Bool.noConfusion hcs

/-- Behind a plain scalar no mark of a document goes on. -/
theorem EndsPlain.head?_ne {margin : Nat} {rest : List Char} {m : Mark} {behind : Cursor}
    {crossed : Bool} (h : EndsPlain margin rest m behind crossed) :
    rest.head? ≠ some '-' ∧ rest.head? ≠ some '.' := by
  cases h <;> simp

/-- A plain text does not begin with the mark of a document. -/
theorem IsPlain.isAtBoundary {cs rest : List Char} (h : IsPlain cs)
    (hrest : rest.head? ≠ some '-' ∧ rest.head? ≠ some '.') (m : Mark) :
    Cursor.isAtBoundary { rest := cs ++ rest, mark := m } = false := by
  rw [Cursor.isAtBoundary, Cursor.isAtTriple, Cursor.isAtTriple, take_three_ne h.notStart hrest.1,
    take_three_ne h.notEnd hrest.2]
  simp

/-- **A plain text is read back.** -/
theorem readPlain_isPlain {margin : Nat} {cs rest : List Char} (hcs : IsPlain cs) {m : Mark}
    (hmargin : margin ≤ m.column + 1) {behind : Cursor} {crossed : Bool}
    (hend : EndsPlain margin rest (m.after cs) behind crossed) :
    readPlain false margin { rest := cs ++ rest, mark := m } =
      .ok { text := cs, behind, crossed } := by
  have hfuel : cs.length ≤ (cs ++ rest).length + 1 := by
    rw [List.length_append]
    omega
  have hcomment : cs.head? ≠ some '#' := by
    intro hhead
    obtain ⟨c, rest, rfl⟩ := List.exists_cons_of_ne_nil hcs.ne_nil
    have hleading := hcs.leading c rest rfl
    have hc : c = '#' := by simpa using hhead
    rw [hc] at hleading
    simp [isLeadingIndicator] at hleading
  exact readPlainFrom_words hcs.toIsWords (fun _ => hcs.isAtBoundary hend.head?_ne m) hcomment
    hmargin hend hfuel [] false

/-! ### The texts that are written without quotes -/

/-- A text without inner indicators has no colon that ends a word. -/
theorem colon_of_hasInnerIndicator {previous : Char} {cs : List Char}
    (h : hasInnerIndicator previous cs = false) (before behind : List Char)
    (hcs : cs = before ++ ':' :: behind) : (behind.head?.map separates).getD true = false := by
  induction before generalizing previous cs with
  | nil =>
      subst hcs
      simp only [List.nil_append, hasInnerIndicator, Bool.or_eq_false_iff] at h
      simpa using h.1.1
  | cons c before ih =>
      subst hcs
      simp only [List.cons_append, hasInnerIndicator, Bool.or_eq_false_iff] at h
      exact ih h.2 rfl

/-- A text without inner indicators has no number sign behind a blank. -/
theorem comment_of_hasInnerIndicator {previous : Char} {cs : List Char}
    (h : hasInnerIndicator previous cs = false) (before behind : List Char) :
    previous :: cs ≠ before ++ ' ' :: '#' :: behind := by
  induction before generalizing previous cs with
  | nil =>
      intro heq
      obtain ⟨rfl, rfl⟩ := List.cons.inj heq
      simp [hasInnerIndicator, separates] at h
  | cons c before ih =>
      intro heq
      obtain ⟨rfl, htail⟩ := List.cons.inj heq
      rcases cs with - | ⟨d, cs⟩
      · simp at htail
      · simp only [hasInnerIndicator, Bool.or_eq_false_iff] at h
        exact ih h.2 htail

/-- The writer leaves the quotes away only for plain texts. -/
theorem isPlain_of_allowsPlain {cs : List Char} (hne : cs ≠ [])
    (h : (traits cs).allowsPlain = true) : IsPlain cs := by
  obtain ⟨c, rest, rfl⟩ := List.exists_cons_of_ne_nil hne
  simp only [Traits.allowsPlain, Traits.allowsSingle, traits, Bool.and_eq_true,
    Bool.not_eq_true', Bool.or_eq_false_iff] at h
  obtain ⟨⟨-, hspecial⟩, ⟨⟨⟨⟨hstart, hend⟩, hleading, hinner⟩, hbreaks⟩, hfirst⟩, hlast⟩ := h
  refine ⟨⟨hne, ?_, ?_, ?_, ?_, ?_⟩, hstart, hend, ?_⟩
  · simpa using hfirst
  · simpa using hlast
  · intro d hd hgap
    rw [List.any_eq_false] at hspecial hbreaks
    have hwritable : isWritable d = true := by simpa using hspecial d hd
    have hbreak := hbreaks d hd
    simp only [isGapOrBreak, isGap, isBreak, Bool.or_eq_true, beq_iff_eq] at hgap
    rcases hgap with (rfl | rfl) | (rfl | rfl) | rfl
    · rfl
    · exact absurd hwritable (by decide)
    · exact absurd rfl hbreak
    · exact absurd rfl hbreak
    · exact absurd rfl hbreak
  · intro before behind heq
    rcases before with - | ⟨d, before⟩
    · obtain ⟨rfl, rfl⟩ := List.cons.inj heq
      simp only [isLeadingIndicator, Bool.or_eq_false_iff] at hleading
      simpa using hleading.2
    · obtain ⟨rfl, rfl⟩ := List.cons.inj heq
      exact colon_of_hasInnerIndicator hinner before behind rfl
  · exact comment_of_hasInnerIndicator hinner
  · intro d ds heq
    obtain ⟨rfl, rfl⟩ := List.cons.inj heq
    exact hleading

/-- The characters that may begin other syntax. -/
theorem mem_of_isLeadingIndicator {c : Char} {next : Option Char}
    (h : isLeadingIndicator c next = true) :
    c ∈ ['#', ',', '[', ']', '{', '}', '&', '*', '!', '|', '>', '\'', '"', '%', '@', '\x60', '?',
      ':', '-'] := by
  simp only [isLeadingIndicator, Bool.or_eq_true, Bool.and_eq_true, beq_iff_eq] at h
  simp only [List.mem_cons, List.not_mem_nil, or_false]
  tauto

/-- A letter or digit separates nothing. -/
theorem separates_of_alphanum {c : Char} (h : c.isAlphanum = true) : separates c = false := by
  rw [← Bool.not_eq_true]
  intro hc
  simp only [separates, breaksLine, Bool.or_eq_true, beq_iff_eq] at hc
  have hmem : c ∈ [' ', '\t', '\x00', '\n', '\r', '\u0085', '\u2028', '\u2029'] := by
    simp only [List.mem_cons, List.not_mem_nil, or_false]
    tauto
  have hnone : ∀ x ∈ [' ', '\t', '\x00', '\n', '\r', '\u0085', '\u2028', '\u2029'],
      (!x.isAlphanum) = true := List.all_eq_true.mp (by decide)
  have hfalse := hnone c hmem
  rw [h] at hfalse
  exact Bool.noConfusion hfalse

/-- A letter or digit is no indicator. -/
theorem isLeadingIndicator_of_alphanum {c : Char} (h : c.isAlphanum = true)
    (next : Option Char) : isLeadingIndicator c next = false := by
  rw [← Bool.not_eq_true]
  intro hc
  have hnone : ∀ x ∈ ['#', ',', '[', ']', '{', '}', '&', '*', '!', '|', '>', '\'', '"', '%', '@',
      '\x60', '?', ':', '-'], (!x.isAlphanum) = true := List.all_eq_true.mp (by decide)
  have hfalse := hnone c (mem_of_isLeadingIndicator hc)
  rw [h] at hfalse
  exact Bool.noConfusion hfalse

/-- Letters and digits, perhaps behind a minus, are a plain text. -/
theorem isPlain_of_alphanum {cs : List Char} (hne : cs ≠ []) (h : ∀ c ∈ cs, c.isAlphanum = true)
    {sign : List Char} (hsign : sign = [] ∨ sign = ['-']) : IsPlain (sign ++ cs) := by
  obtain ⟨d, ds, rfl⟩ := List.exists_cons_of_ne_nil hne
  have hd : d.isAlphanum = true := h d (List.mem_cons_self ..)
  have hother : ∀ x : Char, x.isAlphanum = false → x ≠ '-' → x ∉ sign ++ d :: ds := by
    intro x hx hminus hmem
    rcases List.mem_append.mp hmem with hmem | hmem
    · rcases hsign with rfl | rfl
      · simp at hmem
      · exact hminus (List.mem_singleton.mp hmem)
    · rw [h x hmem] at hx
      exact Bool.noConfusion hx
  have hblank : ' ' ∉ sign ++ d :: ds := hother ' ' (by decide) (by decide)
  have hdMinus : d ≠ '-' := by
    rintro rfl
    exact absurd hd (by decide)
  refine ⟨⟨by simp, ?_, ?_, ?_, ?_, ?_⟩, ?_, ?_, ?_⟩
  · exact fun hfirst => hblank (List.mem_of_head? hfirst)
  · exact fun hlast => hblank (List.mem_of_getLast? hlast)
  · intro c hc hgap
    have hseparates := separates_of_isGapOrBreak hgap
    rcases List.mem_append.mp hc with hc | hc
    · rcases hsign with rfl | rfl
      · simp at hc
      · rw [List.mem_singleton.mp hc] at hgap
        exact absurd hgap (by decide)
    · rw [separates_of_alphanum (h c hc)] at hseparates
      exact Bool.noConfusion hseparates
  · intro before behind heq
    exact absurd (heq ▸ (by simp : ':' ∈ before ++ ':' :: behind))
      (hother ':' (by decide) (by decide))
  · intro before behind heq
    exact hblank (heq ▸ by simp)
  · rcases hsign with rfl | rfl <;> simp [List.isPrefixOf, Ne.symm hdMinus]
  · rcases hsign with rfl | rfl
    · have hdot : d ≠ '.' := by
        rintro rfl
        exact absurd hd (by decide)
      simp [List.isPrefixOf, Ne.symm hdot]
    · simp [List.isPrefixOf]
  · intro c rest heq
    rcases hsign with rfl | rfl
    · obtain ⟨rfl, -⟩ := List.cons.inj heq
      exact isLeadingIndicator_of_alphanum hd _
    · obtain ⟨rfl, rfl⟩ := List.cons.inj heq
      simp [isLeadingIndicator, separates_of_alphanum hd]

end JsonWorkbench.Yaml
