import JsonWorkbench.Proofs.Hexadecimal
import JsonWorkbench.Proofs.Yaml.Cursor
import JsonWorkbench.Yaml.Printer
import JsonWorkbench.Yaml.Quoted
import Mathlib.Algebra.Group.Nat.Defs
import Mathlib.Data.List.Basic
import Mathlib.Tactic.SplitIfs

/-!
# Reading Quoted Scalars

A text in quotes is read back as it is. In single quotes a quote is doubled, and a line break is
written as it is with the indentation of the next line behind it, which folding takes away again;
line feeds do not occur there, so that folding keeps every break. In double quotes everything that
could be misread stands as an escape.

The reader takes a run of blanks and breaks as a whole. The induction therefore goes over the runs
of the text and not over its characters: a run that the writer has written is the run that the
reader finds.

## Main results

* `readQuoted_single` — a text in single quotes is read back.
* `readQuoted_double` — a text in double quotes is read back.
-/

namespace JsonWorkbench.Yaml

/-! ### Escapes -/

/-- A character that stands for itself in double quotes. -/
def isRaw (c : Char) : Bool := isWritable c && !breaksLine c && c ≠ '"' && c ≠ '\\'

/-- A table of escapes is searched entry by entry. -/
theorem of_entry {c x letter letter' : Char} {rest : Option Char}
    (h : (if c == x then some letter' else rest) = some letter) :
    (c = x ∧ letter' = letter) ∨ rest = some letter := by
  by_cases hc : c = x
  · rw [hc, beq_self_eq_true, if_pos rfl] at h
    exact .inl ⟨hc, Option.some.inj h⟩
  · rw [if_neg (by simpa using hc)] at h
    exact .inr h

/-- The letter that the writer puts behind a backslash is the one that the reader knows. -/
theorem letterEscape?_escapeLetter? {c letter : Char} (h : escapeLetter? c = some letter) :
    letterEscape? letter = some c ∧ isWritable letter = true ∧ breaksLine letter = false := by
  rw [escapeLetter?] at h
  repeat
    rcases of_entry h with ⟨rfl, rfl⟩ | h
    · decide
  simp at h

/-- A character that stands for itself is written as it is. -/
theorem escapeDouble_of_isRaw {c : Char} (h : isRaw c = true) : escapeDouble c = [c] := by
  have hraw : (isWritable c && !breaksLine c && c ≠ '"' && c ≠ '\\') = true := h
  rw [escapeDouble, if_pos hraw]

/-- A letter that announces the number of a character. -/
structure IsCode (letter : Char) (width : Nat) : Prop where
  /-- It does not stand for a character itself. -/
  noLetter : letterEscape? letter = none
  /-- The number of digits behind it. -/
  code : codeLength? letter = some width
  /-- There is a digit. -/
  pos : 0 < width
  /-- The letter can be written. -/
  writable : isWritable letter = true
  /-- The letter breaks no line. -/
  noBreak : breaksLine letter = false

/-- Any other character is written as an escape by a letter or by its number. -/
theorem escapeDouble_cases {c : Char} (h : isRaw c = false) :
    (∃ letter, escapeLetter? c = some letter ∧ escapeDouble c = ['\\', letter]) ∨
      ∃ letter width, IsCode letter width ∧ c.toNat < 16 ^ width ∧
        escapeDouble c = '\\' :: letter :: Text.hexText width c.toNat := by
  have hnot : (isWritable c && !breaksLine c && c ≠ '"' && c ≠ '\\') = false := h
  have hvalid : c.toNat < 0xD800 ∨ (0xDFFF < c.toNat ∧ c.toNat < 0x110000) := c.valid
  rw [escapeDouble, hnot, if_neg Bool.false_ne_true]
  split
  · next letter hletter => exact .inl ⟨letter, hletter, rfl⟩
  · dsimp only
    split_ifs with h8 h16
    · exact .inr ⟨'x', 2, ⟨rfl, rfl, by decide, rfl, rfl⟩, by omega, rfl⟩
    · exact .inr ⟨'u', 4, ⟨rfl, rfl, by decide, rfl, rfl⟩, by omega, rfl⟩
    · exact .inr ⟨'U', 8, ⟨rfl, rfl, by decide, rfl, rfl⟩, by omega, rfl⟩

/-- An escape by a letter is undone. -/
theorem readEscape_letter {c letter : Char} (h : letterEscape? letter = some c) (more : List Char)
    (m : Mark) :
    readEscape { rest := '\\' :: letter :: more, mark := m } =
      .ok (c, { rest := more, mark := m.after ['\\', letter] }) := by
  simp only [readEscape, Cursor.peek, List.getElem?_cons_succ, List.getElem?_cons_zero, h]
  exact congrArg (fun d => Except.ok (c, d)) (Cursor.drop_append ['\\', letter] more m)

/-- An escape by a number is undone. -/
theorem readEscape_code {c letter : Char} {width : Nat} (h : IsCode letter width)
    (hc : c.toNat < 16 ^ width) (more : List Char) (m : Mark) :
    readEscape { rest := '\\' :: letter :: (Text.hexText width c.toNat ++ more), mark := m } =
      .ok (c, { rest := more, mark := m.after ('\\' :: letter :: Text.hexText width c.toNat) }) := by
  have hlength : (Text.hexText width c.toNat).length = width := Text.length_hexText h.pos hc
  have htake : (Text.hexText width c.toNat ++ more).take width = Text.hexText width c.toNat :=
    List.take_left' hlength
  have hdrop := Cursor.drop_append ('\\' :: letter :: Text.hexText width c.toNat) more m
  rw [List.length_cons, List.length_cons, hlength] at hdrop
  simp only [readEscape, Cursor.peek, List.getElem?_cons_succ, List.getElem?_cons_zero,
    h.noLetter, h.code, List.drop_succ_cons, List.drop_zero, htake, hlength, Nat.lt_irrefl,
    if_false, Text.hexNumber?_hexText, Option.bind_some, Text.scalar?_toNat]
  exact congrArg (fun d => Except.ok (c, d)) hdrop

/-- **An escape is undone**: what is written for a character is read as that character. -/
theorem readEscape_escapeDouble {c : Char} (h : isRaw c = false) (more : List Char) (m : Mark) :
    readEscape { rest := escapeDouble c ++ more, mark := m } =
      .ok (c, { rest := more, mark := m.after (escapeDouble c) }) := by
  rcases escapeDouble_cases h with ⟨letter, hletter, hc⟩ | ⟨letter, width, hcode, hlt, hc⟩
  · rw [hc]
    exact readEscape_letter (letterEscape?_escapeLetter? hletter).1 more m
  · rw [hc]
    exact readEscape_code hcode hlt more m

/-! ### What is written in double quotes -/

/-- A letter or digit can be written and breaks no line. -/
theorem writable_of_alphanum {c : Char} (h : c.isAlphanum = true) :
    isWritable c = true ∧ breaksLine c = false := by
  have hrange : 48 ≤ c.toNat ∧ c.toNat ≤ 122 := by
    have hclass : (decide (65 ≤ c.toNat ∧ c.toNat ≤ 90) ||
        decide (97 ≤ c.toNat) && decide (c.toNat ≤ 122) ||
        decide (48 ≤ c.toNat) && decide (c.toNat ≤ 57)) = true := h
    simp only [Bool.or_eq_true, Bool.and_eq_true, decide_eq_true_eq] at hclass
    omega
  refine ⟨?_, ?_⟩
  · simp [isWritable]
    omega
  · rw [← Bool.not_eq_true]
    intro hbreak
    simp only [breaksLine, Bool.or_eq_true, beq_iff_eq] at hbreak
    rcases hbreak with (((rfl | rfl) | rfl) | rfl) | rfl <;> exact absurd h (by decide)

/-- Hexadecimal digits are letters and digits. -/
theorem alphanum_of_mem_toDigits {n : Nat} {c : Char}
    (h : c ∈ (Nat.toDigits 16 n).map Char.toUpper) : c.isAlphanum = true := by
  have hall : ∀ m < 16, (Nat.digitChar m).toUpper.isAlphanum = true := by decide
  induction n using Nat.strongRecOn with
  | ind n ih =>
      rcases Nat.lt_or_ge n 16 with hlt | hge
      · rw [Nat.toDigits_of_lt_base hlt, List.map_singleton, List.mem_singleton] at h
        rw [h]
        exact hall n hlt
      · rw [Nat.toDigits_of_base_le (by decide) hge, List.map_append, List.mem_append,
          List.map_singleton, List.mem_singleton] at h
        rcases h with h | rfl
        · exact ih (n / 16) (by omega) h
        · exact hall _ (Nat.mod_lt n (by decide))

/-- A hexadecimal text is made of letters and digits. -/
theorem alphanum_of_mem_hexText {width n : Nat} {c : Char} (h : c ∈ Text.hexText width n) :
    c.isAlphanum = true := by
  rw [Text.hexText, List.mem_append] at h
  rcases h with h | h
  · rw [(List.mem_replicate.mp h).2]
    rfl
  · exact alphanum_of_mem_toDigits h

/-- What is written in double quotes can be written and breaks no line. -/
theorem writable_of_mem_escapeDouble {c x : Char} (h : x ∈ escapeDouble c) :
    isWritable x = true ∧ breaksLine x = false := by
  cases hc : isRaw c with
  | true =>
      rw [escapeDouble_of_isRaw hc, List.mem_singleton] at h
      simp only [isRaw, Bool.and_eq_true, Bool.not_eq_true'] at hc
      rw [h]
      exact hc.1.1
  | false =>
      rcases escapeDouble_cases hc with ⟨letter, hletter, heq⟩ | ⟨letter, width, hcode, -, heq⟩
      · rw [heq, List.mem_cons, List.mem_singleton] at h
        rcases h with rfl | rfl
        · exact ⟨rfl, rfl⟩
        · exact (letterEscape?_escapeLetter? hletter).2
      · rw [heq, List.mem_cons, List.mem_cons] at h
        rcases h with rfl | rfl | h
        · exact ⟨rfl, rfl⟩
        · exact ⟨hcode.writable, hcode.noBreak⟩
        · exact writable_of_alphanum (alphanum_of_mem_hexText h)

/-! ### Steps of the reader -/

section Steps

variable {m : Mark} (hm : m.column ≠ 0) (fuel : Nat)

include hm

/-- A character that is no blank and has no meaning in the quotes stands for itself. -/
theorem readQuotedFrom_char {double : Bool} {c : Char} (hgap : isGapOrBreak c = false)
    (hsingle : c = '\'' → double = true)
    (hdouble : c = '"' ∨ c = '\\' → double = false) (more : List Char) :
    readQuotedFrom double (fuel + 1) { rest := c :: more, mark := m } =
      (readQuotedFrom double fuel { rest := more, mark := m.after [c] }).map fun (s, last) =>
        (c :: s, last) := by
  have hboundary := Cursor.isAtBoundary_of_column (c := { rest := c :: more, mark := m }) hm
  have h1 : (c == '\'' && !double) = false := by
    by_cases hc : c = '\''
    · simp [hc, hsingle hc]
    · simp [hc]
  have h2 : (c == '"' && double) = false := by
    by_cases hc : c = '"'
    · simp [hdouble (.inl hc)]
    · simp [hc]
  have h3 : (c == '\\' && double) = false := by
    by_cases hc : c = '\\'
    · simp [hdouble (.inr hc)]
    · simp [hc]
  rw [readQuotedFrom, hboundary]
  simp only [h1, h2, h3, hgap, Bool.false_eq_true, if_false, List.singleton_append]
  rfl

/-- A run of blanks and line breaks is folded. -/
theorem readQuotedFrom_gap (double : Bool) {run rest : List Char} (hne : run ≠ [])
    (hrun : ∀ c ∈ run, isGapOrBreak c = true) (hrest : Text.Stops isGapOrBreak rest) :
    readQuotedFrom double (fuel + 1) { rest := run ++ rest, mark := m } =
      (readQuotedFrom double fuel { rest, mark := m.after run }).map fun (s, last) =>
        (foldGap run ++ s, last) := by
  obtain ⟨c, run, rfl⟩ := List.exists_cons_of_ne_nil hne
  have hboundary :=
    Cursor.isAtBoundary_of_column (c := { rest := c :: run ++ rest, mark := m }) hm
  have hc : isGapOrBreak c = true := hrun c (List.mem_cons_self ..)
  have hother : ∀ x : Char, isGapOrBreak x = false → (c == x) = false := by
    intro x hx
    rw [beq_eq_false_iff_ne]
    rintro rfl
    rw [hx] at hc
    exact Bool.noConfusion hc
  have hspan := Cursor.span_append hrun hrest m
  rw [readQuotedFrom, hboundary]
  rw [List.cons_append] at hspan ⊢
  simp only [hother '\'' rfl, hother '"' rfl, hother '\\' rfl, hc, hspan, Bool.false_and,
    Bool.false_eq_true, if_false, if_true]

/-- An escape stands for its character. -/
theorem readQuotedFrom_escape {c : Char} (hc : isRaw c = false) (more : List Char) :
    readQuotedFrom true (fuel + 1) { rest := escapeDouble c ++ more, mark := m } =
      (readQuotedFrom true fuel { rest := more, mark := m.after (escapeDouble c) }).map
        fun (s, last) => (c :: s, last) := by
  have hboundary :=
    Cursor.isAtBoundary_of_column (c := { rest := escapeDouble c ++ more, mark := m }) hm
  have hread := readEscape_escapeDouble hc more m
  have hbreak : ∀ x ∈ escapeDouble c, isBreak x = false := by
    intro x hx
    have hnoBreak := (writable_of_mem_escapeDouble hx).2
    simp only [breaksLine, Bool.or_eq_false_iff] at hnoBreak
    simp only [isBreak, hnoBreak, Bool.or_false]
  obtain ⟨letter, behind, heq⟩ : ∃ letter behind, escapeDouble c = '\\' :: letter :: behind := by
    rcases escapeDouble_cases hc with ⟨letter, -, heq⟩ | ⟨letter, width, -, -, heq⟩
    · exact ⟨letter, [], heq⟩
    · exact ⟨letter, _, heq⟩
  have hletter : isBreak letter = false := hbreak letter (by simp [heq])
  rw [readQuotedFrom, hboundary]
  rw [heq] at hread ⊢
  rw [List.cons_append, List.cons_append] at hread ⊢
  simp only [hread, hletter, List.head?_cons, Option.map_some, Option.getD_some,
    Bool.false_eq_true, if_false, Bool.not_true, Bool.and_false, beq_self_eq_true, Bool.and_self,
    if_true]
  rfl

/-- Two single quotes stand for one. -/
theorem readQuotedFrom_doubled (more : List Char) :
    readQuotedFrom false (fuel + 1) { rest := '\'' :: '\'' :: more, mark := m } =
      (readQuotedFrom false fuel { rest := more, mark := m.after ['\'', '\''] }).map
        fun (s, last) => ('\'' :: s, last) := by
  have hboundary :=
    Cursor.isAtBoundary_of_column (c := { rest := '\'' :: '\'' :: more, mark := m }) hm
  rw [readQuotedFrom, hboundary]
  rfl

/-- A quote that is not doubled ends the scalar. -/
theorem readQuotedFrom_close (double : Bool) {more : List Char}
    (hmore : double = false → more.head? ≠ some '\'') :
    readQuotedFrom double (fuel + 1)
        { rest := (if double then '"' else '\'') :: more, mark := m } =
      .ok ([], { rest := more, mark := m.step (if double then '"' else '\'') }) := by
  have hboundary := Cursor.isAtBoundary_of_column
    (c := { rest := (if double then '"' else '\'') :: more, mark := m }) hm
  rw [readQuotedFrom, hboundary]
  cases double with
  | true => rfl
  | false =>
      have hhead : (more.head? == some '\'') = false := by simpa using hmore rfl
      simp only [Bool.false_eq_true, if_false, hhead]
      rfl

end Steps

/-! ### Texts in double quotes -/

/-- A line break of the reader breaks lines for the writer. -/
theorem breaksLine_of_isBreak {c : Char} (h : isBreak c = true) : breaksLine c = true := by
  simp only [isBreak, Bool.or_eq_true, beq_iff_eq] at h
  rcases h with (rfl | rfl) | rfl <;> rfl

/-- What breaks no line for the writer is no line break of the reader. -/
theorem isBreak_eq_false {c : Char} (h : breaksLine c = false) : isBreak c = false := by
  rw [← Bool.not_eq_true] at h ⊢
  exact fun hbreak => h (breaksLine_of_isBreak hbreak)

/-- A character that can be written and breaks no line is a blank only if it is a space. -/
theorem isGapOrBreak_eq_false {c : Char} (hwritable : isWritable c = true)
    (hbreak : breaksLine c = false) (hspace : c ≠ ' ') : isGapOrBreak c = false := by
  have htab : c ≠ '\t' := by
    rintro rfl
    exact absurd hwritable (by decide)
  simp [isGapOrBreak, isGap, hspace, htab, isBreak_eq_false hbreak]

/-- What is written in double quotes stops blanks if the text does not begin with a space. -/
theorem stops_double {cs : List Char} (h : Text.Stops (· == ' ') cs) (rest : List Char) :
    Text.Stops isGapOrBreak (cs.flatMap escapeDouble ++ '"' :: rest) := by
  rcases cs with - | ⟨c, cs⟩
  · exact Text.stops_cons.mpr rfl
  · have hspace : c ≠ ' ' := by simpa using Text.stops_cons.mp h
    rw [List.flatMap_cons]
    cases hc : isRaw c with
    | true =>
        rw [escapeDouble_of_isRaw hc, List.singleton_append, List.cons_append, Text.stops_cons]
        simp only [isRaw, Bool.and_eq_true, Bool.not_eq_true'] at hc
        exact isGapOrBreak_eq_false hc.1.1.1 hc.1.1.2 hspace
    | false =>
        rcases escapeDouble_cases hc with ⟨letter, -, heq⟩ | ⟨letter, width, -, -, heq⟩ <;>
          rw [heq, List.cons_append, List.cons_append, Text.stops_cons] <;> rfl

/-- The writing of a text in double quotes, quote included. -/
def doubleTail (cs : List Char) : List Char := cs.flatMap escapeDouble ++ ['"']

/-- A text in double quotes is read back up to its end with some fuel. -/
def ReadsDouble (rest : List Char) (fuel : Nat) (cs : List Char) : Prop :=
  ∀ m : Mark, m.column ≠ 0 →
    readQuotedFrom true fuel { rest := cs.flatMap escapeDouble ++ '"' :: rest, mark := m } =
      .ok (cs, { rest, mark := m.after (doubleTail cs) })

/-- An escaped character is read back before a text. -/
theorem ReadsDouble.escaped {fuel : Nat} {c : Char} {cs rest : List Char} (hc : isRaw c = false)
    (h : ReadsDouble rest fuel cs) : ReadsDouble rest (fuel + 1) (c :: cs) := by
  intro m hm
  have hcolumn : (m.after (escapeDouble c)).column ≠ 0 :=
    Mark.column_after_ne_zero hm fun x hx => isBreak_eq_false (writable_of_mem_escapeDouble hx).2
  rw [List.flatMap_cons, List.append_assoc, readQuotedFrom_escape hm fuel hc, h _ hcolumn]
  simp [Except.map, doubleTail, Mark.after_append]

/-- Blanks are read back before a text. -/
theorem ReadsDouble.blanks {fuel : Nat} {run cs rest : List Char} (hne : run ≠ [])
    (hrun : ∀ x ∈ run, x = ' ')
    (hstops : Text.Stops isGapOrBreak (cs.flatMap escapeDouble ++ '"' :: rest))
    (h : ReadsDouble rest fuel cs) : ReadsDouble rest (fuel + 1) (run ++ cs) := by
  intro m hm
  have hblank : ∀ x ∈ run, isGapOrBreak x = true ∧ isBreak x = false ∧ escapeDouble x = [x] := by
    intro x hx
    rw [hrun x hx]
    exact ⟨rfl, rfl, rfl⟩
  have hwritten : run.flatMap escapeDouble = run := by
    rw [List.flatMap_congr (g := fun x => [x]), List.flatMap_singleton']
    exact fun x hx => (hblank x hx).2.2
  have hcolumn := Mark.column_after_ne_zero hm fun x hx => (hblank x hx).2.1
  rw [List.flatMap_append, hwritten, List.append_assoc,
    readQuotedFrom_gap hm fuel true hne (fun x hx => (hblank x hx).1) hstops, h _ hcolumn,
    foldGap_of_no_break fun x hx => (hblank x hx).2.1]
  simp [Except.map, doubleTail, hwritten, Mark.after_append]

/-- A character that is written as it is, and no blank, is read back before a text. -/
theorem ReadsDouble.cons {fuel : Nat} {c : Char} {cs rest : List Char} (hc : isRaw c = true)
    (hspace : c ≠ ' ') (h : ReadsDouble rest fuel cs) : ReadsDouble rest (fuel + 1) (c :: cs) := by
  intro m hm
  have hraw : isWritable c = true ∧ breaksLine c = false := by
    simp only [isRaw, Bool.and_eq_true, Bool.not_eq_true'] at hc
    exact hc.1.1
  have hgap : isGapOrBreak c = false := isGapOrBreak_eq_false hraw.1 hraw.2 hspace
  have hdouble : c = '"' ∨ c = '\\' → true = false := by
    rintro (rfl | rfl) <;> exact absurd hc (by decide)
  have hcolumn : (m.after [c]).column ≠ 0 :=
    Mark.column_after_ne_zero hm (by simp [isBreak_eq_false hraw.2])
  rw [List.flatMap_cons, escapeDouble_of_isRaw hc, List.singleton_append, List.cons_append,
    readQuotedFrom_char hm fuel hgap (fun _ => rfl) hdouble, h _ hcolumn]
  simp [Except.map, doubleTail, escapeDouble_of_isRaw hc, Mark.after_cons]

/-- A text in double quotes is read back up to its end: runs of blanks as a whole, all else
character by character. -/
theorem readsDouble {cs : List Char} (rest : List Char) {fuel : Nat} (hfuel : cs.length < fuel) :
    ReadsDouble rest fuel cs := by
  induction fuel generalizing cs with
  | zero => omega
  | succ fuel ih =>
      rcases cs with - | ⟨c, cs⟩
      · exact fun m hm => readQuotedFrom_close hm fuel true (by simp)
      cases hc : isRaw c with
      | false => exact .escaped hc (ih (Nat.lt_of_succ_lt_succ hfuel))
      | true =>
          by_cases hspace : c = ' '
          · obtain ⟨run, cs', heq, hrun, hcs', hne⟩ :=
              @Text.exists_run_of_head (· == ' ') c (by simpa using hspace) cs
            have hpos : 0 < run.length := List.length_pos_of_ne_nil hne
            rw [heq, List.length_append] at hfuel
            rw [heq]
            exact .blanks hne (by simpa using hrun) (stops_double hcs' rest) (ih (by omega))
          · exact .cons hc hspace (ih (Nat.lt_of_succ_lt_succ hfuel))

/-- Writing in double quotes makes no text shorter. -/
theorem length_le_flatMap_escapeDouble (cs : List Char) :
    cs.length ≤ (cs.flatMap escapeDouble).length := by
  induction cs with
  | nil => exact Nat.le_refl _
  | cons c cs ih =>
      have hpos : 0 < (escapeDouble c).length := by
        cases hc : isRaw c with
        | true =>
            rw [escapeDouble_of_isRaw hc]
            exact Nat.one_pos
        | false =>
            rcases escapeDouble_cases hc with ⟨letter, -, heq⟩ | ⟨letter, width, -, -, heq⟩ <;>
              rw [heq] <;> exact Nat.succ_pos _
      rw [List.flatMap_cons, List.length_append, List.length_cons]
      omega

/-- **A text in double quotes is read back.** -/
theorem readQuoted_double (cs rest : List Char) {m : Mark} (hm : m.column ≠ 0) :
    readQuoted true { rest := doubleTail cs ++ rest, mark := m } =
      .ok (cs, { rest, mark := m.after (doubleTail cs) }) := by
  have hlen : cs.length ≤ (cs.flatMap escapeDouble).length := length_le_flatMap_escapeDouble cs
  have hfuel : cs.length < (doubleTail cs ++ rest).length + 1 := by
    rw [doubleTail, List.length_append, List.length_append]
    omega
  rw [readQuoted]
  simp only [doubleTail, List.append_assoc, List.singleton_append] at hfuel ⊢
  exact readsDouble rest hfuel m hm

/-! ### Texts in single quotes -/

/-- A text that can stand in single quotes. -/
structure IsSingle (cs : List Char) : Prop where
  /-- The text has neither tabs nor line feeds. -/
  blanks : ∀ c ∈ cs, c ≠ '\t' ∧ c ≠ '\n'
  /-- Its line breaks are such for the reader too. -/
  breaks : ∀ c ∈ cs, breaksLine c = true → isBreak c = true
  /-- No blank stands behind a line break. -/
  breakSpace : hasPair breaksLine (· == ' ') cs = false
  /-- No line break stands behind a blank. -/
  spaceBreak : hasPair (· == ' ') breaksLine cs = false

/-- A text without a pair has none in what is left of it. -/
theorem hasPair_append {p q : Char → Bool} {cs ds : List Char}
    (h : hasPair p q (cs ++ ds) = false) : hasPair p q ds = false := by
  induction cs with
  | nil => exact h
  | cons c cs ih =>
      refine ih ?_
      rcases hrest : cs ++ ds with - | ⟨d, rest⟩
      · rfl
      · rw [List.cons_append, hrest, hasPair, Bool.or_eq_false_iff] at h
        exact h.2

/-- Behind a run of characters of the one class stands none of the other. -/
theorem stops_of_hasPair {p q : Char → Bool} {run rest : List Char} (hne : run ≠ [])
    (hrun : ∀ c ∈ run, p c = true) (h : hasPair p q (run ++ rest) = false) :
    Text.Stops q rest := by
  rcases rest with - | ⟨d, rest⟩
  · exact Text.stops_nil q
  · obtain ⟨start, c, rfl⟩ := (List.eq_nil_or_concat run).resolve_left hne
    rw [List.concat_eq_append, List.append_assoc] at h
    have hpair := hasPair_append h
    rw [List.singleton_append, hasPair, Bool.or_eq_false_iff, hrun c (by simp),
      Bool.true_and] at hpair
    exact Text.stops_cons.mpr hpair.1

/-- What is left of a text can stand in single quotes if the text can. -/
theorem IsSingle.of_append {cs ds : List Char} (h : IsSingle (cs ++ ds)) : IsSingle ds where
  blanks c hc := h.blanks c (List.mem_append_right _ hc)
  breaks c hc := h.breaks c (List.mem_append_right _ hc)
  breakSpace := hasPair_append h.breakSpace
  spaceBreak := hasPair_append h.spaceBreak

/-- The writing of a text in single quotes, quote included. -/
def singleTail (column : Nat) (cs : List Char) : List Char := writeSingle column false cs ++ ['\'']

/-- Characters that break no line and are no quotes are written as they are. -/
theorem writeSingle_append {column : Nat} {run : List Char}
    (h : ∀ c ∈ run, breaksLine c = false ∧ c ≠ '\'') (cs : List Char) :
    writeSingle column false (run ++ cs) = run ++ writeSingle column false cs := by
  induction run with
  | nil => rfl
  | cons c run ih =>
      rw [List.forall_mem_cons] at h
      have hquote : (c == '\'') = false := by simpa using h.1.2
      rw [List.cons_append, writeSingle, h.1.1, hquote, ih h.2]
      simp

/-- Line breaks are written as they are, and behind them the next line is indented. -/
theorem writeSingle_breaks {column : Nat} {run : List Char} (hne : run ≠ [])
    (h : ∀ c ∈ run, breaksLine c = true) {cs : List Char} (hcs : Text.Stops breaksLine cs)
    (afterBreak : Bool) :
    writeSingle column afterBreak (run ++ cs) =
      run ++ (pad column ++ writeSingle column false cs) := by
  induction run generalizing afterBreak with
  | nil => exact absurd rfl hne
  | cons c run ih =>
      rw [List.forall_mem_cons] at h
      rw [List.cons_append, writeSingle, h.1, if_pos rfl]
      rcases run with - | ⟨d, run⟩
      · rcases cs with - | ⟨e, cs⟩
        · simp [writeSingle]
        · have he : breaksLine e = false := Text.stops_cons.mp hcs
          simp [writeSingle, he]
      · rw [ih (List.cons_ne_nil _ _) h.2]
        rfl

/-- What is written in single quotes stops blanks where the text does. -/
theorem stops_single {column : Nat} {cs : List Char} (hcs : IsSingle cs)
    (hspace : Text.Stops (· == ' ') cs) (hbreak : Text.Stops breaksLine cs) (rest : List Char) :
    Text.Stops isGapOrBreak (writeSingle column false cs ++ '\'' :: rest) := by
  rcases cs with - | ⟨c, cs⟩
  · exact Text.stops_cons.mpr rfl
  · rw [Text.stops_cons] at hspace hbreak
    have htab := (hcs.blanks c (List.mem_cons_self ..)).1
    have hc : isGapOrBreak c = false := by
      simp only [isGapOrBreak, isGap, hspace, isBreak_eq_false hbreak, Bool.or_false, Bool.false_or]
      simpa using htab
    by_cases hquote : c = '\''
    · simp [writeSingle, hquote, Text.stops_cons, breaksLine, isGapOrBreak, isGap, isBreak]
    · simp [writeSingle, hbreak, hquote, Text.stops_cons, hc]

/-- A text in single quotes is read back up to its end with some fuel. -/
def ReadsSingle (column : Nat) (rest : List Char) (fuel : Nat) (cs : List Char) : Prop :=
  ∀ m : Mark, m.column ≠ 0 →
    readQuotedFrom false fuel { rest := writeSingle column false cs ++ '\'' :: rest, mark := m } =
      .ok (cs, { rest, mark := m.after (singleTail column cs) })

/-- Blanks are read back before a text. -/
theorem ReadsSingle.blanks {column fuel : Nat} {run cs rest : List Char} (hne : run ≠ [])
    (hrun : ∀ x ∈ run, x = ' ')
    (hstops : Text.Stops isGapOrBreak (writeSingle column false cs ++ '\'' :: rest))
    (h : ReadsSingle column rest fuel cs) : ReadsSingle column rest (fuel + 1) (run ++ cs) := by
  intro m hm
  have hplain : ∀ x ∈ run, breaksLine x = false ∧ x ≠ '\'' := by
    intro x hx
    rw [hrun x hx]
    decide
  have hblank : ∀ x ∈ run, isBreak x = false := fun x hx => isBreak_eq_false (hplain x hx).1
  have hgap : ∀ x ∈ run, isGapOrBreak x = true := by
    intro x hx
    rw [hrun x hx]
    rfl
  rw [writeSingle_append hplain, List.append_assoc,
    readQuotedFrom_gap hm fuel false hne hgap hstops, h _ (Mark.column_after_ne_zero hm hblank),
    foldGap_of_no_break hblank]
  simp [Except.map, singleTail, writeSingle_append hplain, Mark.after_append]

/-- Line breaks are read back before a text, whose first line is indented. -/
theorem ReadsSingle.breaks {column fuel : Nat} (hcolumn : column ≠ 0) {run cs rest : List Char}
    (hne : run ≠ []) (hrun : ∀ x ∈ run, breaksLine x = true)
    (hfeeds : ∀ x ∈ run, isBreak x = true ∧ x ≠ '\n') (hcs : Text.Stops breaksLine cs)
    (hstops : Text.Stops isGapOrBreak (writeSingle column false cs ++ '\'' :: rest))
    (h : ReadsSingle column rest fuel cs) : ReadsSingle column rest (fuel + 1) (run ++ cs) := by
  intro m hm
  have hpad : ∀ x ∈ pad column, x = ' ' := fun x hx => (List.mem_replicate.mp hx).2
  have hgap : ∀ x ∈ run ++ pad column, isGapOrBreak x = true := by
    intro x hx
    rcases List.mem_append.mp hx with hx | hx
    · rw [isGapOrBreak, (hfeeds x hx).1, Bool.or_true]
    · rw [hpad x hx]
      rfl
  have hnext : (m.after (run ++ pad column)).column ≠ 0 := by
    rw [Mark.after_append, pad, Mark.after_replicate_blank,
      Mark.column_after_breaks m hne fun x hx => (hfeeds x hx).1, Nat.zero_add]
    exact hcolumn
  rw [writeSingle_breaks hne hrun hcs, List.append_assoc, List.append_assoc,
    ← List.append_assoc run, readQuotedFrom_gap hm fuel false (by simp [hne]) hgap hstops,
    h _ hnext, foldGap_append_blanks hne hfeeds fun x hx => by rw [hpad x hx]; rfl]
  simp [Except.map, singleTail, writeSingle_breaks hne hrun hcs, Mark.after_append]

/-- A character that is no blank is read back before a text, a quote from two of them. -/
theorem ReadsSingle.cons {column fuel : Nat} {c : Char} {cs rest : List Char}
    (hbreak : breaksLine c = false) (hgap : isGapOrBreak c = false)
    (h : ReadsSingle column rest fuel cs) : ReadsSingle column rest (fuel + 1) (c :: cs) := by
  intro m hm
  by_cases hquote : c = '\''
  · subst hquote
    have hnext : (m.after ['\'', '\'']).column ≠ 0 :=
      Mark.column_after_ne_zero hm (by simp [isBreak_eq_false hbreak])
    have hwritten : writeSingle column false ('\'' :: cs) =
        '\'' :: '\'' :: writeSingle column false cs := rfl
    rw [hwritten, List.cons_append, List.cons_append, readQuotedFrom_doubled hm fuel, h _ hnext]
    simp [Except.map, singleTail, hwritten, Mark.after_cons]
  · have hnext : (m.after [c]).column ≠ 0 :=
      Mark.column_after_ne_zero hm (by simp [isBreak_eq_false hbreak])
    have hwritten : writeSingle column false (c :: cs) = c :: writeSingle column false cs := by
      rw [← List.singleton_append, writeSingle_append (by simp [hbreak, hquote])]
      rfl
    rw [hwritten, List.cons_append,
      readQuotedFrom_char hm fuel hgap (fun h => absurd h hquote) (fun _ => rfl), h _ hnext]
    simp [Except.map, singleTail, hwritten, Mark.after_cons]

/-- A text in single quotes is read back up to its end: runs of blanks and of line breaks as a
whole, all else character by character. -/
theorem readsSingle {column : Nat} (hcolumn : column ≠ 0) {cs rest : List Char}
    (hcs : IsSingle cs) (hrest : rest.head? ≠ some '\'') {fuel : Nat} (hfuel : cs.length < fuel) :
    ReadsSingle column rest fuel cs := by
  induction fuel generalizing cs with
  | zero => omega
  | succ fuel ih =>
      rcases cs with - | ⟨c, cs⟩
      · exact fun m hm => readQuotedFrom_close hm fuel false fun _ => hrest
      by_cases hspace : c = ' '
      · obtain ⟨run, cs', heq, hrun, hcs', hne⟩ :=
          @Text.exists_run_of_head (· == ' ') c (by simpa using hspace) cs
        rw [heq] at hcs hfuel ⊢
        have hpos : 0 < run.length := List.length_pos_of_ne_nil hne
        have hstops := stops_of_hasPair hne hrun hcs.spaceBreak
        rw [List.length_append] at hfuel
        exact .blanks hne (by simpa using hrun) (stops_single hcs.of_append hcs' hstops rest)
          (ih hcs.of_append (by omega))
      · cases hbreak : breaksLine c with
        | true =>
            obtain ⟨run, cs', heq, hrun, hcs', hne⟩ := Text.exists_run_of_head hbreak cs
            rw [heq] at hcs hfuel ⊢
            have hpos : 0 < run.length := List.length_pos_of_ne_nil hne
            have hstops := stops_of_hasPair hne hrun hcs.breakSpace
            have hfeeds : ∀ x ∈ run, isBreak x = true ∧ x ≠ '\n' := fun x hx =>
              ⟨hcs.breaks x (List.mem_append_left _ hx) (hrun x hx),
                (hcs.blanks x (List.mem_append_left _ hx)).2⟩
            rw [List.length_append] at hfuel
            exact .breaks hcolumn hne hrun hfeeds hcs'
              (stops_single hcs.of_append hstops hcs' rest) (ih hcs.of_append (by omega))
        | false =>
            have htab := (hcs.blanks c (List.mem_cons_self ..)).1
            have hgap : isGapOrBreak c = false := by
              simp [isGapOrBreak, isGap, hspace, htab, isBreak_eq_false hbreak]
            rw [List.length_cons] at hfuel
            exact .cons hbreak hgap (ih (@IsSingle.of_append [c] cs hcs) (by omega))

/-- Writing in single quotes makes no text shorter. -/
theorem length_le_writeSingle (column : Nat) (afterBreak : Bool) (cs : List Char) :
    cs.length ≤ (writeSingle column afterBreak cs).length := by
  induction cs generalizing afterBreak with
  | nil => exact Nat.zero_le _
  | cons c cs ih =>
      rw [writeSingle]
      split
      · exact Nat.succ_le_succ (ih true)
      · have hrest := ih false
        rw [List.length_append, List.length_append, List.length_cons]
        have hpos : 1 ≤ (if c == '\'' then [c, c] else [c]).length := by split <;> simp
        omega

/-- **A text in single quotes is read back.** -/
theorem readQuoted_single {column : Nat} (hcolumn : column ≠ 0) {cs : List Char}
    (hcs : IsSingle cs) {rest : List Char} (hrest : rest.head? ≠ some '\'') {m : Mark}
    (hm : m.column ≠ 0) :
    readQuoted false { rest := singleTail column cs ++ rest, mark := m } =
      .ok (cs, { rest, mark := m.after (singleTail column cs) }) := by
  have hlen := length_le_writeSingle column false cs
  have hfuel : cs.length < (singleTail column cs ++ rest).length + 1 := by
    rw [singleTail, List.length_append, List.length_append]
    omega
  rw [readQuoted]
  simp only [singleTail, List.append_assoc, List.singleton_append] at hfuel ⊢
  exact readsSingle hcolumn hcs hrest hfuel m hm

end JsonWorkbench.Yaml
