import JsonWorkbench.Proofs.Yaml.Quoted
import JsonWorkbench.Yaml.Block
import JsonWorkbench.Yaml.Printer
import Mathlib.Data.List.Basic

/-!
# Reading Literal Blocks

The lines of a literal block are read back as they were written, and the line breaks at its end as
the header says. What follows a block is either a line that begins further to the left, or the end
of the text. A text may have lost the line feeds at its end; a block that ends there has then lost
them too, whatever its header promises.

The reader goes line by line. It holds back the break behind a line and those of the empty lines
that follow, because only the next line or the end of the block decides on them; the invariant of
the induction says that the lines so far, what is held back and the rest of the content together
are the content.

## Main definitions

* `Behind` — what stands behind a block.
* `Lines` — a text as lines with the line breaks behind them.
* `BlockLines.Holds` — what is read of lines.

## Main results

* `exists_readLines` — the lines of a block.
* `readBlock_line`, `readBlock_finish` — a block that is followed by a line, and one that is not.
-/

namespace JsonWorkbench.Yaml

/-- What stands behind a block: a line that begins in a column with a character, or nothing. -/
inductive Behind where
  /-- A line. -/
  | line (column : Nat) (first : Char) (rest : List Char)
  /-- The end of the text. -/
  | finish

namespace Behind

/-- The column of the line; the end has none. -/
def column : Behind → Nat
  | .line column _ _ => column
  | .finish => 0

/-- The text from the first character of the line on. -/
def rest : Behind → List Char
  | .line _ first rest => first :: rest
  | .finish => []

/-- A line stands to the left of a column, and its first character is no blank. -/
def IsLeftOf (margin : Nat) : Behind → Prop
  | .line column first _ => column < margin ∧ isGapOrBreak first = false
  | .finish => True

/-- The place of the first character of the line; the end may have any place. -/
def IsAt (m : Mark) : Behind → Prop
  | .line column _ _ => m.column = column
  | .finish => True

end Behind

/-! ### Empty lines -/

/-- Whether a column belongs to the indentation; while that is not known every column does. -/
def isInside (indent : Option Nat) (column : Nat) : Bool :=
  match indent with
  | some n => decide (column < n)
  | none => true

/-- One character of empty lines. -/
theorem readEmptyLines_cons (indent : Option Nat) (deepest : Nat) (c : Char) (cs : List Char)
    (m : Mark) :
    readEmptyLines indent deepest (c :: cs) m =
      if isInside indent m.column && c == ' ' then readEmptyLines indent deepest cs (m.step c)
      else if isInside indent m.column && c == '\t' then .error (m.line + 1)
      else if isBreak c then
        (readEmptyLines indent (max deepest m.column) cs (m.step c)).map fun lines =>
          { lines with breaks := c :: lines.breaks }
      else .ok { breaks := [], deepest := max deepest m.column, behind := ⟨c :: cs, m⟩ } :=
  rfl

/-- Line breaks are empty lines. -/
theorem readEmptyLines_breaks (indent : Option Nat) (deepest : Nat) {breaks : List Char}
    (h : ∀ c ∈ breaks, isBreak c = true) (rest : List Char) {m : Mark} (hm : m.column = 0) :
    readEmptyLines indent deepest (breaks ++ rest) m =
      (readEmptyLines indent deepest rest (m.after breaks)).map fun lines =>
        { lines with breaks := breaks ++ lines.breaks } := by
  induction breaks generalizing m with
  | nil =>
      rw [List.nil_append, Mark.after_nil]
      cases readEmptyLines indent deepest rest m <;> rfl
  | cons c breaks ih =>
      rw [List.forall_mem_cons] at h
      have hspace : (c == ' ') = false := by
        rw [beq_eq_false_iff_ne]
        rintro rfl
        exact absurd h.1 (by decide)
      have htab : (c == '\t') = false := by
        rw [beq_eq_false_iff_ne]
        rintro rfl
        exact absurd h.1 (by decide)
      have hnext : (m.step c).column = 0 := by rw [Mark.step_of_break m h.1]
      rw [List.cons_append, readEmptyLines_cons, hspace, htab, h.1, hm, Nat.max_zero, ih h.2 hnext,
        Mark.after_cons]
      simp only [Bool.and_false, Bool.false_eq_true, if_false, if_true]
      cases readEmptyLines indent deepest rest ((m.step c).after breaks) <;> rfl

/-- Blanks up to the indentation belong to it. -/
theorem readEmptyLines_blanks {indent : Option Nat} (deepest : Nat) {n : Nat} (rest : List Char)
    {m : Mark} (h : ∀ k, indent = some k → m.column + n ≤ k) :
    readEmptyLines indent deepest (pad n ++ rest) m =
      readEmptyLines indent deepest rest (m.after (pad n)) := by
  induction n generalizing m with
  | zero => rfl
  | succ n ih =>
      have hinside : isInside indent m.column = true := by
        rcases indent with - | k
        · rfl
        · have hk := h k rfl
          exact decide_eq_true (by omega)
      have hpad : pad (n + 1) = ' ' :: pad n := List.replicate_succ
      have hnext : ∀ k, indent = some k → (m.step ' ').column + n ≤ k := by
        intro k hk
        have hle := h k hk
        have hstep : (m.step ' ').column = m.column + 1 := rfl
        omega
      rw [hpad, List.cons_append, readEmptyLines_cons, hinside, Mark.after_cons, ← ih hnext]
      rfl

/-- Empty lines end where the text does, or at a character that neither breaks the line nor is a
blank of the indentation. -/
theorem readEmptyLines_stop {indent : Option Nat} (deepest : Nat) {rest : List Char} {m : Mark}
    (h : ∀ c cs, rest = c :: cs → isBreak c = false ∧
      ((∃ k, indent = some k ∧ k ≤ m.column) ∨ isGapOrBreak c = false)) :
    readEmptyLines indent deepest rest m =
      .ok { breaks := [], deepest := max deepest m.column, behind := ⟨rest, m⟩ } := by
  rcases rest with - | ⟨c, cs⟩
  · rfl
  · obtain ⟨hbreak, hstop⟩ := h c cs rfl
    rw [readEmptyLines_cons, hbreak]
    rcases hstop with ⟨k, rfl, hk⟩ | hgap
    · have hoff : isInside (some k) m.column = false := decide_eq_false (by omega)
      simp [hoff]
    · have hne : (c == ' ') = false ∧ (c == '\t') = false := by
        simp only [isGapOrBreak, isGap, Bool.or_eq_false_iff] at hgap
        exact hgap.1
      rw [hne.1, hne.2]
      simp

/-- Behind empty lines and an indentation the place is that far from the start of its line. -/
theorem column_after_lines {breaks : List Char} (hbreaks : ∀ c ∈ breaks, isBreak c = true) (n : Nat)
    {m : Mark} (hm : m.column = 0) : (m.after (breaks ++ pad n)).column = n := by
  have hcolumn : (m.after breaks).column = 0 := by
    rcases breaks with - | ⟨b, breaks⟩
    · exact hm
    · exact Mark.column_after_breaks m (List.cons_ne_nil _ _) hbreaks
  rw [Mark.after_append, pad, Mark.after_replicate_blank, hcolumn, Nat.zero_add]

/-- **Empty lines and the indentation of the next line**, or of what stands behind the block. -/
theorem readEmptyLines_lines {indent : Option Nat} (deepest : Nat) {breaks : List Char}
    (hbreaks : ∀ c ∈ breaks, isBreak c = true) {n : Nat} (hn : ∀ k, indent = some k → n ≤ k)
    {rest : List Char} (hrest : ∀ c cs, rest = c :: cs → isBreak c = false ∧
      ((∃ k, indent = some k ∧ k ≤ n) ∨ isGapOrBreak c = false))
    {m : Mark} (hm : m.column = 0) :
    readEmptyLines indent deepest (breaks ++ (pad n ++ rest)) m =
      .ok { breaks, deepest := max deepest n,
            behind := ⟨rest, m.after (breaks ++ pad n)⟩ } := by
  have hcolumn : (m.after breaks).column = 0 := by
    rcases breaks with - | ⟨b, breaks⟩
    · exact hm
    · exact Mark.column_after_breaks m (List.cons_ne_nil _ _) hbreaks
  have hplace := column_after_lines hbreaks n hm
  rw [readEmptyLines_breaks indent deepest hbreaks _ hm,
    readEmptyLines_blanks deepest rest (by simpa [hcolumn] using hn), ← Mark.after_append,
    readEmptyLines_stop deepest (by rwa [hplace]), hplace]
  simp [Except.map]

/-! ### What is written -/

/-- Line breaks at the start of a line are written as they are. -/
theorem writeLiteral_breaks {column : Nat} {breaks : List Char}
    (h : ∀ c ∈ breaks, breaksLine c = true) (cs : List Char) :
    writeLiteral column true (breaks ++ cs) = breaks ++ writeLiteral column true cs := by
  induction breaks with
  | nil => rfl
  | cons c breaks ih =>
      rw [List.forall_mem_cons] at h
      rw [List.cons_append, writeLiteral, h.1, if_pos rfl, ih h.2, List.cons_append]

/-- The characters of a line are written as they are. -/
theorem writeLiteral_line (column : Nat) {line : List Char}
    (h : ∀ c ∈ line, breaksLine c = false) (cs : List Char) :
    writeLiteral column false (line ++ cs) = line ++ writeLiteral column false cs := by
  induction line with
  | nil => rfl
  | cons c line ih =>
      rw [List.forall_mem_cons] at h
      rw [List.cons_append, writeLiteral, h.1, ih h.2]
      simp

/-- A line that is not empty is indented. -/
theorem writeLiteral_indent {column : Nat} {cs : List Char} (hne : cs ≠ [])
    (h : Text.Stops breaksLine cs) :
    writeLiteral column true cs = pad column ++ writeLiteral column false cs := by
  obtain ⟨c, cs, rfl⟩ := List.exists_cons_of_ne_nil hne
  rw [Text.stops_cons] at h
  rw [writeLiteral, writeLiteral, h]
  simp

/-- The content of a block from a line on, whose indentation has been read, with what stands
behind the block. -/
def contentFrom (column : Nat) (cs : List Char) (behind : Behind) : List Char :=
  if cs = [] then behind.rest
  else writeLiteral column false cs ++ (pad behind.column ++ behind.rest)

/-- The indentation of the line with which content begins, or of the line behind the block. -/
def leadOf (column : Nat) (cs : List Char) (behind : Behind) : Nat :=
  if cs = [] then behind.column else column

/-- Content at the start of a line is the indentation of its first line and the content from
there on. -/
theorem writeLiteral_contentFrom {column : Nat} {cs : List Char} (h : Text.Stops breaksLine cs)
    (behind : Behind) :
    writeLiteral column true cs ++ (pad behind.column ++ behind.rest) =
      pad (leadOf column cs behind) ++ contentFrom column cs behind := by
  by_cases hcs : cs = []
  · subst hcs
    rfl
  · rw [writeLiteral_indent hcs h, leadOf, contentFrom, if_neg hcs, if_neg hcs, List.append_assoc]

/-- A line of content, its break and those of empty lines, and what follows. -/
theorem contentFrom_line (column : Nat) {line breaks more : List Char} {b : Char}
    (hline : ∀ c ∈ line, breaksLine c = false) (hb : breaksLine b = true)
    (hbreaks : ∀ c ∈ breaks, breaksLine c = true) (hmore : Text.Stops breaksLine more)
    (behind : Behind) :
    contentFrom column (line ++ b :: (breaks ++ more)) behind =
      line ++ b :: (breaks ++ (pad (leadOf column more behind) ++
        contentFrom column more behind)) := by
  rw [contentFrom, if_neg (by simp), writeLiteral_line column hline, writeLiteral, if_pos hb,
    writeLiteral_breaks hbreaks, ← writeLiteral_contentFrom hmore]
  simp only [List.append_assoc, List.cons_append]

/-- What follows empty lines is indented at most as the lines are. -/
theorem leadOf_le {column : Nat} {behind : Behind} (hbehind : behind.IsLeftOf column)
    (cs : List Char) : leadOf column cs behind ≤ column := by
  rw [leadOf]
  split
  · cases behind with
    | finish => exact Nat.zero_le _
    | line column' first rest => exact Nat.le_of_lt hbehind.1
  · exact Nat.le_refl _

/-- What follows empty lines begins with no line break, and with no blank unless it stands where
the lines begin. -/
theorem contentFrom_cons {column : Nat} {behind : Behind} (hbehind : behind.IsLeftOf column)
    {cs : List Char} (hstops : Text.Stops isBreak cs) (hstopsWriter : Text.Stops breaksLine cs)
    {c : Char} {rest : List Char} (h : contentFrom column cs behind = c :: rest) :
    isBreak c = false ∧ (column ≤ leadOf column cs behind ∨ isGapOrBreak c = false) := by
  rcases cs with - | ⟨d, cs⟩
  · rw [contentFrom, if_pos rfl] at h
    cases behind with
    | finish => exact absurd h (by simp [Behind.rest])
    | line column' first rest' =>
        obtain ⟨rfl, rfl⟩ := List.cons.inj h
        have hgap := hbehind.2
        simp only [isGapOrBreak, Bool.or_eq_false_iff] at hgap
        exact ⟨hgap.2, .inr hbehind.2⟩
  · rw [Text.stops_cons] at hstops hstopsWriter
    rw [contentFrom, if_neg (by simp), writeLiteral, hstopsWriter] at h
    obtain ⟨rfl, -⟩ := List.cons.inj h
    have hlead : leadOf column (d :: cs) behind = column := if_neg (List.cons_ne_nil d cs)
    exact ⟨hstops, .inl (Nat.le_of_eq hlead.symm)⟩

/-! ### Lines -/

/-- Lines whose last one is not empty: what is held back begins with the break behind it. -/
structure BlockLines.IsFull (b : BlockLines) : Prop where
  /-- The last line is not empty. -/
  last : ∃ start c, b.text = start ++ [c] ∧ isBreak c = false
  /-- Only line breaks are held back. -/
  breaks : ∀ c ∈ b.final.toList ++ b.tail, isBreak c = true
  /-- Without a break behind the last line there are no empty lines. -/
  tail : b.final = none → b.tail = []

/-- The content begins in the column of its lines, and what stands behind it in another one. -/
structure Aligned (column : Nat) (cs : List Char) (behind : Behind) (m : Mark) : Prop where
  /-- A line begins in its column. -/
  content : cs ≠ [] → m.column = column
  /-- What stands behind begins in its own. -/
  behind : cs = [] → behind.IsAt m

/-- Behind the indentation of what follows, the content is in its place. -/
theorem aligned_of_lead {column : Nat} {cs : List Char} {behind : Behind} {m : Mark}
    (h : m.column = leadOf column cs behind) : Aligned column cs behind m := by
  constructor
  · intro hcs
    rw [h, leadOf, if_neg hcs]
  · intro hcs
    rw [leadOf, if_pos hcs] at h
    cases behind with
    | finish => trivial
    | line column' first rest => exact h

/-- What is held back before a line is put in front of it. -/
theorem joinLines_literal (apart : Bool) (final : Option Char) (tail : List Char) :
    joinLines true apart final tail = final.toList ++ tail := by
  cases final <;> simp [joinLines]

/-- The line that is next, with the empty lines behind it and the indentation of the line that
follows them. -/
theorem readLines_line {column : Nat} {line : List Char}
    (hline : ∀ c ∈ line, isBreak c = false) {b : Char} (hb : isBreak b = true) {breaks : List Char}
    (hbreaks : ∀ c ∈ breaks, isBreak c = true) {lead : Nat} (hlead : lead ≤ column)
    {rest : List Char} (hrest : ∀ c cs, rest = c :: cs → isBreak c = false ∧
      (column ≤ lead ∨ isGapOrBreak c = false))
    {m : Mark} (hm : m.column = column) (fuel : Nat) (final : Option Char) (afterBlank : Bool)
    (tail : List Char) :
    ∃ atBlank, readLines true column (fuel + 1) final afterBlank tail
        { rest := line ++ b :: (breaks ++ (pad lead ++ rest)), mark := m } =
      (readLines true column fuel (some b) atBlank breaks
        { rest, mark := m.after (line ++ b :: (breaks ++ pad lead)) }).map fun r =>
          { r with text := final.toList ++ tail ++ line ++ r.text } := by
  have hempty : (line ++ b :: (breaks ++ (pad lead ++ rest))).isEmpty = false := by simp
  have hstop : Text.Stops (!isBreak ·) (b :: (breaks ++ (pad lead ++ rest))) := by
    rw [Text.stops_cons, hb]
    rfl
  have hspan := Cursor.span_append (p := (!isBreak ·)) (by simpa using hline) hstop m
  have hcolumn : ((m.after line).step b).column = 0 := by rw [Mark.step_of_break _ hb]
  have hwithin : ∀ k, some column = some k → lead ≤ k := by simpa using hlead
  have hends : ∀ c cs, rest = c :: cs → isBreak c = false ∧
      ((∃ k, some column = some k ∧ k ≤ lead) ∨ isGapOrBreak c = false) := by
    simpa using hrest
  have hnext := readEmptyLines_lines 0 hbreaks hwithin hends hcolumn
  rw [readLines]
  simp only [hempty, hm, beq_self_eq_true, Bool.not_false, Bool.and_self, if_true, hspan,
    Cursor.next, hnext, List.head?_cons, joinLines_literal]
  rw [Mark.after_append m line, Mark.after_cons]
  exact ⟨_, rfl⟩

/-- The line with which the text ends. -/
theorem readLines_last {column : Nat} {line : List Char} (hne : line ≠ [])
    (hline : ∀ c ∈ line, isBreak c = false) {m : Mark} (hm : m.column = column) (fuel : Nat)
    (final : Option Char) (afterBlank : Bool) (tail : List Char) :
    readLines true column (fuel + 1) final afterBlank tail { rest := line, mark := m } =
      .ok { text := final.toList ++ tail ++ line, final := none, tail := [],
            behind := { rest := [], mark := m.after line } } := by
  have hempty : line.isEmpty = false := by simpa using hne
  have hspan := Cursor.span_append (p := (!isBreak ·)) (by simpa using hline)
    (Text.stops_nil (!isBreak ·)) m
  rw [List.append_nil] at hspan
  have hnone : ∀ (atBlank : Bool) (m : Mark),
      readLines true column fuel none atBlank [] { rest := [], mark := m } =
        .ok { text := [], final := none, tail := [], behind := { rest := [], mark := m } } := by
    intro atBlank m
    cases fuel <;> simp [readLines]
  rw [readLines]
  simp only [hempty, hm, beq_self_eq_true, Bool.not_false, Bool.and_self, if_true, hspan,
    Cursor.next, readEmptyLines, List.head?_nil, hnone, joinLines_literal, Except.map,
    List.append_nil]

/-- A text as lines that are not empty, each with the line breaks behind it; the last one needs no
break where the text ends with the block. -/
inductive Lines (behind : Behind) : List Char → Prop
  /-- There is no line. -/
  | nil : Lines behind []
  /-- A line without a break behind it. -/
  | last {line : List Char} (hne : line ≠ []) (hline : ∀ c ∈ line, isBreak c = false)
      (hbehind : behind = .finish) : Lines behind line
  /-- A line, its break and those of empty lines, and more lines. -/
  | line {line breaks more : List Char} {b : Char} (hne : line ≠ [])
      (hline : ∀ c ∈ line, isBreak c = false) (hb : isBreak b = true)
      (hbreaks : ∀ c ∈ breaks, isBreak c = true) (hstops : Text.Stops isBreak more)
      (hmore : Lines behind more) : Lines behind (line ++ b :: (breaks ++ more))

/-- A text that begins with a line, and that ends with a break or with the whole, has lines. -/
theorem lines_of_stops {behind : Behind} {cs : List Char} (hstart : Text.Stops isBreak cs)
    (hend : behind = .finish ∨ Text.Stops (!isBreak ·) cs.reverse) : Lines behind cs := by
  induction hn : cs.length using Nat.strongRecOn generalizing cs with
  | ind n ih =>
      subst hn
      obtain ⟨line, after, rfl, hline, hafter⟩ := Text.exists_run (!isBreak ·) cs
      simp only [Bool.not_eq_true'] at hline
      rcases after with - | ⟨b, after⟩
      · rw [List.append_nil] at hstart hend ih ⊢
        rcases List.eq_nil_or_concat line with rfl | ⟨start, last, rfl⟩
        · exact .nil
        · refine .last (by simp) hline (hend.resolve_right fun h => ?_)
          rw [List.concat_eq_append, List.reverse_append, List.reverse_singleton,
            List.singleton_append, Text.stops_cons, hline last (by simp)] at h
          exact absurd h (by decide)
      · have hb : isBreak b = true := by simpa [Text.stops_cons] using hafter
        have hne : line ≠ [] := by
          rintro rfl
          rw [List.nil_append, Text.stops_cons, hb] at hstart
          exact absurd hstart (by decide)
        obtain ⟨breaks, more, rfl, hbreaks, hmore⟩ := Text.exists_run isBreak after
        refine .line hne hline hb hbreaks hmore (ih more.length ?_ hmore ?_ rfl)
        · simp only [List.length_append, List.length_cons]
          omega
        · refine hend.imp_right fun h c hc => h c ?_
          rw [List.reverse_append, List.reverse_cons, List.reverse_append, List.append_assoc,
            List.append_assoc, List.head?_append, hc]
          rfl

/-- What is read of lines that follow a line break, unless they are the first ones, and the breaks
of empty lines: the lines with what stands before them, what is held back, and nothing else. -/
structure BlockLines.Holds (b : BlockLines) (behind : Behind) (final : Option Char)
    (tail cs : List Char) : Prop where
  /-- The reader stands at what is behind the block. -/
  behind : ∃ place, b.behind = { rest := behind.rest, mark := place } ∧ behind.IsAt place
  /-- Nothing is lost, and nothing is added. -/
  text : b.text ++ (b.final.toList ++ b.tail) = final.toList ++ tail ++ cs
  /-- Without a line, what stands before is still held back. -/
  nil : cs = [] → b.text = [] ∧ b.final = final ∧ b.tail = tail
  /-- With one, it is not. -/
  full : cs ≠ [] → b.IsFull

/-- What is no line break for the reader is none for the writer. -/
theorem stops_breaksLine {cs : List Char} (hbreaks : ∀ c ∈ cs, breaksLine c = isBreak c)
    (hstops : Text.Stops isBreak cs) : Text.Stops breaksLine cs := fun c hc => by
  rw [hbreaks c (List.mem_of_mem_head? hc), hstops c hc]

variable {column : Nat} {behind : Behind}

/-- Behind the last line the reading ends. -/
theorem exists_readLines_nil (hbehind : behind.IsLeftOf column) {m : Mark}
    (hm : Aligned column [] behind m) (fuel : Nat) (final : Option Char) (afterBlank : Bool)
    (tail : List Char) :
    ∃ b, readLines true column (fuel + 1) final afterBlank tail
        { rest := contentFrom column [] behind, mark := m } = .ok b ∧
      b.Holds behind final tail [] := by
  have hstop : (m.column == column && !behind.rest.isEmpty) = false := by
    cases behind with
    | finish => simp [Behind.rest]
    | line column' first rest =>
        have hplace : m.column = column' := hm.behind rfl
        have hlt : column' < column := hbehind.1
        have hne : (m.column == column) = false := by
          rw [beq_eq_false_iff_ne]
          omega
        rw [hne, Bool.false_and]
  refine ⟨{ text := [], final, tail, behind := { rest := behind.rest, mark := m } }, ?_, ?_⟩
  · rw [contentFrom, if_pos rfl, readLines]
    simp only [hstop, Bool.false_eq_true, if_false]
  · exact ⟨⟨m, rfl, hm.behind rfl⟩, by simp, fun _ => ⟨rfl, rfl, rfl⟩, fun h => absurd rfl h⟩

/-- A line that ends the text is the last one. -/
theorem exists_readLines_last {line : List Char} (hne : line ≠ [])
    (hline : ∀ c ∈ line, isBreak c = false) (hbreaks : ∀ c ∈ line, breaksLine c = isBreak c)
    {m : Mark} (hm : m.column = column) (fuel : Nat) (final : Option Char) (afterBlank : Bool)
    (tail : List Char) :
    ∃ b, readLines true column (fuel + 1) final afterBlank tail
        { rest := contentFrom column line .finish, mark := m } = .ok b ∧
      b.Holds .finish final tail line := by
  obtain ⟨start, last, rfl⟩ := (List.eq_nil_or_concat' line).resolve_left hne
  have hcontent : contentFrom column (start ++ [last]) .finish = start ++ [last] := by
    have hlast : ∀ c ∈ start ++ [last], breaksLine c = false := by
      intro c hc
      rw [hbreaks c hc, hline c hc]
    have hwritten := writeLiteral_line column hlast []
    rw [List.append_nil] at hwritten
    rw [contentFrom, if_neg hne, hwritten]
    simp [writeLiteral, pad, Behind.column, Behind.rest]
  rw [hcontent, readLines_last hne hline hm]
  refine ⟨_, rfl, ⟨_, rfl, trivial⟩, by simp, fun h => absurd h hne, fun _ => ?_⟩
  exact ⟨⟨final.toList ++ tail ++ start, last, by simp, hline last (by simp)⟩, by simp,
    fun _ => rfl⟩

/-- A line, its break and the breaks of empty lines are held in front of more lines. -/
theorem BlockLines.Holds.line {r : BlockLines} {line breaks more : List Char} {b : Char}
    (hne : line ≠ []) (hline : ∀ c ∈ line, isBreak c = false) (hb : isBreak b = true)
    (hempty : ∀ c ∈ breaks, isBreak c = true) (hr : r.Holds behind (some b) breaks more)
    (final : Option Char) (tail : List Char) :
    BlockLines.Holds { r with text := final.toList ++ tail ++ line ++ r.text } behind final tail
      (line ++ b :: (breaks ++ more)) := by
  refine ⟨hr.behind, ?_, fun h => by simp at h, fun _ => ?_⟩
  · rw [List.append_assoc _ r.text, hr.text]
    simp
  · by_cases hmore : more = []
    · obtain ⟨htext, hfinal, htail⟩ := hr.nil hmore
      obtain ⟨start, last, rfl⟩ := (List.eq_nil_or_concat' line).resolve_left hne
      refine ⟨⟨final.toList ++ tail ++ start, last, by simp [htext], hline last (by simp)⟩, ?_, ?_⟩
      · rw [hfinal, htail]
        exact List.forall_mem_cons.mpr ⟨hb, hempty⟩
      · rw [hfinal]
        simp
    · obtain ⟨⟨start, last, htext, hstays⟩, hheld, htail⟩ := hr.full hmore
      refine ⟨⟨final.toList ++ tail ++ line ++ start, last, ?_, hstays⟩, hheld, htail⟩
      simp only [htext, List.append_assoc]

/-- **The lines of a block** are read one by one. -/
theorem exists_readLines (hbehind : behind.IsLeftOf column) {cs : List Char}
    (hcs : Lines behind cs) (hbreaks : ∀ c ∈ cs, breaksLine c = isBreak c) {m : Mark}
    (hm : Aligned column cs behind m) {fuel : Nat} (hfuel : cs.length < fuel)
    (final : Option Char) (afterBlank : Bool) (tail : List Char) :
    ∃ b, readLines true column fuel final afterBlank tail
        { rest := contentFrom column cs behind, mark := m } = .ok b ∧
      b.Holds behind final tail cs := by
  induction hcs generalizing m fuel final afterBlank tail with
  | nil =>
      obtain ⟨fuel, rfl⟩ := Nat.exists_eq_succ_of_ne_zero (Nat.ne_of_gt hfuel)
      exact exists_readLines_nil hbehind hm fuel final afterBlank tail
  | @last line hne hline hfinish =>
      subst hfinish
      obtain ⟨fuel, rfl⟩ := Nat.exists_eq_succ_of_ne_zero (Nat.ne_of_gt (Nat.zero_lt_of_lt hfuel))
      exact exists_readLines_last hne hline hbreaks (hm.content hne) fuel final afterBlank tail
  | @line line breaks more b hne hline hb hempty hstops hmore ih =>
      obtain ⟨fuel, rfl⟩ := Nat.exists_eq_succ_of_ne_zero (Nat.ne_of_gt (Nat.zero_lt_of_lt hfuel))
      have hwriter : ∀ c ∈ more, breaksLine c = isBreak c := fun c hc => hbreaks c (by simp [hc])
      have hstopsWriter := stops_breaksLine hwriter hstops
      have hlineWriter : ∀ c ∈ line, breaksLine c = false := by
        intro c hc
        rw [hbreaks c (List.mem_append_left _ hc), hline c hc]
      have hcontent := contentFrom_line column hlineWriter (breaksLine_of_isBreak hb)
        (fun c hc => breaksLine_of_isBreak (hempty c hc)) hstopsWriter behind
      obtain ⟨atBlank, hread⟩ := readLines_line hline hb hempty (leadOf_le hbehind more)
        (fun _ _ => contentFrom_cons hbehind hstops hstopsWriter) (hm.content (by simp)) fuel final
        afterBlank tail
      have haligned : Aligned column more behind
          (m.after (line ++ b :: (breaks ++ pad (leadOf column more behind)))) := by
        have hnext : ((m.after line).step b).column = 0 := by rw [Mark.step_of_break _ hb]
        refine aligned_of_lead ?_
        rw [Mark.after_append, Mark.after_cons, column_after_lines hempty _ hnext]
      have hless : more.length < fuel := by
        simp only [List.length_append, List.length_cons] at hfuel
        omega
      obtain ⟨r, hr, hholds⟩ := ih hwriter haligned hless (some b) atBlank breaks
      rw [hcontent, hread, hr]
      exact ⟨_, rfl, hholds.line hne hline hb hempty final tail⟩

/-- Lines that end in a known way: the last line that is not empty, and the breaks behind it. -/
theorem BlockLines.IsFull.split {b : BlockLines} (h : b.IsFull) {start breaks : List Char}
    {c : Char} (hc : isBreak c = false) (hbreaks : ∀ c ∈ breaks, isBreak c = true)
    (heq : b.text ++ (b.final.toList ++ b.tail) = start ++ [c] ++ breaks) :
    b.text = start ++ [c] ∧ b.final.toList ++ b.tail = breaks := by
  obtain ⟨start', c', htext, hc'⟩ := h.last
  have htrimmed : b.text = start ++ [c] := by
    have hends := congrArg (Text.dropEndWhile isBreak) heq
    rwa [Text.dropEndWhile_append_of_forall h.breaks, Text.dropEndWhile_append_of_forall hbreaks,
      htext, Text.dropEndWhile_concat hc', Text.dropEndWhile_concat hc, ← htext] at hends
  refine ⟨htrimmed, ?_⟩
  rw [htrimmed] at heq
  exact List.append_cancel_left heq

/-! ### Headers -/

/-- What stands in a header for a chomping. -/
def Chomping.mark : Chomping → List Char
  | .strip => ['-']
  | .clip => []
  | .keep => ['+']

/-- The ends of texts for which the writer announces a chomping. -/
inductive EndsAs : Chomping → List Char → Prop
  /-- The text does not end in a line break. -/
  | strip {start : List Char} {c : Char} (hc : breaksLine c = false) : EndsAs .strip (start ++ [c])
  /-- The text ends in one line break, behind a line. -/
  | clip {start : List Char} {c b : Char} (hc : breaksLine c = false) (hb : breaksLine b = true) :
      EndsAs .clip (start ++ [c, b])
  /-- The text ends in a line break, behind another one or none. -/
  | keep {start : List Char} {b : Char} (hb : breaksLine b = true) : EndsAs .keep (start ++ [b])

/-- Whether a text begins with a blank or a line break. -/
def beginsBlank (cs : List Char) : Bool :=
  (cs.head?.map fun c => c == ' ' || breaksLine c).getD false

/-- The header of a text that is not empty. -/
theorem exists_literalHints {cs : List Char} (hne : cs ≠ []) :
    ∃ chomping, EndsAs chomping cs ∧
      literalHints cs = (if beginsBlank cs then ['2'] else []) ++ chomping.mark := by
  obtain ⟨start, b, rfl⟩ := (List.eq_nil_or_concat' cs).resolve_left hne
  cases hb : breaksLine b with
  | false => exact ⟨.strip, .strip hb, by simp [literalHints, beginsBlank, hb, Chomping.mark]⟩
  | true =>
      rcases List.eq_nil_or_concat start with rfl | ⟨start, c, rfl⟩
      · have hends : EndsAs .keep ([] ++ [b]) := .keep hb
        exact ⟨.keep, hends, by simp [literalHints, beginsBlank, hb, Chomping.mark]⟩
      · cases hc : breaksLine c with
        | false =>
            refine ⟨.clip, ?_, by simp [literalHints, beginsBlank, hb, hc, Chomping.mark]⟩
            rw [List.concat_eq_append, List.append_assoc]
            exact .clip hc hb
        | true =>
            exact ⟨.keep, .keep hb, by simp [literalHints, beginsBlank, hb, hc, Chomping.mark]⟩

/-- A line that has nothing more ends. -/
theorem endLine_break (rest : List Char) (m : Mark) :
    Cursor.endLine { rest := '\n' :: rest, mark := m } =
      .ok { rest, mark := m.step '\n' } := by
  rw [Cursor.endLine, Cursor.skipWhile_of_stops (Text.stops_cons.mpr rfl)]
  rfl

/-- **A header with the end of its line.** -/
theorem readHeader_hints (blank : Bool) (chomping : Chomping) (rest : List Char) (m : Mark) :
    readHeader
        { rest := (if blank then ['2'] else []) ++ chomping.mark ++ '\n' :: rest, mark := m } =
      .ok ({ chomping, increment := if blank then some 2 else none },
        { rest, mark := m.after ((if blank then ['2'] else []) ++ chomping.mark ++ ['\n']) }) := by
  cases blank <;> cases chomping <;>
    simp [readHeader, readChomping?, readIncrement, Chomping.mark, Cursor.next, endLine_break,
      Mark.after, Decimal.digitValue, Bind.bind, Except.bind, Pure.pure, Except.pure]

/-! ### Blocks -/

/-- What the reader makes of the content of a block with a chomping. -/
inductive Chomps : Chomping → List Char → List Char → Prop
  /-- The line breaks at the end go. -/
  | strip {start breaks : List Char} {c : Char} (hc : isBreak c = false)
      (hbreaks : ∀ c ∈ breaks, isBreak c = true) :
      Chomps .strip (start ++ [c] ++ breaks) (start ++ [c])
  /-- A single line break stays. -/
  | clip {start breaks : List Char} {c : Char} (hc : isBreak c = false)
      (hbreaks : ∀ c ∈ breaks, isBreak c = true) (hsingle : breaks.length ≤ 1) :
      Chomps .clip (start ++ [c] ++ breaks) (start ++ [c] ++ breaks)
  /-- All line breaks stay. -/
  | keep {cs : List Char} : Chomps .keep cs cs

/-- What a chomping keeps of the line breaks that are held back. -/
def BlockLines.kept (b : BlockLines) : Chomping → List Char
  | .strip => []
  | .clip => b.final.toList
  | .keep => b.final.toList ++ b.tail

/-- What is kept of the lines of a block. -/
theorem BlockLines.kept_of_chomps {b : BlockLines} {chomping : Chomping} {content text : List Char}
    (h : Chomps chomping content text)
    (hall : b.text ++ (b.final.toList ++ b.tail) = content)
    (hfull : (∃ c ∈ content, isBreak c = false) → b.IsFull) :
    b.text ++ b.kept chomping = text := by
  cases h with
  | @strip start breaks c hc hbreaks =>
      obtain ⟨htext, -⟩ := (hfull ⟨c, by simp, hc⟩).split hc hbreaks hall
      rw [htext, kept, List.append_nil]
  | @clip start breaks c hc hbreaks hsingle =>
      have hb : b.IsFull := hfull ⟨c, by simp, hc⟩
      obtain ⟨htext, hheld⟩ := hb.split hc hbreaks hall
      have htail : b.tail = [] := by
        rcases hfinal : b.final with - | f
        · exact hb.tail hfinal
        · rw [← hheld, hfinal] at hsingle
          simpa using hsingle
      rw [← hall, htail, List.append_nil, kept]
  | keep => exact hall

/-- The lines of a literal block are at least as long as the text. -/
theorem length_le_writeLiteral (column : Nat) (afterBreak : Bool) (cs : List Char) :
    cs.length ≤ (writeLiteral column afterBreak cs).length := by
  induction cs generalizing afterBreak with
  | nil => exact Nat.zero_le _
  | cons c cs ih =>
      rw [writeLiteral]
      split
      · exact Nat.succ_le_succ (ih true)
      · rw [List.length_append, List.length_cons, List.length_cons]
        have hle := ih false
        omega

/-- The writer and the reader agree on the line breaks among characters that can be written. -/
theorem breaksLine_of_isWritable {c : Char} (h : isWritable c = true) :
    breaksLine c = isBreak c := by
  have hreturn : (c == '\r') = false ∧ (c == '\u0085') = false := by
    constructor <;> rw [beq_eq_false_iff_ne] <;> rintro rfl <;> exact absurd h (by decide)
  rw [breaksLine, hreturn.1, hreturn.2, Bool.or_false, Bool.or_false, isBreak]

/-- The lines of a block are the empty ones, the indentation of the first of the others, and those
from there on. -/
theorem writeLiteral_lines {column : Nat} {breaks body : List Char}
    (hempty : ∀ c ∈ breaks, isBreak c = true) (hstops : Text.Stops breaksLine body)
    (behind : Behind) :
    writeLiteral column true (breaks ++ body) ++ (pad behind.column ++ behind.rest) =
      breaks ++ (pad (leadOf column body behind) ++ contentFrom column body behind) := by
  rw [writeLiteral_breaks (fun c hc => breaksLine_of_isBreak (hempty c hc)), List.append_assoc,
    writeLiteral_contentFrom hstops]

/-- **The parts of a block**: the header, the empty lines with the indentation, the other lines. -/
theorem readBlock_parts {margin column : Nat} (blank : Bool) (chomping : Chomping)
    {lines : List Char} {m : Mark} {empties : EmptyLines} {b : BlockLines}
    (hempties : readEmptyLines (if blank then some (margin - 1 + 2) else none) 0 lines
      (m.after ((if blank then ['2'] else []) ++ chomping.mark ++ ['\n'])) = .ok empties)
    (hindent : (if blank then some (margin - 1 + 2) else none).getD
      (max empties.deepest (max margin 1)) = column)
    (hread : readLines true column (empties.behind.rest.length + 1) none false empties.breaks
      empties.behind = .ok b) :
    readBlock true margin
        { rest := (if blank then ['2'] else []) ++ chomping.mark ++ '\n' :: lines, mark := m } =
      .ok (b.text ++ b.kept chomping, b.behind) := by
  have hgiven : Option.map (fun n => margin - 1 + n) (if blank then some 2 else none) =
      if blank then some (margin - 1 + 2) else none := by
    cases blank <;> rfl
  rw [readBlock, readHeader_hints]
  simp only [bind, Except.bind, hgiven, hempties, hindent, hread]
  rfl

/-- What is kept of the lines that are read behind empty ones. -/
theorem BlockLines.Holds.kept_eq {b : BlockLines} {behind : Behind} {breaks body text : List Char}
    (h : b.Holds behind none breaks body) (hempty : ∀ c ∈ breaks, isBreak c = true)
    {chomping : Chomping} (hchomps : Chomps chomping (breaks ++ body) text) :
    b.text ++ b.kept chomping = text := by
  refine b.kept_of_chomps hchomps (by simpa using h.text) ?_
  rintro ⟨c, hc, hstays⟩
  refine h.full fun hnobody => ?_
  rw [hnobody, List.append_nil] at hc
  rw [hempty c hc] at hstays
  exact Bool.noConfusion hstays

/-- What follows empty lines is at least as long as the text. -/
theorem length_le_contentFrom (column : Nat) (cs : List Char) (behind : Behind) :
    cs.length ≤ (contentFrom column cs behind).length := by
  rw [contentFrom]
  split
  · next hcs => simp [hcs]
  · have hle := length_le_writeLiteral column false cs
    rw [List.length_append]
    omega

/-- The empty lines of a block and its indentation, which is given in the header if the text begins
with a blank or a line break, and else found. -/
theorem readIndent_literal {margin : Nat} {blank : Bool} {breaks body : List Char}
    (hwritable : ∀ c ∈ breaks ++ body, isWritable c = true) (hstops : Text.Stops isBreak body)
    (hempty : ∀ c ∈ breaks, isBreak c = true)
    (hblank : blank = false → breaks ++ body ≠ [] ∧ beginsBlank (breaks ++ body) = false)
    {behind : Behind} (hbehind : behind.IsLeftOf (margin - 1 + 2)) {m : Mark} (hm : m.column = 0) :
    ∃ deepest,
      readEmptyLines (if blank then some (margin - 1 + 2) else none) 0
          (breaks ++ (pad (leadOf (margin - 1 + 2) body behind) ++
            contentFrom (margin - 1 + 2) body behind)) m =
        .ok { breaks, deepest,
              behind := ⟨contentFrom (margin - 1 + 2) body behind,
                m.after (breaks ++ pad (leadOf (margin - 1 + 2) body behind))⟩ } ∧
      (if blank then some (margin - 1 + 2) else none).getD (max deepest (max margin 1)) =
        margin - 1 + 2 := by
  have hstopsWriter : Text.Stops breaksLine body :=
    stops_breaksLine (fun c hc => breaksLine_of_isWritable (hwritable c (by simp [hc]))) hstops
  cases blank with
  | true =>
      refine ⟨_, readEmptyLines_lines 0 hempty ?_ (fun c cs heq => ?_) hm, rfl⟩
      · rintro k ⟨rfl⟩
        exact leadOf_le hbehind body
      · obtain ⟨hbreak, hplace⟩ := contentFrom_cons hbehind hstops hstopsWriter heq
        exact ⟨hbreak, hplace.imp_left fun h => ⟨_, rfl, h⟩⟩
  | false =>
      obtain ⟨hne, hbegins⟩ := hblank rfl
      have hnone : breaks = [] := by
        rcases breaks with - | ⟨b, breaks⟩
        · rfl
        · simp [beginsBlank, breaksLine_of_isBreak (hempty b (List.mem_cons_self ..))] at hbegins
      subst hnone
      obtain ⟨c, body, rfl⟩ := List.exists_cons_of_ne_nil hne
      have hspace : c ≠ ' ' := by
        rintro rfl
        simp [beginsBlank] at hbegins
      rw [Text.stops_cons] at hstopsWriter
      have hgap := isGapOrBreak_eq_false (hwritable c (by simp)) hstopsWriter hspace
      have hlead : leadOf (margin - 1 + 2) (c :: body) behind = margin - 1 + 2 :=
        if_neg (List.cons_ne_nil c body)
      have hcontent : ∀ d cs,
          contentFrom (margin - 1 + 2) (c :: body) behind = d :: cs → d = c := by
        intro d cs heq
        rw [contentFrom, if_neg (by simp), writeLiteral, hstopsWriter] at heq
        exact (List.cons.inj heq).1.symm
      refine ⟨_, readEmptyLines_lines 0 hempty (by simp) (fun d cs heq => ?_) hm, ?_⟩
      · rw [hcontent d cs heq]
        exact ⟨isBreak_eq_false hstopsWriter, .inr hgap⟩
      · rw [hlead]
        simp only [Option.getD_none, Bool.false_eq_true, if_false]
        omega

/-- **A literal block** is read up to what stands behind it. -/
theorem readBlock_literal {margin : Nat} {blank : Bool} {content text : List Char}
    (hwritable : ∀ c ∈ content, isWritable c = true)
    (hblank : blank = false → content ≠ [] ∧ beginsBlank content = false) {chomping : Chomping}
    (hchomps : Chomps chomping content text) {behind : Behind}
    (hbehind : behind.IsLeftOf (margin - 1 + 2))
    (hend : behind = .finish ∨ Text.Stops (!isBreak ·) content.reverse) (m : Mark) :
    ∃ place, readBlock true margin
        { rest := (if blank then ['2'] else []) ++ chomping.mark ++ '\n' ::
            (writeLiteral (margin - 1 + 2) true content ++ (pad behind.column ++ behind.rest)),
          mark := m } = .ok (text, { rest := behind.rest, mark := place }) ∧
      behind.IsAt place := by
  obtain ⟨breaks, body, rfl, hempty, hstops⟩ := Text.exists_run isBreak content
  have hbody : ∀ c ∈ body, breaksLine c = isBreak c :=
    fun c hc => breaksLine_of_isWritable (hwritable c (List.mem_append_right _ hc))
  have hlines : Lines behind body := by
    refine lines_of_stops hstops (hend.imp_right fun h c hc => h c ?_)
    rw [List.reverse_append, List.head?_append, hc]
    rfl
  obtain ⟨start, hstart⟩ : ∃ start, m.after
      ((if blank then ['2'] else []) ++ chomping.mark ++ ['\n']) = start := ⟨_, rfl⟩
  have hcolumn : start.column = 0 := by
    rw [← hstart, Mark.after_append, Mark.after_cons, Mark.step_of_break _ rfl, Mark.after_nil]
  -- the indentation, given or found, is that of the lines
  obtain ⟨deepest, hempties, hindent⟩ :=
    readIndent_literal hwritable hstops hempty hblank hbehind hcolumn
  have haligned : Aligned (margin - 1 + 2) body behind
      (start.after (breaks ++ pad (leadOf (margin - 1 + 2) body behind))) :=
    aligned_of_lead (column_after_lines hempty _ hcolumn)
  obtain ⟨b, hread, hholds⟩ := exists_readLines hbehind hlines hbody haligned
    (Nat.lt_succ_of_le (length_le_contentFrom (margin - 1 + 2) body behind)) none false breaks
  obtain ⟨place, hbehindb, hplace⟩ := hholds.behind
  refine ⟨place, ?_, hplace⟩
  subst hstart
  rw [writeLiteral_lines hempty (stops_breaksLine hbody hstops),
    readBlock_parts blank chomping hempties hindent hread, hholds.kept_eq hempty hchomps, hbehindb]

/-! ### What the writer makes of a text -/

/-- A line break at the end is written as it is. -/
theorem writeLiteral_concat_break (column : Nat) (afterBreak : Bool) (cs : List Char) {b : Char}
    (hb : breaksLine b = true) :
    writeLiteral column afterBreak (cs ++ [b]) = writeLiteral column afterBreak cs ++ [b] := by
  induction cs generalizing afterBreak with
  | nil => simp [writeLiteral, hb]
  | cons c cs ih =>
      rw [List.cons_append, writeLiteral, writeLiteral, ih, ih]
      split
      · rfl
      · rw [List.append_assoc, List.cons_append]

/-- Line feeds at the end are written as they are. -/
theorem writeLiteral_append_feeds (column : Nat) (afterBreak : Bool) (cs : List Char)
    {feeds : List Char} (h : ∀ c ∈ feeds, (c == '\n') = true) :
    writeLiteral column afterBreak (cs ++ feeds) = writeLiteral column afterBreak cs ++ feeds := by
  induction feeds generalizing cs with
  | nil => simp
  | cons b feeds ih =>
      rw [List.forall_mem_cons] at h
      have hb : breaksLine b = true := by simp [breaksLine, h.1]
      rw [List.append_cons, ih _ h.2, writeLiteral_concat_break column afterBreak cs hb]
      simp

/-- The last character is written last. -/
theorem exists_writeLiteral_concat (column : Nat) (afterBreak : Bool) (cs : List Char) (c : Char) :
    ∃ lead, writeLiteral column afterBreak (cs ++ [c]) = lead ++ [c] := by
  induction cs generalizing afterBreak with
  | nil =>
      rw [List.nil_append, writeLiteral, writeLiteral, writeLiteral]
      split
      · exact ⟨[], rfl⟩
      · exact ⟨_, rfl⟩
  | cons d cs ih =>
      rw [List.cons_append, writeLiteral]
      split
      · obtain ⟨lead, hlead⟩ := ih true
        exact ⟨d :: lead, by rw [hlead, List.cons_append]⟩
      · obtain ⟨lead, hlead⟩ := ih false
        refine ⟨(if afterBreak then pad column else []) ++ d :: lead, ?_⟩
        rw [hlead, List.append_assoc, List.cons_append]

/-- What is written behind the bar that begins a literal block. -/
def literalTail (column : Nat) (cs : List Char) : List Char :=
  literalHints cs ++ '\n' :: writeLiteral column true cs

/-- What ends in a known character needs a line feed or not as that character says. -/
theorem endedLine_concat (cs : List Char) (c : Char) :
    endedLine (cs ++ [c]) = if breaksLine c then cs ++ [c] else cs ++ [c, '\n'] := by
  simp [endedLine]

/-- A text ends in a line break, or gets a line feed. -/
theorem endedLine_eq (cs : List Char) :
    (∃ start b, cs = start ++ [b] ∧ breaksLine b = true ∧ endedLine cs = cs) ∨
      endedLine cs = cs ++ ['\n'] := by
  rcases List.eq_nil_or_concat cs with rfl | ⟨start, b, rfl⟩
  · exact .inr rfl
  · rw [List.concat_eq_append, endedLine_concat]
    cases hb : breaksLine b with
    | true => exact .inl ⟨start, b, rfl, hb, if_pos rfl⟩
    | false => exact .inr (by simp)

/-- A text in front makes no difference for the end of a line. -/
theorem endedLine_append (cs : List Char) {ds : List Char} (h : ds ≠ []) :
    endedLine (cs ++ ds) = cs ++ endedLine ds := by
  obtain ⟨start, d, rfl⟩ := (List.eq_nil_or_concat' ds).resolve_left h
  rw [← List.append_assoc, endedLine_concat, endedLine_concat]
  split <;> simp

/-- A block behind which the line ends is the block of a text behind which the line ends. -/
theorem endedLine_literalTail (column : Nat) {cs : List Char} (h : cs ≠ []) :
    endedLine (literalTail column cs) =
      literalHints cs ++ '\n' :: writeLiteral column true (endedLine cs) := by
  obtain ⟨start, c, rfl⟩ := (List.eq_nil_or_concat' cs).resolve_left h
  obtain ⟨lead, hlead⟩ := exists_writeLiteral_concat column true start c
  have htail : literalTail column (start ++ [c]) =
      literalHints (start ++ [c]) ++ '\n' :: lead ++ [c] := by
    rw [literalTail, hlead, List.append_assoc, List.cons_append]
  rw [htail, endedLine_concat, endedLine_concat]
  cases hc : breaksLine c with
  | true =>
      simp only [if_true, hlead]
      simp
  | false =>
      have hfeed : start ++ [c, '\n'] = start ++ [c] ++ ['\n'] := by simp
      simp only [Bool.false_eq_true, if_false]
      rw [hfeed, writeLiteral_concat_break column true (start ++ [c]) rfl, hlead]
      simp

/-- Without the line feeds at its end a block is the block of a text without them, or it is only
the header. -/
theorem dropEndWhile_literalTail (column : Nat) (cs : List Char) :
    Text.dropEndWhile (· == '\n') (literalTail column cs) =
      if Text.dropEndWhile (· == '\n') cs = [] then Text.dropEndWhile (· == '\n') (literalHints cs)
      else literalHints cs ++ '\n' ::
        writeLiteral column true (Text.dropEndWhile (· == '\n') cs) := by
  obtain ⟨feeds, hcs, hfeeds, hlast⟩ := Text.exists_dropEndWhile (· == '\n') cs
  have hwritten : writeLiteral column true cs =
      writeLiteral column true (Text.dropEndWhile (· == '\n') cs) ++ feeds := by
    rw [← writeLiteral_append_feeds column true _ hfeeds, ← hcs]
  have htail : literalTail column cs = literalHints cs ++ '\n' ::
      writeLiteral column true (Text.dropEndWhile (· == '\n') cs) ++ feeds := by
    rw [literalTail, hwritten, List.append_assoc, List.cons_append]
  rw [htail, Text.dropEndWhile_append_of_forall hfeeds]
  rcases hlast with hnone | ⟨start, c, hcore, hc⟩
  · rw [hnone, if_pos rfl, writeLiteral, Text.dropEndWhile_append_of_forall (by simp)]
  · obtain ⟨lead, hlead⟩ := exists_writeLiteral_concat column true start c
    rw [hcore, if_neg (by simp), hlead, ← List.cons_append, ← List.append_assoc,
      Text.dropEndWhile_concat (p := (· == '\n')) hc]

/-! ### Blocks that are written -/

variable {cs : List Char}

/-- A text is read back from a block behind which the line ends. -/
theorem EndsAs.chomps_endedLine {chomping : Chomping} (h : EndsAs chomping cs)
    (hbreaks : ∀ c ∈ cs, breaksLine c = isBreak c) : Chomps chomping (endedLine cs) cs := by
  cases h with
  | @strip start c hc =>
      rw [endedLine_concat, hc, if_neg Bool.false_ne_true]
      have hchomps : Chomps .strip (start ++ [c] ++ ['\n']) (start ++ [c]) :=
        .strip (isBreak_eq_false hc) (List.forall_mem_singleton.mpr rfl)
      simpa using hchomps
  | @clip start c b hc hb =>
      have hended : endedLine (start ++ [c] ++ [b]) = start ++ [c] ++ [b] := by
        rw [endedLine_concat, hb, if_pos rfl]
      have hbreak : ∀ d ∈ [b], isBreak d = true := by
        rw [List.forall_mem_singleton, ← hbreaks b (by simp), hb]
      rw [List.append_cons start c [b], hended]
      exact .clip (isBreak_eq_false hc) hbreak (Nat.le_refl _)
  | @keep start b hb =>
      rw [endedLine_concat, hb, if_pos rfl]
      exact .keep

/-- What is left of a text without the line feeds at its end is read back from a block. -/
theorem EndsAs.chomps_dropEndWhile {chomping : Chomping} (h : EndsAs chomping cs)
    (hbreaks : ∀ c ∈ cs, breaksLine c = isBreak c) :
    Chomps chomping (Text.dropEndWhile (· == '\n') cs) (Text.dropEndWhile (· == '\n') cs) := by
  have hfeed {c : Char} (hc : breaksLine c = false) : (c == '\n') = false := by
    rw [beq_eq_false_iff_ne]
    rintro rfl
    exact absurd hc (by decide)
  cases h with
  | @strip start c hc =>
      rw [Text.dropEndWhile_concat (p := (· == '\n')) (hfeed hc)]
      have hchomps : Chomps .strip (start ++ [c] ++ []) (start ++ [c]) :=
        .strip (isBreak_eq_false hc) (by simp)
      simpa using hchomps
  | @clip start c b hc hb =>
      have hbreak : ∀ d ∈ [b], isBreak d = true := by
        rw [List.forall_mem_singleton, ← hbreaks b (by simp), hb]
      rw [List.append_cons]
      cases hlast : b == '\n' with
      | false =>
          rw [Text.dropEndWhile_concat (p := (· == '\n')) hlast]
          exact .clip (isBreak_eq_false hc) hbreak (Nat.le_refl _)
      | true =>
          rw [Text.dropEndWhile_append_of_forall (by simpa using hlast),
            Text.dropEndWhile_concat (p := (· == '\n')) (hfeed hc)]
          have hchomps : Chomps .clip (start ++ [c] ++ []) (start ++ [c] ++ []) :=
            .clip (isBreak_eq_false hc) (by simp) (by simp)
          simpa using hchomps
  | keep => exact .keep

/-- **A block that a line follows** is read back as its text. -/
theorem readBlock_line (hne : cs ≠ []) (hwritable : ∀ c ∈ cs, isWritable c = true)
    {margin column : Nat} (hcolumn : column < margin - 1 + 2) {first : Char}
    (hfirst : isGapOrBreak first = false) (rest : List Char) (m : Mark) :
    ∃ place, readBlock true margin
        { rest := endedLine (literalTail (margin - 1 + 2) cs) ++ (pad column ++ first :: rest),
          mark := m } = .ok (cs, { rest := first :: rest, mark := place }) ∧
      place.column = column := by
  obtain ⟨chomping, hends, hhints⟩ := exists_literalHints hne
  have hbreaks : ∀ c ∈ cs, breaksLine c = isBreak c :=
    fun c hc => breaksLine_of_isWritable (hwritable c hc)
  have hwritableEnded : ∀ c ∈ endedLine cs, isWritable c = true := by
    intro c hc
    rcases endedLine_eq cs with ⟨start, b, -, -, heq⟩ | heq <;> rw [heq] at hc
    · exact hwritable c hc
    · rcases List.mem_append.mp hc with hc | hc
      · exact hwritable c hc
      · rw [List.mem_singleton.mp hc]
        rfl
  have hend : Text.Stops (!isBreak ·) (endedLine cs).reverse := by
    rcases endedLine_eq cs with ⟨start, b, hcs, hb, heq⟩ | heq
    · rw [hbreaks b (by simp [hcs])] at hb
      rw [heq, hcs, List.reverse_append, List.reverse_singleton, List.singleton_append,
        Text.stops_cons, hb]
      rfl
    · rw [heq, List.reverse_append, List.reverse_singleton, List.singleton_append,
        Text.stops_cons]
      rfl
  have hblank : beginsBlank cs = false →
      endedLine cs ≠ [] ∧ beginsBlank (endedLine cs) = false := by
    intro h
    obtain ⟨c, cs, rfl⟩ := List.exists_cons_of_ne_nil hne
    rcases endedLine_eq (c :: cs) with ⟨start, b, -, -, heq⟩ | heq <;> rw [heq]
    · exact ⟨hne, h⟩
    · exact ⟨by simp, h⟩
  have hbehind : (Behind.line column first rest).IsLeftOf (margin - 1 + 2) := ⟨hcolumn, hfirst⟩
  obtain ⟨place, hread, hplace⟩ := readBlock_literal hwritableEnded hblank
    (hends.chomps_endedLine hbreaks) hbehind (.inr hend) m
  refine ⟨place, ?_, hplace⟩
  rw [endedLine_literalTail _ hne, hhints, List.append_assoc (_ ++ chomping.mark), List.cons_append]
  exact hread

/-- **A block with which the text ends** is read back without the line feeds at its end, if the
text itself has lost those. -/
theorem readBlock_finish (hne : cs ≠ []) (hwritable : ∀ c ∈ cs, isWritable c = true) (margin : Nat)
    (m : Mark) :
    ∃ place, readBlock true margin
        { rest := Text.dropEndWhile (· == '\n') (literalTail (margin - 1 + 2) cs), mark := m } =
      .ok (Text.dropEndWhile (· == '\n') cs, { rest := [], mark := place }) := by
  obtain ⟨chomping, hends, hhints⟩ := exists_literalHints hne
  have hbreaks : ∀ c ∈ cs, breaksLine c = isBreak c :=
    fun c hc => breaksLine_of_isWritable (hwritable c hc)
  obtain ⟨feeds, hcs, hfeeds, -⟩ := Text.exists_dropEndWhile (· == '\n') cs
  have hchomps := hends.chomps_dropEndWhile hbreaks
  rw [dropEndWhile_literalTail]
  by_cases hcore : Text.dropEndWhile (· == '\n') cs = []
  · -- nothing but line feeds: only the header is left
    rw [hcore, List.nil_append] at hcs
    have hall : ∀ c ∈ cs, breaksLine c = true := by
      intro c hc
      rw [hcs] at hc
      simp [breaksLine, hfeeds c hc]
    have hkeep : chomping = .keep := by
      cases hends with
      | @strip start c hc => exact absurd (hall c (by simp)) (by simp [hc])
      | @clip start c b hc hb => exact absurd (hall c (by simp)) (by simp [hc])
      | keep => rfl
    have hblank : beginsBlank cs = true := by
      obtain ⟨c, cs, rfl⟩ := List.exists_cons_of_ne_nil hne
      simp [beginsBlank, hall c (List.mem_cons_self ..)]
    rw [if_pos hcore, hcore, hhints, hkeep, hblank]
    refine ⟨m.after ['2', '+'], ?_⟩
    simp [readBlock, readHeader, readChomping?, readIncrement, Chomping.mark, Text.dropEndWhile,
      Cursor.next, Cursor.endLine, Cursor.skipWhile_of_stops (Text.stops_nil isGap), Cursor.isAt,
      readEmptyLines, readLines, Mark.after, bind, Except.bind, pure, Except.pure]
  · rw [if_neg hcore]
    generalize Text.dropEndWhile (· == '\n') cs = core at *
    have hblank : beginsBlank cs = false → core ≠ [] ∧ beginsBlank core = false := by
      intro h
      obtain ⟨c, core, rfl⟩ := List.exists_cons_of_ne_nil hcore
      rw [hcs] at h
      exact ⟨hcore, h⟩
    have hwritableCore : ∀ c ∈ core, isWritable c = true := by
      intro c hc
      exact hwritable c (by rw [hcs]; exact List.mem_append_left _ hc)
    have hbehind : Behind.finish.IsLeftOf (margin - 1 + 2) := trivial
    obtain ⟨place, hread, -⟩ :=
      readBlock_literal hwritableCore hblank hchomps hbehind (.inl rfl) m
    refine ⟨place, ?_⟩
    rw [hhints]
    simpa [Behind.column, Behind.rest, pad] using hread

end JsonWorkbench.Yaml
