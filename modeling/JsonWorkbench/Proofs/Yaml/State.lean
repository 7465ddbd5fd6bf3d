import JsonWorkbench.Proofs.Yaml.Block
import JsonWorkbench.Yaml.Token.Lexer
import Mathlib.Data.List.TakeWhile

/-!
# States Between Tokens

A step of the lexer first moves to the next token and then takes it. The two halves are looked at
in the other order here: from a state in which a token is next, that token is taken and the state
in which the following one is next is reached. Every such move takes characters, so a run of moves
to the end of the text is what a scan finds.

Outside of brackets a state is known by its tokens, the columns of the open collections, whether a
key may begin and, until its line ends, the candidate for a key.

## Main definitions

* `Lexer.of` — the states outside of brackets.
* `Lexer.ready`, `Lexer.emit` — the two halves of a step.
* `Reaches` — a run of moves.

## Main results

* `ready_pad`, `ready_line` — the next token behind blanks, and on the next line.
* `scanFrom_of_reaches` — a scan finds what a run of moves to the end finds.
-/

namespace JsonWorkbench.Yaml

namespace Lexer

/-- A state outside of all brackets. -/
def of (found : List Token) (columns : List Nat) (keyAllowed : Bool)
    (candidate : Option Candidate) (cursor : Cursor) : Lexer :=
  { cursor, found, count := found.length, columns, candidate, outer := [], keyAllowed }

/-- The state in which the next token is looked at. -/
def ready (s : Lexer) : Except Nat Lexer :=
  s.toNextToken.renewCandidates.map fun s => s.closeBlocks (some s.mark.column)

/-- The state behind the token that is looked at. -/
def emit (s : Lexer) : Except Nat Lexer := do
  let s ←
    match s.cursor.rest with
    | [] => s.takeEnd
    | c :: _ => s.dispatch c
  s.renewCandidates

/-- A step looks for a token and takes it. -/
theorem step_eq (s : Lexer) : s.step = s.ready.bind emit := by
  rw [step, ready]
  cases s.toNextToken.renewCandidates <;> rfl

end Lexer

/-! ### Runs -/

/-- A state in which a token is next leads to another one, token by token. -/
inductive Reaches : Lexer → Lexer → Prop
  /-- No token is taken. -/
  | refl (s : Lexer) : Reaches s s
  /-- A token is taken and the next one looked at. -/
  | move {s t next last : Lexer} (hemit : s.emit = .ok t) (hgoes : t.isDone = false)
      (hready : t.ready = .ok next)
      (hless : next.cursor.rest.length < s.cursor.rest.length) (hrest : Reaches next last) :
      Reaches s last

/-- Runs follow one another. -/
theorem Reaches.trans {r s t : Lexer} (h : Reaches r s) (h' : Reaches s t) : Reaches r t := by
  induction h with
  | refl => exact h'
  | move hemit hgoes hready hless _ ih => exact .move hemit hgoes hready hless (ih h')

/-- **A scan** finds the tokens of a run to the end. -/
theorem scanFrom_of_reaches {s r last t : Lexer} (hready : s.ready = .ok r) (h : Reaches r last)
    (hemit : last.emit = .ok t) (hdone : t.isDone = true) {fuel : Nat}
    (hfuel : r.cursor.rest.length < fuel) :
    scanFrom fuel s = { tokens := t.found.reverse, fault := none } := by
  induction h generalizing s fuel with
  | refl r =>
      obtain ⟨fuel, rfl⟩ := Nat.exists_eq_succ_of_ne_zero (Nat.ne_of_gt (Nat.zero_lt_of_lt hfuel))
      have hstep : s.step = .ok t := by
        rw [Lexer.step_eq, hready]
        exact hemit
      rw [scanFrom, hstep]
      simp only [hdone, if_true]
  | @move r t' next last hemit' hgoes hready' hless _ ih =>
      obtain ⟨fuel, rfl⟩ := Nat.exists_eq_succ_of_ne_zero (Nat.ne_of_gt (Nat.zero_lt_of_lt hfuel))
      have hstep : s.step = .ok t' := by
        rw [Lexer.step_eq, hready]
        exact hemit'
      rw [scanFrom, hstep]
      simp only [hgoes, Bool.false_eq_true, if_false]
      exact ih hready' hemit (by omega)

/-! ### Candidates -/

/-- A candidate that need not become a key, from a line not below another one. -/
def IsIdle (line : Nat) (candidate : Option Candidate) : Prop :=
  ∀ k, candidate = some k → k.required = false ∧ k.mark.line ≤ line

/-- No candidate is idle. -/
theorem isIdle_none (line : Nat) : IsIdle line none := by
  intro k hk
  simp at hk

/-- A candidate stays idle further down. -/
theorem IsIdle.mono {line line' : Nat} {candidate : Option Candidate} (h : IsIdle line candidate)
    (hle : line ≤ line') : IsIdle line' candidate :=
  fun k hk => ⟨(h k hk).1, Nat.le_trans (h k hk).2 hle⟩

/-- An idle candidate may be lost, and is on the next line. -/
theorem IsIdle.renewed {line : Nat} {candidate : Option Candidate} (h : IsIdle line candidate)
    (m : Mark) :
    ∃ kept, Lexer.renewed m candidate = .ok kept ∧ IsIdle line kept ∧
      (line < m.line → kept = none) := by
  rcases candidate with - | k
  · exact ⟨none, rfl, isIdle_none line, fun _ => rfl⟩
  · obtain ⟨hrequired, hline⟩ := h k rfl
    rw [Lexer.renewed, hrequired]
    cases hlasts : Lexer.Candidate.lasts k m with
    | true =>
        refine ⟨some k, rfl, h, fun hlt => ?_⟩
        simp only [Lexer.Candidate.lasts, Bool.and_eq_true, decide_eq_true_eq] at hlasts
        omega
    | false => exact ⟨none, rfl, isIdle_none line, fun _ => rfl⟩

/-- The state outside of brackets in which the candidate has been looked at. -/
theorem renewCandidates_of (found : List Token) (columns : List Nat) (keyAllowed : Bool)
    (candidate : Option Candidate) (cursor : Cursor) :
    (Lexer.of found columns keyAllowed candidate cursor).renewCandidates =
      (Lexer.renewed cursor.mark candidate).map fun kept =>
        Lexer.of found columns keyAllowed kept cursor := by
  cases h : Lexer.renewed cursor.mark candidate <;>
    simp [Lexer.renewCandidates, Lexer.of, Lexer.mark, h, bind, Except.bind, pure, Except.pure,
      Except.map]

/-! ### Blanks -/

/-- A character is neither a blank nor the start of a comment. -/
def StartsToken (c : Char) : Prop := isGapOrBreak c = false ∧ c ≠ '#' ∧ c ≠ '\uFEFF'

/-- A text ends, or a token begins it. -/
def BeginsToken (cs : List Char) : Prop := ∀ c rest, cs = c :: rest → StartsToken c

/-- No token begins where the text ends. -/
theorem beginsToken_nil : BeginsToken [] := by
  intro c rest h
  simp at h

/-- A token begins with its first character. -/
theorem beginsToken_cons {c : Char} (h : StartsToken c) (cs : List Char) :
    BeginsToken (c :: cs) := by
  rintro d ds ⟨rfl, rfl⟩
  exact h

/-- Where a token begins there is nothing to skip. -/
theorem BeginsToken.stops {cs : List Char} (h : BeginsToken cs) : Text.Stops isGapOrBreak cs := by
  rcases cs with - | ⟨c, cs⟩
  · exact Text.stops_nil _
  · exact Text.stops_cons.mpr (h c cs rfl).1

/-- Blanks are skipped up to the next token. -/
theorem skipBlanks_pad (lineKeys : Bool) (fuel : Nat) (keyAllowed : Bool) (n : Nat)
    {cs : List Char} (hcs : BeginsToken cs) (m : Mark) :
    Lexer.skipBlanks lineKeys (fuel + 1) keyAllowed { rest := pad n ++ cs, mark := m } =
      (keyAllowed, { rest := cs, mark := m.after (pad n) }) := by
  have hblanks : ∀ c ∈ pad n, (c == ' ' || (c == '\t' && !keyAllowed)) = true := by
    intro c hc
    rw [(List.mem_replicate.mp hc).2]
    rfl
  have hstops : Text.Stops (fun x => x == ' ' || (x == '\t' && !keyAllowed)) cs := by
    intro c hc
    have hgap := hcs.stops c hc
    simp only [isGapOrBreak, isGap, Bool.or_eq_false_iff] at hgap
    simp [hgap.1]
  rw [Lexer.skipBlanks, Cursor.skipWhile_append hblanks hstops]
  rcases cs with - | ⟨c, cs⟩
  · simp [Cursor.isAt]
  · obtain ⟨hgap, hcomment, -⟩ := hcs c cs rfl
    have hbreak : isBreak c = false := by
      simp only [isGapOrBreak, Bool.or_eq_false_iff] at hgap
      exact hgap.2
    simp [Cursor.isAt, hcomment, hbreak]

/-- A line feed and blanks are skipped up to the next token. -/
theorem skipBlanks_line (lineKeys : Bool) (fuel : Nat) (keyAllowed : Bool) (n : Nat)
    {cs : List Char} (hcs : BeginsToken cs) (m : Mark) :
    Lexer.skipBlanks lineKeys (fuel + 2) keyAllowed { rest := '\n' :: (pad n ++ cs), mark := m } =
      (keyAllowed || lineKeys, { rest := cs, mark := m.after ('\n' :: pad n) }) := by
  have hstops : Text.Stops (fun x => x == ' ' || (x == '\t' && !keyAllowed))
      ('\n' :: (pad n ++ cs)) := Text.stops_cons.mpr rfl
  rw [Lexer.skipBlanks, Cursor.skipWhile_of_stops hstops]
  simp only [Cursor.isAt, List.head?_cons, Cursor.next, Mark.after_cons]
  exact skipBlanks_pad lineKeys fuel (keyAllowed || lineKeys) n hcs (m.step '\n')

/-- What is left of a list behind a run of its start. -/
theorem drop_length_takeWhile {α : Type} (p : α → Bool) (xs : List α) :
    xs.drop (xs.takeWhile p).length = xs.dropWhile p := by
  induction xs with
  | nil => rfl
  | cons x xs ih =>
      cases hx : p x with
      | true => simp [hx, ih]
      | false => simp [hx]

/-! ### Collections that end -/

/-- The ends of a number of collections, at a place. -/
def blockEnds (n : Nat) (m : Mark) : List Token :=
  List.replicate n { line := m.line + 1, kind := .blockEnd }

/-- The end of one more collection for each of some columns. -/
theorem foldl_push_blockEnd (ended : List Nat) (found : List Token) (columns : List Nat)
    (keyAllowed : Bool) (candidate : Option Candidate) (cursor : Cursor) :
    ended.foldl (fun s _ => s.push .blockEnd s.mark)
        (Lexer.of found columns keyAllowed candidate cursor) =
      Lexer.of (blockEnds ended.length cursor.mark ++ found) columns keyAllowed candidate
        cursor := by
  induction ended generalizing found with
  | nil => rfl
  | cons n ended ih =>
      have hends : blockEnds ended.length cursor.mark ++
          { line := cursor.mark.line + 1, kind := .blockEnd } :: found =
            blockEnds (n :: ended).length cursor.mark ++ found := by
        rw [blockEnds, blockEnds, List.length_cons, List.replicate_succ', List.append_assoc,
          List.singleton_append]
      rw [← hends]
      exact ih ({ line := cursor.mark.line + 1, kind := .blockEnd } :: found)

/-- The collections to the right of a column are ended. -/
theorem closeBlocks_of (found : List Token) (columns : List Nat) (keyAllowed : Bool)
    (candidate : Option Candidate) (cursor : Cursor) (column : Nat) :
    (Lexer.of found columns keyAllowed candidate cursor).closeBlocks (some column) =
      Lexer.of (blockEnds (columns.takeWhile (column < ·)).length cursor.mark ++ found)
        (columns.dropWhile (column < ·)) keyAllowed candidate cursor := by
  have hflow : (Lexer.of found columns keyAllowed candidate cursor).inFlow = false := rfl
  have hended := foldl_push_blockEnd (columns.takeWhile (column < ·)) found columns keyAllowed
    candidate cursor
  have hopen : (Lexer.of found columns keyAllowed candidate cursor).columns = columns := rfl
  rw [Lexer.closeBlocks, hflow, if_neg Bool.false_ne_true, ← drop_length_takeWhile]
  simp only [Option.map_some, Option.getD_some, hopen, hended]
  rfl

/-- At the end of the text all collections are ended. -/
theorem closeBlocks_none_of (found : List Token) (columns : List Nat) (keyAllowed : Bool)
    (candidate : Option Candidate) (cursor : Cursor) :
    (Lexer.of found columns keyAllowed candidate cursor).closeBlocks none =
      Lexer.of (blockEnds columns.length cursor.mark ++ found) [] keyAllowed candidate cursor := by
  have hflow : (Lexer.of found columns keyAllowed candidate cursor).inFlow = false := rfl
  have hall : columns.takeWhile (fun _ => true) = columns :=
    List.takeWhile_eq_self_iff.mpr fun _ _ => rfl
  have hended := foldl_push_blockEnd columns found columns keyAllowed candidate cursor
  have hnone : (Lexer.of found columns keyAllowed candidate cursor).columns = columns := rfl
  rw [Lexer.closeBlocks, hflow, if_neg Bool.false_ne_true]
  simp only [Option.map_none, Option.getD_none, hnone, hall, hended, List.drop_length]
  rfl

/-! ### The next token -/

variable (found : List Token) (columns : List Nat) (keyAllowed : Bool)
  {candidate kept : Option Candidate} {cs : List Char} {m : Mark}

/-- Outside of brackets the next token is where the blanks end. -/
theorem toNextToken_of (candidate : Option Candidate) {c : Cursor}
    (hmark : c.rest.head? ≠ some '\uFEFF') :
    (Lexer.of found columns keyAllowed candidate c).toNextToken =
      Lexer.of found columns (Lexer.skipBlanks true (c.rest.length + 1) keyAllowed c).1 candidate
        (Lexer.skipBlanks true (c.rest.length + 1) keyAllowed c).2 := by
  have hflow : (Lexer.of found columns keyAllowed candidate c).inFlow = false := rfl
  have hbegun : c.isAt '\uFEFF' = false := by simpa [Cursor.isAt] using hmark
  have hcursor : (Lexer.of found columns keyAllowed candidate c).cursor = c := rfl
  rw [Lexer.toNextToken, hcursor, hbegun, Bool.and_false, hflow]
  rfl

/-- The next token is looked at where the blanks end. -/
theorem ready_of_skipBlanks (c : Cursor) {next : Cursor} {allowed : Bool}
    (hmark : c.rest.head? ≠ some '\uFEFF')
    (hskip : Lexer.skipBlanks true (c.rest.length + 1) keyAllowed c = (allowed, next))
    (hkept : Lexer.renewed next.mark candidate = .ok kept) :
    (Lexer.of found columns keyAllowed candidate c).ready =
      .ok (Lexer.of
        (blockEnds (columns.takeWhile (next.mark.column < ·)).length next.mark ++ found)
        (columns.dropWhile (next.mark.column < ·)) allowed kept next) := by
  have hmark' : (Lexer.of found columns allowed kept next).mark = next.mark := rfl
  rw [Lexer.ready, toNextToken_of found columns keyAllowed candidate hmark, hskip,
    renewCandidates_of, hkept]
  simp only [Except.map, hmark', closeBlocks_of]

/-- **The next token is on the same line**, perhaps behind blanks. -/
theorem ready_pad (n : Nat) (hcs : BeginsToken cs)
    (hkept : Lexer.renewed (m.after (pad n)) candidate = .ok kept) :
    (Lexer.of found columns keyAllowed candidate { rest := pad n ++ cs, mark := m }).ready =
      .ok (Lexer.of
        (blockEnds (columns.takeWhile ((m.after (pad n)).column < ·)).length (m.after (pad n)) ++
          found)
        (columns.dropWhile ((m.after (pad n)).column < ·)) keyAllowed kept
        { rest := cs, mark := m.after (pad n) }) := by
  refine ready_of_skipBlanks found columns keyAllowed _ ?_ (skipBlanks_pad true _ _ n hcs m) hkept
  rcases n with - | n
  · rcases cs with - | ⟨c, cs⟩
    · simp [pad]
    · simpa [pad] using (hcs c cs rfl).2.2
  · simp [pad, List.replicate_succ]

/-- The next token is right here. -/
theorem ready_here (hcs : BeginsToken cs) (hkept : Lexer.renewed m candidate = .ok kept) :
    (Lexer.of found columns keyAllowed candidate { rest := cs, mark := m }).ready =
      .ok (Lexer.of (blockEnds (columns.takeWhile (m.column < ·)).length m ++ found)
        (columns.dropWhile (m.column < ·)) keyAllowed kept { rest := cs, mark := m }) :=
  ready_pad found columns keyAllowed 0 hcs hkept

/-- **The next token is on the next line**, where a key may begin. -/
theorem ready_line (n : Nat) (hcs : BeginsToken cs)
    (hkept : Lexer.renewed (m.after ('\n' :: pad n)) candidate = .ok kept) :
    (Lexer.of found columns keyAllowed candidate
        { rest := '\n' :: (pad n ++ cs), mark := m }).ready =
      .ok (Lexer.of
        (blockEnds (columns.takeWhile (n < ·)).length (m.after ('\n' :: pad n)) ++ found)
        (columns.dropWhile (n < ·)) true kept
        { rest := cs, mark := m.after ('\n' :: pad n) }) := by
  have hfeed : m.step '\n' = { line := m.line + 1, column := 0 } := Mark.step_of_break m rfl
  have hcolumn : (m.after ('\n' :: pad n)).column = n := by
    rw [Mark.after_cons, hfeed, pad, Mark.after_replicate_blank, Nat.zero_add]
  have hskip : Lexer.skipBlanks true (('\n' :: (pad n ++ cs)).length + 1) keyAllowed
      { rest := '\n' :: (pad n ++ cs), mark := m } =
        (true, { rest := cs, mark := m.after ('\n' :: pad n) }) := by
    rw [List.length_cons, skipBlanks_line true (pad n ++ cs).length keyAllowed n hcs m,
      Bool.or_true]
  have hbegins : ('\n' :: (pad n ++ cs)).head? ≠ some '\uFEFF' := by simp
  have hready := ready_of_skipBlanks found columns keyAllowed
    { rest := '\n' :: (pad n ++ cs), mark := m } hbegins hskip hkept
  rw [hcolumn] at hready
  exact hready

/-- Nothing ends where the innermost collection does not stand further to the right. -/
theorem takeWhile_columns {column : Nat} {columns : List Nat}
    (h : ∀ n, columns.head? = some n → n ≤ column) :
    columns.takeWhile (column < ·) = [] ∧ columns.dropWhile (column < ·) = columns := by
  rcases columns with - | ⟨n, columns⟩
  · exact ⟨rfl, rfl⟩
  · have hn : decide (column < n) = false := decide_eq_false (Nat.not_lt.mpr (h n rfl))
    exact ⟨List.takeWhile_cons_of_neg (by simp [hn]), List.dropWhile_cons_of_neg (by simp [hn])⟩

/-- Nothing ends to the right of the innermost collection. -/
theorem takeWhile_of_head? {columns : List Nat} {n column : Nat} (h : columns.head? = some n)
    (hle : n ≤ column) :
    columns.takeWhile (column < ·) = [] ∧ columns.dropWhile (column < ·) = columns := by
  refine takeWhile_columns fun k hk => ?_
  rw [h] at hk
  rwa [← Option.some.inj hk]

/-! ### Kinds of tokens -/

/-- A kind of token as far as it matters: whether a scalar is written without quotes does so only
if it would be something else than a text. -/
def TokenKind.settled : TokenKind → TokenKind
  | .scalar text plain => .scalar text (plain && !readsAsText text)
  | kind => kind

/-- The kinds of the tokens so far, the first one first. -/
def kindsOf (found : List Token) : List TokenKind := found.reverse.map (·.kind.settled)

/-- One more token has one more kind. -/
theorem kindsOf_cons (t : Token) (found : List Token) :
    kindsOf (t :: found) = kindsOf found ++ [t.kind.settled] := by
  simp [kindsOf]

/-- The kinds of tokens at the end of others. -/
theorem kindsOf_append (more found : List Token) :
    kindsOf (more ++ found) = kindsOf found ++ kindsOf more := by
  simp [kindsOf]

/-- The ends of collections. -/
theorem kindsOf_blockEnds (n : Nat) (m : Mark) :
    kindsOf (blockEnds n m) = List.replicate n .blockEnd := by
  simp [kindsOf, blockEnds, TokenKind.settled]

/-! ### Entries -/

/-- The least column in which content of the innermost collection may stand. -/
def marginOf : List Nat → Nat
  | [] => 0
  | column :: _ => column + 1

/-- The margin of a state outside of brackets. -/
theorem margin_of (candidate : Option Candidate) (cursor : Cursor) :
    (Lexer.of found columns keyAllowed candidate cursor).margin = marginOf columns := by
  cases columns <;> rfl

/-- An entry at a column, with the token for its collection if it is the first one. -/
inductive Opens (start : TokenKind) (column : Nat) : List Nat → List Nat → List TokenKind → Prop
  /-- The collection has begun. -/
  | inside {columns : List Nat} (h : columns.head? = some column) :
      Opens start column columns columns []
  /-- The collection begins. -/
  | new {columns : List Nat} (h : marginOf columns ≤ column) :
      Opens start column columns (column :: columns) [start]

/-- The column of an entry is that of its collection. -/
theorem Opens.head? {start : TokenKind} {column : Nat} {columns columns' : List Nat}
    {kinds : List TokenKind} (h : Opens start column columns columns' kinds) :
    columns'.head? = some column := by
  cases h with
  | inside h => exact h
  | new _ => rfl

/-- An entry stands no further to the left than the collection around it. -/
theorem Opens.le_column {start : TokenKind} {column : Nat} {columns columns' : List Nat}
    {kinds : List TokenKind} (h : Opens start column columns columns' kinds) {n : Nat}
    (hn : columns.head? = some n) : n ≤ column := by
  obtain ⟨columns, rfl⟩ := List.head?_eq_some_iff.mp hn
  cases h with
  | inside h => exact Nat.le_of_eq (Option.some.inj h)
  | new h => exact Nat.le_of_succ_le h

/-- What stands behind the first character of an entry is behind the margin. -/
theorem Opens.marginOf_le {start : TokenKind} {column : Nat} {columns columns' : List Nat}
    {kinds : List TokenKind} (h : Opens start column columns columns' kinds) :
    marginOf columns ≤ column + 1 := by
  cases columns with
  | nil => exact Nat.zero_le _
  | cons n columns => exact Nat.succ_le_succ (h.le_column rfl)

/-- The characters that stand before an entry, or before its value. -/
inductive IsEntryMark : Char → TokenKind → TokenKind → Prop
  /-- An item. -/
  | item : IsEntryMark '-' .blockSequenceStart .blockEntry
  /-- A key on lines of its own. -/
  | key : IsEntryMark '?' .blockMappingStart .key
  /-- The value of such a key. -/
  | value : IsEntryMark ':' .blockMappingStart .value

/-- A token that is put in before the last ones. -/
theorem insertAt_of (more : List Token) (candidate : Option Candidate) (cursor : Cursor)
    (kind : TokenKind) (at_ : Mark) :
    (Lexer.of (more ++ found) columns keyAllowed candidate cursor).insertAt found.length kind at_ =
      Lexer.of (more ++ { line := at_.line + 1, kind } :: found) columns keyAllowed candidate
        cursor := by
  simp [Lexer.insertAt, Lexer.of, Nat.add_assoc]

/-- **A collection begins with its first entry**, before whose tokens its own is put in. -/
theorem openBlock_of {start : TokenKind} {at_ : Mark} {columns' : List Nat} {kinds : List TokenKind}
    (hstart : start.settled = start) (h : Opens start at_.column columns columns' kinds)
    (more : List Token) (candidate : Option Candidate) (cursor : Cursor) :
    ∃ found', (Lexer.of (more ++ found) columns keyAllowed candidate cursor).openBlock start at_
        found.length = Lexer.of (more ++ found') columns' keyAllowed candidate cursor ∧
      kindsOf found' = kindsOf found ++ kinds := by
  have hmargin := margin_of (more ++ found) columns keyAllowed candidate cursor
  have hflow : (Lexer.of (more ++ found) columns keyAllowed candidate cursor).inFlow = false := rfl
  cases h with
  | inside h =>
      refine ⟨found, ?_, by simp⟩
      obtain ⟨column, columns, rfl⟩ : ∃ column columns', columns = column :: columns' := by
        rcases columns with - | ⟨column, columns⟩
        · simp at h
        · exact ⟨column, columns, rfl⟩
      have hcolumn : column = at_.column := by simpa using h
      have hless : at_.column < marginOf (column :: columns) := by
        rw [← hcolumn]
        exact Nat.lt_succ_self column
      rw [Lexer.openBlock, hmargin, decide_eq_true hless, Bool.or_true, if_pos rfl]
  | new h =>
      refine ⟨{ line := at_.line + 1, kind := start } :: found, ?_, by rw [kindsOf_cons, hstart]⟩
      rw [Lexer.openBlock, hmargin, hflow, decide_eq_false (Nat.not_lt.mpr h), insertAt_of]
      rfl

/-- No mark of a document is where another character follows the first one. -/
theorem isAtTriple_of_ne {x d : Char} (h : d ≠ x) (c : Char) (cs : List Char) (m : Mark) :
    Cursor.isAtTriple x { rest := c :: d :: cs, mark := m } = false := by
  simp [Cursor.isAtTriple, h]

/-- A token that begins with a character is taken, and the candidates are looked at. -/
theorem emit_of_dispatch {s t : Lexer} {c : Char} {cs : List Char} {m : Mark}
    (hcursor : s.cursor = { rest := c :: cs, mark := m }) (h : s.dispatch c = .ok t) :
    s.emit = t.renewCandidates := by
  rw [Lexer.emit, hcursor]
  simp only [h, bind, Except.bind]

/-- **The mark of an entry** is taken. -/
theorem emit_entryMark {c : Char} {start kind : TokenKind} (hc : IsEntryMark c start kind)
    {columns' : List Nat} {kinds : List TokenKind}
    (hopens : Opens start m.column columns columns' kinds) (cs : List Char) :
    ∃ found',
      (Lexer.of found columns true none { rest := c :: ' ' :: cs, mark := m }).emit =
        .ok (Lexer.of found' columns' true none { rest := ' ' :: cs, mark := m.step c }) ∧
      kindsOf found' = kindsOf found ++ kinds ++ [kind] := by
  have hstart : start.settled = start := by cases hc <;> rfl
  have hkind : kind.settled = kind := by cases hc <;> rfl
  obtain ⟨found', hopened, hkinds⟩ :=
    openBlock_of found columns true hstart hopens [] none { rest := c :: ' ' :: cs, mark := m }
  refine ⟨{ line := m.line + 1, kind } :: found', ?_, by rw [kindsOf_cons, hkinds, hkind]⟩
  have hdash := isAtTriple_of_ne (x := '-') (by decide : ' ' ≠ '-') c cs m
  have hdot := isAtTriple_of_ne (x := '.') (by decide : ' ' ≠ '.') c cs m
  rw [List.nil_append, List.nil_append] at hopened
  have hdispatch : (Lexer.of found columns true none
      { rest := c :: ' ' :: cs, mark := m }).dispatch c =
      .ok (Lexer.of ({ line := m.line + 1, kind } :: found') columns' true none
        { rest := ' ' :: cs, mark := m.step c }) := by
    generalize hs : Lexer.of found columns true none { rest := c :: ' ' :: cs, mark := m } = s at *
    have hcursor : s.cursor = { rest := c :: ' ' :: cs, mark := m } := by rw [← hs]; rfl
    have hkey : s.keyAllowed = true := by rw [← hs]; rfl
    have hcount : s.count = found.length := by rw [← hs]; rfl
    have hcandidate : s.candidate = none := by rw [← hs]; rfl
    rw [Lexer.dispatch]
    cases hc <;>
      simp [Lexer.mark, hcursor, Cursor.peek, endsWord, isGapOrBreak, isGap, hdash, hdot,
        Lexer.takeHyphen, Lexer.takeKeyMark, Lexer.takeColon, hkey, hcount, hcandidate,
        hopened, Lexer.dropCandidate, Lexer.of, Lexer.take, Lexer.push, Cursor.drop, Cursor.next,
        bind, Except.bind, pure, Except.pure, Lexer.inFlow]
  rw [emit_of_dispatch rfl hdispatch, renewCandidates_of]
  rfl

/-- A scan goes on behind a token that is not the end of the text. -/
theorem isDone_eq_false {s : Lexer} {kinds : List TokenKind} {kind : TokenKind}
    (h : kindsOf s.found = kinds ++ [kind]) (hkind : kind ≠ .streamEnd) : s.isDone = false := by
  rw [Lexer.isDone]
  rcases hfound : s.found with - | ⟨t, found⟩
  · rfl
  · rw [hfound, kindsOf_cons] at h
    have hlast : t.kind.settled = kind := by simpa using List.append_inj_right' h rfl
    have hne : t.kind ≠ .streamEnd := by
      intro hend
      rw [hend] at hlast
      exact hkind hlast.symm
    simpa using hne

/-- **Behind the mark of an entry** its content is next, two columns further to the right. -/
theorem reaches_entryMark {c : Char} {start kind : TokenKind} (hc : IsEntryMark c start kind)
    {columns' : List Nat} {kinds : List TokenKind}
    (hopens : Opens start m.column columns columns' kinds) (hcs : BeginsToken cs) :
    ∃ found' m',
      Reaches (Lexer.of found columns true none { rest := c :: ' ' :: cs, mark := m })
        (Lexer.of found' columns' true none { rest := cs, mark := m' }) ∧
      m'.column = m.column + 2 ∧ kindsOf found' = kindsOf found ++ kinds ++ [kind] := by
  obtain ⟨found', hemit, hkinds⟩ := emit_entryMark found columns hc hopens cs
  have hgoes : (Lexer.of found' columns' true none
      { rest := ' ' :: cs, mark := m.step c }).isDone = false :=
    isDone_eq_false hkinds (by cases hc <;> simp)
  have hcolumn : ((m.step c).after (pad 1)).column = m.column + 2 := by
    cases hc <;> rfl
  have hright : m.column ≤ ((m.step c).after (pad 1)).column := by
    rw [hcolumn]
    omega
  have hstay := takeWhile_of_head? hopens.head? hright
  have hready := ready_pad found' columns' true 1 hcs
    (rfl : Lexer.renewed ((m.step c).after (pad 1)) none = .ok none)
  rw [hstay.1, hstay.2] at hready
  have hless : cs.length < (c :: ' ' :: cs).length := by
    rw [List.length_cons, List.length_cons]
    omega
  exact ⟨found', _, .move hemit hgoes hready hless (.refl _), hcolumn, hkinds⟩

end JsonWorkbench.Yaml
