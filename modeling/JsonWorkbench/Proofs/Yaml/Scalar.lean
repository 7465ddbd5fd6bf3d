import JsonWorkbench.Proofs.Yaml.Plain
import JsonWorkbench.Proofs.Yaml.State

/-!
# Scalars Between Other Tokens

A scalar that is the value of an entry is followed by a line that begins further to the left, or by
the end of the text. Whatever its style, one token is taken for it, and the next token is that of
the line behind it; a text that is written as a block loses the line feeds at its end where the
whole text has lost them.

## Main definitions

* `follow` — the text of a node with what stands behind it.
* `Settles` — a node has been read, with the ends of collections that follow it.

## Main results

* `settles_text`, `settles_word`, `settles_empty` — the scalars and the empty collections.
-/

namespace JsonWorkbench.Yaml

/-! ### What stands behind a node -/

/-- The text of a node with what stands behind it: a line, or nothing, in which case the line feeds
at the end of the text are gone. -/
def follow (text : List Char) : Behind → List Char
  | .line column first rest => endedLine text ++ (pad column ++ first :: rest)
  | .finish => Text.dropEndWhile (· == '\n') text

/-- What stands behind a text that ends in no line break. -/
def Behind.gap : Behind → List Char
  | .line column first rest => '\n' :: (pad column ++ first :: rest)
  | .finish => []

/-- What may stand behind the content of a collection: a token to the left of a column. -/
structure Behind.Follows (margin : Nat) (behind : Behind) : Prop where
  /-- The line stands further to the left. -/
  left : behind.IsLeftOf margin
  /-- A token begins the line. -/
  begins : BeginsToken behind.rest

/-- What stands to the left of a column stands to the left of those behind it. -/
theorem Behind.Follows.mono {margin margin' : Nat} {behind : Behind} (h : behind.Follows margin)
    (hle : margin ≤ margin') : behind.Follows margin' := by
  refine ⟨?_, h.begins⟩
  cases behind with
  | line column first rest => exact ⟨Nat.lt_of_lt_of_le h.left.1 hle, h.left.2⟩
  | finish => trivial

/-- What stands behind a text is the gap, if the text ends in no line break. -/
theorem follow_concat (cs : List Char) {c : Char} (hc : breaksLine c = false) (behind : Behind) :
    follow (cs ++ [c]) behind = cs ++ [c] ++ behind.gap := by
  cases behind with
  | line column first rest =>
      rw [follow, endedLine_concat, hc, if_neg Bool.false_ne_true, Behind.gap]
      simp
  | finish =>
      have hfeed : (c == '\n') = false := by
        rw [beq_eq_false_iff_ne]
        rintro rfl
        exact absurd hc (by decide)
      rw [follow, Behind.gap, List.append_nil, Text.dropEndWhile_concat (p := (· == '\n')) hfeed]

/-- A text in front of the text of a node makes no difference for what stands behind. -/
theorem follow_append (cs : List Char) {c : Char} (hc : c ≠ '\n') (ds : List Char)
    (behind : Behind) : follow (cs ++ c :: ds) behind = cs ++ follow (c :: ds) behind := by
  cases behind with
  | line column first rest =>
      rw [follow, follow, endedLine_append cs (List.cons_ne_nil c ds), List.append_assoc]
  | finish =>
      have hstays : Text.dropEndWhile (· == '\n') (c :: ds) ≠ [] := by
        rw [Text.dropEndWhile]
        split
        · simp [hc]
        · simp
      exact Text.dropEndWhile_append_of_ne_nil hstays cs

/-- A character in front of a text stays in its place. -/
theorem follow_cons_of_ne_nil {c : Char} (hc : c ≠ '\n') {ds : List Char} (hds : ds ≠ [])
    (behind : Behind) : follow (c :: ds) behind = c :: follow ds behind := by
  cases behind with
  | line column first rest =>
      have hended := endedLine_append [c] hds
      rw [List.singleton_append, List.singleton_append] at hended
      rw [follow, follow, hended, List.cons_append]
  | finish =>
      rw [follow, follow, Text.dropEndWhile]
      split
      · next h => simp [h, hc]
      · rfl

/-- The first character of a node stays in its place. -/
theorem follow_cons {c : Char} (hc : c ≠ '\n') (ds : List Char) (behind : Behind) :
    ∃ rest, follow (c :: ds) behind = c :: rest := by
  cases behind with
  | line column first rest =>
      rcases endedLine_eq (c :: ds) with ⟨-, -, -, -, heq⟩ | heq
      · exact ⟨_, by rw [follow, heq, List.cons_append]⟩
      · exact ⟨_, by rw [follow, heq, List.cons_append, List.cons_append]⟩
  | finish =>
      rw [follow, Text.dropEndWhile]
      split
      · exact ⟨[], by simp [hc]⟩
      · exact ⟨_, rfl⟩

/-- A node has been read, with the given tokens so far: the token of the line behind it is next,
and the collections to the right of it have been ended; or the text has been read to its end. -/
def Settles (s : Lexer) (columns : List Nat) (kinds : List TokenKind) : Behind → Prop
  | .line column first rest =>
    ∃ found m,
      Reaches s (.of found (columns.dropWhile (column < ·)) true none
        { rest := first :: rest, mark := m }) ∧
      m.column = column ∧
      kindsOf found =
        kinds ++ List.replicate (columns.takeWhile (column < ·)).length .blockEnd
  | .finish =>
    ∃ last t, Reaches s last ∧ last.emit = .ok t ∧ t.isDone = true ∧
      kindsOf t.found = kinds ++ List.replicate columns.length .blockEnd ++ [.streamEnd]

/-- What is reached on the way to a node does not matter behind it. -/
theorem Settles.of_reaches {s t : Lexer} (h : Reaches s t) {columns : List Nat}
    {kinds : List TokenKind} {behind : Behind} (ht : Settles t columns kinds behind) :
    Settles s columns kinds behind := by
  cases behind with
  | line column first rest =>
      obtain ⟨found, m, hreaches, hm, hkinds⟩ := ht
      exact ⟨found, m, h.trans hreaches, hm, hkinds⟩
  | finish =>
      obtain ⟨last, t', hreaches, hend⟩ := ht
      exact ⟨last, t', h.trans hreaches, hend⟩

/-- The innermost collection ends behind its last node. -/
theorem Settles.close {s : Lexer} {column : Nat} {columns : List Nat} {kinds : List TokenKind}
    {behind : Behind} (hbehind : behind.IsLeftOf column)
    (h : Settles s (column :: columns) kinds behind) :
    Settles s columns (kinds ++ [.blockEnd]) behind := by
  cases behind with
  | line column' first rest =>
      obtain ⟨found, m, hreaches, hm, hkinds⟩ := h
      have hin : decide (column' < column) = true := decide_eq_true hbehind.1
      rw [List.dropWhile_cons_of_pos (by simpa using hin)] at hreaches
      rw [List.takeWhile_cons_of_pos (by simpa using hin), List.length_cons,
        List.replicate_succ, ← List.singleton_append, ← List.append_assoc] at hkinds
      exact ⟨found, m, hreaches, hm, hkinds⟩
  | finish =>
      obtain ⟨last, t, hreaches, hemit, hdone, hkinds⟩ := h
      rw [List.length_cons, List.replicate_succ, ← List.singleton_append,
        ← List.append_assoc kinds] at hkinds
      exact ⟨last, t, hreaches, hemit, hdone, hkinds⟩

/-! ### Behind a node -/

variable {s : Lexer} {found : List Token} {columns : List Nat} {keyAllowed : Bool}
  {candidate : Option Candidate} {kinds : List TokenKind} {kind : TokenKind} {m : Mark}

/-- The end of the text ends all collections. -/
theorem emit_end (found : List Token) (columns : List Nat) (keyAllowed : Bool) {line : Nat}
    (hidle : IsIdle line candidate) (m : Mark) :
    ∃ t, (Lexer.of found columns keyAllowed candidate { rest := [], mark := m }).emit = .ok t ∧
      t.isDone = true ∧
      kindsOf t.found =
        kindsOf found ++ List.replicate columns.length .blockEnd ++ [.streamEnd] := by
  have hrequired : (candidate.map (·.required)).getD false = false := by
    rcases candidate with - | k
    · rfl
    · exact (hidle k rfl).1
  obtain ⟨at_, hat⟩ : ∃ at_ : Mark,
      (if m.column = 0 then m else { line := m.line + 1, column := 0 }) = at_ := ⟨_, rfl⟩
  have hdrop : (Lexer.of (blockEnds columns.length at_ ++ found) [] keyAllowed candidate
      { rest := [], mark := at_ }).dropCandidate =
        .ok (.of (blockEnds columns.length at_ ++ found) [] keyAllowed none
          { rest := [], mark := at_ }) := by
    have hsame : (Lexer.of (blockEnds columns.length at_ ++ found) [] keyAllowed candidate
      { rest := [], mark := at_ }).candidate = candidate := rfl
    rw [Lexer.dropCandidate, hsame, hrequired]
    rfl
  have htake : (Lexer.of found columns keyAllowed candidate { rest := [], mark := m }).takeEnd =
      ((Lexer.of found columns keyAllowed candidate
        { rest := [], mark := at_ }).closeBlocks none).dropCandidate.bind fun s =>
          .ok { s.push .streamEnd at_ with keyAllowed := false } := by
    rw [← hat]
    rfl
  rw [closeBlocks_none_of, hdrop] at htake
  have hemit : (Lexer.of found columns keyAllowed candidate { rest := [], mark := m }).emit =
      (Lexer.of ({ line := at_.line + 1, kind := .streamEnd } ::
        (blockEnds columns.length at_ ++ found)) [] false none
          { rest := [], mark := at_ }).renewCandidates := by
    have hrest : (Lexer.of found columns keyAllowed candidate
      { rest := [], mark := m }).cursor.rest = [] := rfl
    rw [Lexer.emit, hrest]
    simp only [htake]
    rfl
  rw [renewCandidates_of] at hemit
  refine ⟨_, hemit, rfl, ?_⟩
  have hkinds : kindsOf ({ line := at_.line + 1, kind := .streamEnd } ::
      (blockEnds columns.length at_ ++ found)) =
        kindsOf found ++ List.replicate columns.length .blockEnd ++ [.streamEnd] := by
    rw [kindsOf_cons, kindsOf_append, kindsOf_blockEnds]
    rfl
  exact hkinds

/-- A node with which the text ends. -/
theorem settles_finish
    (hemit : s.emit = .ok (.of found columns keyAllowed candidate { rest := [], mark := m }))
    (hkinds : kindsOf found = kinds ++ [kind]) (hkind : kind ≠ .streamEnd)
    (hidle : IsIdle m.line candidate) (hless : 0 < s.cursor.rest.length) :
    Settles s columns (kinds ++ [kind]) .finish := by
  obtain ⟨kept, hkept, hidle', -⟩ := hidle.renewed m
  have hgoes := isDone_eq_false (s := .of found columns keyAllowed candidate
    { rest := [], mark := m }) hkinds hkind
  have hready := ready_here found columns keyAllowed beginsToken_nil hkept
  obtain ⟨t, hend, hdone, hall⟩ := emit_end
    (blockEnds (columns.takeWhile (m.column < ·)).length m ++ found)
    (columns.dropWhile (m.column < ·)) keyAllowed hidle' m
  refine ⟨_, t, .move hemit hgoes hready hless (.refl _), hend, hdone, ?_⟩
  -- the ends before the last token and those with it are those of all collections
  have hcount : (columns.takeWhile (m.column < ·)).length +
      (columns.dropWhile (m.column < ·)).length = columns.length := by
    rw [← List.length_append, List.takeWhile_append_dropWhile]
  rw [hall, kindsOf_append, kindsOf_blockEnds, hkinds, List.append_assoc _ (List.replicate _ _)
    (List.replicate _ _), List.replicate_append_replicate, hcount]

/-- A node behind which the lexer stands at the next line. -/
theorem settles_line {column : Nat} {first : Char} {rest : List Char}
    (hemit : s.emit = .ok (.of found columns true none { rest := first :: rest, mark := m }))
    (hkinds : kindsOf found = kinds ++ [kind]) (hkind : kind ≠ .streamEnd)
    (hm : m.column = column) (hbegins : BeginsToken (first :: rest))
    (hless : (first :: rest).length < s.cursor.rest.length) :
    Settles s columns (kinds ++ [kind]) (.line column first rest) := by
  subst hm
  have hgoes := isDone_eq_false (s := .of found columns true none
    { rest := first :: rest, mark := m }) hkinds hkind
  have hready := ready_here found columns true hbegins
    (rfl : Lexer.renewed m none = .ok none)
  refine ⟨_, m, .move hemit hgoes hready hless (.refl _), rfl, ?_⟩
  rw [kindsOf_append, kindsOf_blockEnds, hkinds]

/-- A node behind which the lexer stands at the end of the line. -/
theorem settles_gap {behind : Behind}
    (hemit : s.emit = .ok (.of found columns keyAllowed candidate
      { rest := behind.gap, mark := m }))
    (hkinds : kindsOf found = kinds ++ [kind]) (hkind : kind ≠ .streamEnd)
    (hidle : IsIdle m.line candidate) (hbegins : BeginsToken behind.rest)
    (hless : behind.gap.length < s.cursor.rest.length) :
    Settles s columns (kinds ++ [kind]) behind := by
  cases behind with
  | finish => exact settles_finish hemit hkinds hkind hidle hless
  | line column first rest =>
      obtain ⟨kept, hkept, -, hlost⟩ := hidle.renewed (m.after ('\n' :: pad column))
      have hgoes := isDone_eq_false (s := .of found columns keyAllowed candidate
        { rest := '\n' :: (pad column ++ first :: rest), mark := m }) hkinds hkind
      have hplace : m.after ('\n' :: pad column) = { line := m.line + 1, column } := by
        rw [Mark.after_cons, Mark.step_of_break m (c := '\n') rfl, pad, Mark.after_replicate_blank,
          Nat.zero_add]
      have hnone : kept = none := hlost (by rw [hplace]; exact Nat.lt_succ_self _)
      subst hnone
      have hready := ready_line found columns keyAllowed column hbegins hkept
      have hshort : (first :: rest).length < s.cursor.rest.length := by
        refine Nat.lt_of_le_of_lt ?_ hless
        simp only [Behind.gap, List.length_cons, List.length_append]
        omega
      refine ⟨_, _, .move hemit hgoes hready hshort (.refl _), ?_, ?_⟩
      · rw [hplace]
      · rw [kindsOf_append, kindsOf_blockEnds, hkinds]

/-! ### Scalars of one line -/

/-- The candidate that a token at a place is. -/
def offered (found : List Token) (columns : List Nat) (keyAllowed : Bool) (m : Mark) :
    Option Candidate :=
  if keyAllowed then
    some { number := found.length, required := columns.head? == some m.column, mark := m }
  else none

/-- A token is a candidate where a key may begin. -/
theorem offerCandidate_of (found : List Token) (columns : List Nat) (keyAllowed : Bool)
    (c : Cursor) :
    (Lexer.of found columns keyAllowed none c).offerCandidate =
      .ok (.of found columns keyAllowed (offered found columns keyAllowed c.mark) c) := by
  cases keyAllowed <;> rfl

/-- A candidate in no column of entries need not become a key. -/
theorem isIdle_offered (found : List Token) {columns : List Nat} (keyAllowed : Bool) {m : Mark}
    (h : columns.head? ≠ some m.column) :
    IsIdle m.line (offered found columns keyAllowed m) := by
  cases keyAllowed with
  | false => exact isIdle_none m.line
  | true =>
      rintro k ⟨rfl⟩
      exact ⟨by simpa using h, Nat.le_refl _⟩

/-- A plain text begins no other token. -/
theorem dispatch_plain (found : List Token) (columns : List Nat) (keyAllowed : Bool)
    (candidate : Option Candidate) {cs rest : List Char} {c : Char} (hcs : IsPlain (c :: cs))
    (hrest : rest.head? ≠ some '-' ∧ rest.head? ≠ some '.') (m : Mark) :
    (Lexer.of found columns keyAllowed candidate
        { rest := c :: cs ++ rest, mark := m }).dispatch c =
      (Lexer.of found columns keyAllowed candidate
        { rest := c :: cs ++ rest, mark := m }).takePlain := by
  have hboundary := hcs.isAtBoundary hrest m
  rw [Cursor.isAtBoundary, Bool.or_eq_false_iff] at hboundary
  have hgap : isGap c = false := by
    have hspace : c ≠ ' ' := by simpa using hcs.first
    rw [← Bool.not_eq_true]
    exact fun h => hspace (hcs.blanks c (List.mem_cons_self ..) (by simp [isGapOrBreak, h]))
  -- behind a sign that would mean something alone, the word goes on
  have hleading := hcs.leading c cs rfl
  simp only [isLeadingIndicator, Bool.or_eq_false_iff, Bool.and_eq_false_iff] at hleading
  obtain ⟨hothers, hsign⟩ := hleading
  have hgoes : (((c == '?') = false ∧ (c == ':') = false) ∧ (c == '-') = false) ∨
      endsWord (cs ++ rest)[0]? = false := by
    refine hsign.imp_right fun hnext => ?_
    rcases cs with - | ⟨d, cs⟩
    · simp at hnext
    · rw [← Bool.not_eq_true]
      intro hends
      have hseparates : separates d = true := separates_of_isGapOrBreak hends
      simp [hseparates] at hnext
  rw [List.cons_append] at hboundary
  rw [Lexer.dispatch]
  rcases hgoes with ⟨⟨hquestion, hcolon⟩, hdash⟩ | hgoes
  · simp [Lexer.of, Lexer.inFlow, Lexer.isIndicator, isFlowIndicator, hothers, hquestion, hcolon,
      hdash, hboundary, hgap]
  · simp [Lexer.of, Lexer.inFlow, Lexer.isIndicator, isFlowIndicator, hothers, Cursor.peek, hgoes,
      hboundary, hgap]

/-- **A plain scalar** is taken. -/
theorem emit_plain {text rest : List Char} (htext : IsPlain text)
    (hmargin : marginOf columns ≤ m.column + 1) {behind : Cursor} {crossed : Bool}
    (hend : EndsPlain (marginOf columns) rest (m.after text) behind crossed)
    {kept : Option Candidate}
    (hkept : Lexer.renewed behind.mark (offered found columns keyAllowed m) = .ok kept) :
    (Lexer.of found columns keyAllowed none { rest := text ++ rest, mark := m }).emit =
      .ok (.of ({ line := m.line + 1, kind := .scalar text true } :: found) columns crossed kept
        behind) := by
  obtain ⟨c, cs, rfl⟩ := List.exists_cons_of_ne_nil htext.ne_nil
  obtain ⟨candidate, hcandidate⟩ : ∃ candidate, offered found columns keyAllowed m = candidate :=
    ⟨_, rfl⟩
  rw [hcandidate] at hkept
  have hread : readPlain false
      (Lexer.of found columns keyAllowed candidate { rest := c :: cs ++ rest, mark := m }).margin
      { rest := c :: cs ++ rest, mark := m } = .ok { text := c :: cs, behind, crossed } := by
    rw [margin_of]
    exact readPlain_isPlain htext hmargin hend
  have htake : (Lexer.of found columns keyAllowed none
      { rest := c :: cs ++ rest, mark := m }).takePlain =
        .ok (.of ({ line := m.line + 1, kind := .scalar (c :: cs) true } :: found) columns crossed
          candidate behind) := by
    rw [Lexer.takePlain, offerCandidate_of, hcandidate]
    exact congrArg (fun r : Except Nat PlainScalar => r.bind fun scalar =>
      .ok (Lexer.of ({ line := m.line + 1, kind := .scalar scalar.text true } :: found) columns
        scalar.crossed candidate scalar.behind)) hread
  have hdispatch := dispatch_plain found columns keyAllowed none htext hend.head?_ne m
  rw [htake] at hdispatch
  rw [emit_of_dispatch rfl hdispatch, renewCandidates_of, hkept]
  rfl

/-- **A scalar in quotes** is taken. -/
theorem emit_quoted (double : Bool) {text tail rest : List Char}
    (hread : readQuoted double
      { rest := tail ++ rest, mark := m.step (if double then '"' else '\'') } =
        .ok (text, { rest, mark := m.after ((if double then '"' else '\'') :: tail) }))
    {kept : Option Candidate}
    (hkept : Lexer.renewed (m.after ((if double then '"' else '\'') :: tail))
      (offered found columns keyAllowed m) = .ok kept) :
    (Lexer.of found columns keyAllowed none
      { rest := (if double then '"' else '\'') :: (tail ++ rest), mark := m }).emit =
      .ok (.of ({ line := m.line + 1, kind := .scalar text false } :: found) columns false kept
        { rest, mark := m.after ((if double then '"' else '\'') :: tail) }) := by
  obtain ⟨candidate, hcandidate⟩ : ∃ candidate, offered found columns keyAllowed m = candidate :=
    ⟨_, rfl⟩
  rw [hcandidate] at hkept
  have hdispatch : ∀ s : Lexer, s.cursor =
      { rest := (if double then '"' else '\'') :: (tail ++ rest), mark := m } →
        s.dispatch (if double then '"' else '\'') = s.takeQuoted double := by
    intro s hs
    cases double <;> simp [Lexer.dispatch, hs, Cursor.isAtTriple]
  have htake : (Lexer.of found columns keyAllowed none
      { rest := (if double then '"' else '\'') :: (tail ++ rest), mark := m }).takeQuoted double =
        .ok (.of ({ line := m.line + 1, kind := .scalar text false } :: found) columns false
          candidate { rest, mark := m.after ((if double then '"' else '\'') :: tail) }) := by
    rw [Lexer.takeQuoted, offerCandidate_of, hcandidate]
    exact congrArg (fun r : Except Nat (List Char × Cursor) => r.bind fun scalar =>
      .ok (Lexer.of ({ line := m.line + 1, kind := .scalar scalar.1 false } :: found) columns
        false candidate scalar.2)) hread
  have htaken := hdispatch (.of found columns keyAllowed none
    { rest := (if double then '"' else '\'') :: (tail ++ rest), mark := m }) rfl
  rw [htake] at htaken
  rw [emit_of_dispatch rfl htaken, renewCandidates_of, hkept]
  rfl

/-- **A literal block** is taken. -/
theorem emit_block {text tail : List Char} {behind : Cursor}
    (hread : readBlock true (marginOf columns) { rest := tail, mark := m.step '|' } =
      .ok (text, behind)) :
    (Lexer.of found columns keyAllowed none { rest := '|' :: tail, mark := m }).emit =
      .ok (.of ({ line := m.line + 1, kind := .scalar text false } :: found) columns true none
        behind) := by
  have hdispatch : ∀ s : Lexer, s.cursor = { rest := '|' :: tail, mark := m } → s.inFlow = false →
      s.dispatch '|' = s.takeBlock true := by
    intro s hs hflow
    simp [Lexer.dispatch, hs, hflow, Cursor.isAtTriple]
  have htake : (Lexer.of found columns keyAllowed none
      { rest := '|' :: tail, mark := m }).takeBlock true =
        .ok (.of ({ line := m.line + 1, kind := .scalar text false } :: found) columns true none
          behind) := by
    have hread' : readBlock true (Lexer.of found columns keyAllowed none
        { rest := '|' :: tail, mark := m }).margin { rest := tail, mark := m.step '|' } =
          .ok (text, behind) := by
      rwa [margin_of]
    exact congrArg (fun r : Except Nat (List Char × Cursor) => r.bind fun scalar =>
      .ok (Lexer.of ({ line := m.line + 1, kind := .scalar scalar.1 false } :: found) columns
        true none scalar.2)) hread'
  have htaken := hdispatch (.of found columns keyAllowed none { rest := '|' :: tail, mark := m })
    rfl rfl
  rw [htake] at htaken
  rw [emit_of_dispatch rfl htaken, renewCandidates_of]
  rfl

/-! ### Styles -/

/-- A text without quotes is plain, reads as a text, and is written as it is on one line. -/
theorem of_style_plain {cs : List Char} (h : styleOf cs = .plain) :
    IsPlain cs ∧ readsAsText cs = true ∧
      ∀ c ∈ cs, isWritable c = true ∧ breaksLine c = false := by
  simp only [styleOf] at h
  split at h
  · split at h <;> cases h
  · split at h
    · next hplain =>
        rw [Bool.and_eq_true] at hplain
        have hne : cs ≠ [] := by
          rintro rfl
          exact absurd hplain.1 (by simp [readsAsText])
        have hbreaks := hplain.2
        simp only [Traits.allowsPlain, Traits.allowsSingle, traits, Bool.and_eq_true,
          Bool.not_eq_true', Bool.or_eq_false_iff, List.any_eq_false] at hbreaks
        exact ⟨isPlain_of_allowsPlain hne hplain.2, hplain.1, fun c hc =>
          ⟨by simpa using hbreaks.1.2 c hc, by simpa using hbreaks.2.1.1.2 c hc⟩⟩
    · split at h <;> cases h

/-- A text in single quotes keeps its line breaks and needs no escapes. -/
theorem of_style_single {cs : List Char} (h : styleOf cs = .single) :
    IsSingle cs ∧ ∀ c ∈ cs, isWritable c = true := by
  simp only [styleOf] at h
  split at h
  · split at h <;> cases h
  · next hfeed =>
      split at h
      · cases h
      · split at h
        · next hsingle =>
            simp only [Traits.allowsSingle, traits, Bool.not_eq_true', Bool.or_eq_false_iff,
              List.any_eq_false] at hsingle
            obtain ⟨⟨hbreakSpace, hspaceBreak⟩, hspecial⟩ := hsingle
            have hwritable : ∀ c ∈ cs, isWritable c = true := fun c hc => by
              simpa using hspecial c hc
            refine ⟨⟨fun c hc => ⟨?_, ?_⟩, fun c hc hbreak => ?_, hbreakSpace, hspaceBreak⟩,
              hwritable⟩
            · rintro rfl
              exact absurd (hwritable _ hc) (by decide)
            · rintro rfl
              exact hfeed (by simpa using hc)
            · rwa [← breaksLine_of_isWritable (hwritable c hc)]
        · cases h

/-- A text in a block has a line feed and no characters that need escapes. -/
theorem of_style_literal {cs : List Char} (h : styleOf cs = .literal) :
    cs ≠ [] ∧ ∀ c ∈ cs, isWritable c = true := by
  simp only [styleOf] at h
  split at h
  · next hfeed =>
      split at h
      · next hblock =>
          simp only [Traits.allowsBlock, traits, Bool.not_eq_true', Bool.or_eq_false_iff,
            List.any_eq_false] at hblock
          refine ⟨?_, fun c hc => by simpa using hblock.2 c hc⟩
          rintro rfl
          simp at hfeed
      · cases h
  · split at h
    · cases h
    · split at h <;> cases h

/-- **A text begins a token**, whatever its style. -/
theorem exists_writeText (column : Nat) (cs : List Char) :
    ∃ c rest, writeText column cs = c :: rest ∧ StartsToken c := by
  cases hstyle : styleOf cs with
  | plain =>
      obtain ⟨hplain, -, hwritable⟩ := of_style_plain hstyle
      obtain ⟨c, cs, rfl⟩ := List.exists_cons_of_ne_nil hplain.ne_nil
      obtain ⟨hc, hbreak⟩ := hwritable c (List.mem_cons_self ..)
      have hspace : c ≠ ' ' := by simpa using hplain.first
      refine ⟨c, cs, by rw [writeText, hstyle], isGapOrBreak_eq_false hc hbreak hspace, ?_, ?_⟩
      · rintro rfl
        exact absurd (hplain.leading _ _ rfl) (by simp [isLeadingIndicator])
      · rintro rfl
        exact absurd hc (by decide)
  | single => exact ⟨'\'', _, by rw [writeText, hstyle], rfl, by decide, by decide⟩
  | double => exact ⟨'"', _, by rw [writeText, hstyle], rfl, by decide, by decide⟩
  | literal => exact ⟨'|', _, by rw [writeText, hstyle], rfl, by decide, by decide⟩

/-! ### Values without lines of their own -/

/-- What is read for a text: where the whole text ends behind a block, the block has lost the line
feeds at its end. -/
def textBehind (cs : List Char) : Behind → List Char
  | .line _ _ _ => cs
  | .finish => if styleOf cs = .literal then Text.dropEndWhile (· == '\n') cs else cs

/-- Only a block loses something at the end of the text. -/
theorem textBehind_of_ne {cs : List Char} (h : styleOf cs ≠ .literal) (behind : Behind) :
    textBehind cs behind = cs := by
  cases behind with
  | line column first rest => rfl
  | finish => exact if_neg h

/-- **A word without quotes**, to the right of its collection. -/
theorem settles_word {text : List Char} (htext : IsPlain text)
    (hbreaks : ∀ c ∈ text, breaksLine c = false) (found : List Token) {columns : List Nat}
    (keyAllowed : Bool) {m : Mark} (hcolumn : ∀ n, columns.head? = some n → n < m.column)
    {behind : Behind} (hbehind : behind.Follows (marginOf columns)) :
    Settles (.of found columns keyAllowed none { rest := follow text behind, mark := m }) columns
      (kindsOf found ++ [.scalar text (!readsAsText text)]) behind := by
  have hfollow : follow text behind = text ++ behind.gap := by
    obtain ⟨start, c, rfl⟩ := (List.eq_nil_or_concat' text).resolve_left htext.ne_nil
    exact follow_concat start (hbreaks c (by simp)) behind
  have hmargin : marginOf columns ≤ m.column + 1 := by
    rcases columns with - | ⟨n, columns⟩
    · exact Nat.zero_le _
    · exact Nat.succ_le_succ (Nat.le_of_lt (hcolumn n rfl))
  have hidle : IsIdle m.line (offered found columns keyAllowed m) :=
    isIdle_offered found keyAllowed fun h => Nat.lt_irrefl _ (hcolumn _ h)
  have hpos : 0 < text.length := List.length_pos_of_ne_nil htext.ne_nil
  have hkinds := kindsOf_cons { line := m.line + 1, kind := .scalar text true } found
  rw [hfollow]
  cases behind with
  | finish =>
      obtain ⟨kept, hkept, hidle', -⟩ := hidle.renewed (m.after text)
      exact settles_finish (emit_plain htext hmargin .finish hkept) hkinds (by simp)
        (hidle'.mono (m.line_le_after text)) (by simpa [Lexer.of, Behind.gap] using hpos)
  | line column first rest =>
      obtain ⟨kept, hkept, -, hlost⟩ :=
        hidle.renewed { line := (m.after text).line + 1, column }
      have hnone : kept = none := hlost (Nat.lt_succ_of_le (m.line_le_after text))
      subst hnone
      have hcolumn' : column < marginOf columns := hbehind.left.1
      have hemit := emit_plain htext hmargin
        (.line column first rest hcolumn' hbehind.left.2) hkept
      refine settles_line hemit hkinds (by simp) rfl hbehind.begins ?_
      simp only [Lexer.of, List.length_append, Behind.gap, List.length_cons]
      omega

/-- The gap behind a node begins with no quote. -/
theorem Behind.head?_gap (behind : Behind) : behind.gap.head? ≠ some '\'' := by
  cases behind <;> simp [gap]

/-- A text in quotes, to the right of its collection. -/
theorem settles_quoted (double : Bool) {text start : List Char} (found : List Token)
    {columns : List Nat} (keyAllowed : Bool) {m : Mark}
    (hread : ∀ rest, rest.head? ≠ some '\'' →
      readQuoted double { rest := start ++ [if double then '"' else '\''] ++ rest,
                          mark := m.step (if double then '"' else '\'') } =
        .ok (text, { rest, mark := m.after ((if double then '"' else '\'') ::
          (start ++ [if double then '"' else '\''])) }))
    (hcolumn : ∀ n, columns.head? = some n → n < m.column) {behind : Behind}
    (hbegins : BeginsToken behind.rest) :
    Settles (.of found columns keyAllowed none
        { rest := follow ((if double then '"' else '\'') ::
            (start ++ [if double then '"' else '\''])) behind, mark := m }) columns
      (kindsOf found ++ [.scalar text false]) behind := by
  have hquote : breaksLine (if double then '"' else '\'') = false := by cases double <;> rfl
  rw [← List.cons_append, follow_concat _ hquote, List.cons_append, List.cons_append]
  have hidle : IsIdle m.line (offered found columns keyAllowed m) :=
    isIdle_offered found keyAllowed fun h => Nat.lt_irrefl _ (hcolumn _ h)
  obtain ⟨kept, hkept, hidle', -⟩ := hidle.renewed (m.after ((if double then '"' else '\'') ::
    (start ++ [if double then '"' else '\''])))
  have hemit := emit_quoted double (hread behind.gap behind.head?_gap) hkept
  refine settles_gap hemit (kindsOf_cons _ found) (by simp)
    (hidle'.mono (m.line_le_after _)) hbegins ?_
  simp only [Lexer.of, List.length_cons, List.length_append]
  omega

/-- **A text**, to the right of its collection. -/
theorem settles_text (cs : List Char) (found : List Token) {columns : List Nat}
    (keyAllowed : Bool) {m : Mark} (hcolumn : ∀ n, columns.head? = some n → n < m.column)
    {behind : Behind} (hbehind : behind.Follows (marginOf columns)) :
    Settles (.of found columns keyAllowed none
        { rest := follow (writeText (marginOf columns - 1 + 2) cs) behind, mark := m }) columns
      (kindsOf found ++ [.scalar (textBehind cs behind) false]) behind := by
  cases hstyle : styleOf cs with
  | plain =>
      obtain ⟨hplain, hreads, hbreaks⟩ := of_style_plain hstyle
      have hsettles := settles_word hplain (fun c hc => (hbreaks c hc).2) found keyAllowed hcolumn
        hbehind
      rw [writeText, hstyle, textBehind_of_ne (by simp [hstyle])]
      simpa [hreads] using hsettles
  | single =>
      rw [writeText, hstyle, textBehind_of_ne (by simp [hstyle])]
      refine settles_quoted false found keyAllowed (fun rest hrest => ?_) hcolumn
        hbehind.begins
      exact readQuoted_single (by omega) (of_style_single hstyle).1 hrest
        (by simp [Mark.step, isBreak])
  | double =>
      rw [writeText, hstyle, textBehind_of_ne (by simp [hstyle])]
      refine settles_quoted true found keyAllowed (fun rest _ => ?_) hcolumn
        hbehind.begins
      exact readQuoted_double cs rest (by simp [Mark.step, isBreak])
  | literal =>
      obtain ⟨hne, hwritable⟩ := of_style_literal hstyle
      have htext : writeText (marginOf columns - 1 + 2) cs =
          '|' :: literalTail (marginOf columns - 1 + 2) cs := by
        rw [writeText, hstyle, literalTail]
      have htail : literalTail (marginOf columns - 1 + 2) cs ≠ [] := by simp [literalTail]
      rw [htext, follow_cons_of_ne_nil (by decide) htail]
      cases behind with
      | line column first rest =>
          have hleft : column < marginOf columns := hbehind.left.1
          obtain ⟨place, hread, hplace⟩ := readBlock_line hne hwritable
            (by omega : column < marginOf columns - 1 + 2) hbehind.left.2 rest (m.step '|')
          refine settles_line (emit_block hread) (kindsOf_cons _ found) (by simp) hplace
            hbehind.begins ?_
          simp only [Lexer.of, List.length_cons, follow, List.length_append]
          omega
      | finish =>
          obtain ⟨place, hread⟩ := readBlock_finish hne hwritable (marginOf columns) (m.step '|')
          rw [textBehind, if_pos hstyle]
          exact settles_finish (emit_block hread) (kindsOf_cons _ found) (by simp)
            (isIdle_none _) (by simp [Lexer.of])

/-! ### Empty collections -/

/-- The two kinds of brackets with their tokens. -/
inductive IsBrackets : Char → Char → TokenKind → TokenKind → Prop
  /-- An empty sequence. -/
  | sequence : IsBrackets '[' ']' .flowSequenceStart .flowSequenceEnd
  /-- An empty mapping. -/
  | mapping : IsBrackets '{' '}' .flowMappingStart .flowMappingEnd

/-- A state inside of a bracket. -/
def Lexer.ofFlow (found : List Token) (columns : List Nat) (outer : Option Candidate)
    (cursor : Cursor) : Lexer :=
  { Lexer.of found columns true none cursor with outer := [outer] }

/-- The candidate outside of a bracket has been looked at. -/
theorem renewCandidates_ofFlow {outer kept : Option Candidate} {cursor : Cursor}
    (hkept : Lexer.renewed cursor.mark outer = .ok kept) :
    (Lexer.ofFlow found columns outer cursor).renewCandidates =
      .ok (Lexer.ofFlow found columns kept cursor) := by
  have hnone : Lexer.renewed cursor.mark none = .ok none := rfl
  simp [Lexer.renewCandidates, Lexer.ofFlow, Lexer.of, Lexer.mark, hkept, hnone, bind, Except.bind,
    pure, Except.pure]

/-- An opening bracket is taken. -/
theorem emit_opening {opening closing : Char} {start stop : TokenKind}
    (h : IsBrackets opening closing start stop) {rest : List Char} {kept : Option Candidate}
    (hkept : Lexer.renewed (m.step opening) (offered found columns keyAllowed m) = .ok kept) :
    (Lexer.of found columns keyAllowed none { rest := opening :: rest, mark := m }).emit =
      .ok (.ofFlow ({ line := m.line + 1, kind := start } :: found) columns kept
        { rest, mark := m.step opening }) := by
  have hdispatch : ∀ s : Lexer, s.cursor = { rest := opening :: rest, mark := m } →
      s.dispatch opening = s.takeOpening start := by
    intro s hs
    cases h <;> simp [Lexer.dispatch, hs, Cursor.isAtTriple]
  have htake : (Lexer.of found columns keyAllowed none
      { rest := opening :: rest, mark := m }).takeOpening start =
        .ok (.ofFlow ({ line := m.line + 1, kind := start } :: found) columns
          (offered found columns keyAllowed m) { rest, mark := m.step opening }) := by
    rw [Lexer.takeOpening, offerCandidate_of]
    rfl
  have htaken := hdispatch (.of found columns keyAllowed none
    { rest := opening :: rest, mark := m }) rfl
  rw [htake] at htaken
  rw [emit_of_dispatch rfl htaken]
  exact renewCandidates_ofFlow hkept

/-- A closing bracket is next. -/
theorem ready_closing (found : List Token) (columns : List Nat) {opening closing : Char}
    {start stop : TokenKind} (h : IsBrackets opening closing start stop) (rest : List Char)
    {outer kept : Option Candidate} (hkept : Lexer.renewed m outer = .ok kept) :
    (Lexer.ofFlow found columns outer { rest := closing :: rest, mark := m }).ready =
      .ok (.ofFlow found columns kept { rest := closing :: rest, mark := m }) := by
  have hbegins : BeginsToken (closing :: rest) := by
    refine beginsToken_cons ?_ rest
    cases h <;> exact ⟨rfl, by decide, by decide⟩
  have hmark : Cursor.isAt { rest := closing :: rest, mark := m } '\uFEFF' = false := by
    cases h <;> rfl
  have hskip : Lexer.skipBlanks false ((closing :: rest).length + 1) false
      { rest := closing :: rest, mark := m } = (false, { rest := closing :: rest, mark := m }) :=
    skipBlanks_pad false (closing :: rest).length false 0 hbegins m
  have hnext : (Lexer.ofFlow found columns outer
      { rest := closing :: rest, mark := m }).toNextToken =
        .ofFlow found columns outer { rest := closing :: rest, mark := m } := by
    have hcursor : (Lexer.ofFlow found columns outer
      { rest := closing :: rest, mark := m }).cursor = { rest := closing :: rest, mark := m } := rfl
    have hflow : (Lexer.ofFlow found columns outer
      { rest := closing :: rest, mark := m }).inFlow = true := rfl
    rw [Lexer.toNextToken, hcursor, hmark, Bool.and_false, hflow]
    simp only [Bool.false_eq_true, if_false, if_true, hskip]
    rfl
  rw [Lexer.ready, hnext, renewCandidates_ofFlow hkept]
  rfl

/-- A closing bracket is taken. -/
theorem emit_closing (found : List Token) (columns : List Nat) {opening closing : Char}
    {start stop : TokenKind} (h : IsBrackets opening closing start stop) (rest : List Char)
    {outer kept : Option Candidate} (hkept : Lexer.renewed (m.step closing) outer = .ok kept) :
    (Lexer.ofFlow found columns outer { rest := closing :: rest, mark := m }).emit =
      .ok (.of ({ line := m.line + 1, kind := stop } :: found) columns false kept
        { rest, mark := m.step closing }) := by
  have hdispatch : ∀ s : Lexer, s.cursor = { rest := closing :: rest, mark := m } →
      s.dispatch closing = s.takeClosing stop := by
    intro s hs
    cases h <;> simp [Lexer.dispatch, hs, Cursor.isAtTriple]
  have htaken := hdispatch (.ofFlow found columns outer { rest := closing :: rest, mark := m }) rfl
  have htake : (Lexer.ofFlow found columns outer
      { rest := closing :: rest, mark := m }).takeClosing stop =
        .ok (.of ({ line := m.line + 1, kind := stop } :: found) columns false outer
          { rest, mark := m.step closing }) := rfl
  rw [htake] at htaken
  rw [emit_of_dispatch rfl htaken, renewCandidates_of, hkept]
  rfl

/-- **An empty collection**, to the right of its collection. -/
theorem settles_empty {opening closing : Char} {start stop : TokenKind}
    (h : IsBrackets opening closing start stop) (found : List Token) {columns : List Nat}
    (keyAllowed : Bool) {m : Mark} (hcolumn : ∀ n, columns.head? = some n → n < m.column)
    {behind : Behind} (hbegins : BeginsToken behind.rest) :
    Settles (.of found columns keyAllowed none
        { rest := follow [opening, closing] behind, mark := m }) columns
      (kindsOf found ++ [start, stop]) behind := by
  have hclosing : breaksLine closing = false := by cases h <;> rfl
  have hfollow : follow [opening, closing] behind = opening :: closing :: behind.gap :=
    follow_concat [opening] hclosing behind
  have hkinds : start.settled = start ∧ stop.settled = stop ∧ start ≠ .streamEnd ∧
      stop ≠ .streamEnd := by
    cases h <;> simp [TokenKind.settled]
  have hidle : IsIdle m.line (offered found columns keyAllowed m) :=
    isIdle_offered found keyAllowed fun h => Nat.lt_irrefl _ (hcolumn _ h)
  obtain ⟨kept, hkept, hidle', -⟩ := hidle.renewed (m.step opening)
  obtain ⟨kept', hkept', hidle'', -⟩ := hidle'.renewed (m.step opening)
  obtain ⟨last, hlast, hidlelast, -⟩ := hidle''.renewed ((m.step opening).step closing)
  have hgoes := isDone_eq_false (s := .ofFlow ({ line := m.line + 1, kind := start } :: found)
    columns kept { rest := closing :: behind.gap, mark := m.step opening })
    (kindsOf_cons _ found) (by rw [hkinds.1]; exact hkinds.2.2.1)
  have hready := ready_closing ({ line := m.line + 1, kind := start } :: found) columns h behind.gap
    hkept'
  rw [hfollow]
  refine .of_reaches (.move (emit_opening h hkept) hgoes hready ?_ (.refl _)) ?_
  · simp [Lexer.ofFlow, Lexer.of]
  · have hemit := emit_closing ({ line := m.line + 1, kind := start } :: found) columns h behind.gap
      hlast
    have hall : kindsOf (⟨(m.step opening).line + 1, stop⟩ :: ⟨m.line + 1, start⟩ :: found) =
        kindsOf found ++ [start] ++ [stop] := by
      rw [kindsOf_cons, kindsOf_cons, hkinds.1, hkinds.2.1]
    have hclosed := settles_gap hemit hall hkinds.2.2.2
      (hidlelast.mono (Mark.line_le_after m [opening, closing])) hbegins
      (by simp [Lexer.ofFlow, Lexer.of])
    rwa [List.append_assoc] at hclosed

end JsonWorkbench.Yaml
