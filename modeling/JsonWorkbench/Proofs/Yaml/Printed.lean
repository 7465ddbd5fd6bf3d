import JsonWorkbench.Proofs.Value
import JsonWorkbench.Proofs.Yaml.Layout
import Mathlib.Tactic.Tauto

/-!
# Whole Written Texts

The writer puts down no other characters than those that it may write as they are: all others are
escaped in double quotes. The reader takes all of them, and has no line breaks to unify among them.
So a scan of what is written for a value finds the tokens of that value, from the first column on.

## Main definitions

* `bodyText` — what is written for a value, up to the end of its last line.

## Main results

* `isWritable_of_mem_bodyText` — the characters of a written value.
* `scan_write` — the tokens of its text, without the line feeds at the end.
-/

namespace JsonWorkbench.Yaml

/-! ### Reading -/

/-- What can be written may stand in a text. -/
theorem isPrintable_of_isWritable {c : Char} (h : isWritable c = true) : isPrintable c = true := by
  simp only [isWritable, isPrintable, Bool.or_eq_true, Bool.and_eq_true, beq_iff_eq,
    decide_eq_true_eq] at h ⊢
  omega

/-- What can be written has no other line breaks than the reader's. -/
theorem unifyBreaks_of_isWritable {cs : List Char} (h : ∀ c ∈ cs, isWritable c = true) :
    unifyBreaks cs = cs := by
  induction cs with
  | nil => rfl
  | cons c cs ih =>
      rw [List.forall_mem_cons] at h
      have hreturn : c ≠ '\r' ∧ c ≠ '\u0085' := by
        constructor <;> rintro rfl <;> exact absurd h.1 (by decide)
      rw [unifyBreaks, ih h.2]
      · simp [hreturn]
      · exact fun _ hc _ => hreturn.1 hc

/-! ### Scalars -/

/-- Blanks can be written. -/
theorem isWritable_of_mem_pad {n : Nat} {c : Char} (h : c ∈ pad n) : isWritable c = true := by
  rw [(List.mem_replicate.mp h).2]
  rfl

/-- The lines in single quotes have no other characters than the text. -/
theorem isWritable_of_mem_writeSingle {column : Nat} {afterBreak : Bool} {cs : List Char}
    (hcs : ∀ c ∈ cs, isWritable c = true) {c : Char} (h : c ∈ writeSingle column afterBreak cs) :
    isWritable c = true := by
  induction cs generalizing afterBreak with
  | nil =>
      rw [writeSingle] at h
      split at h
      · exact isWritable_of_mem_pad h
      · simp at h
  | cons d cs ih =>
      rw [List.forall_mem_cons] at hcs
      rw [writeSingle] at h
      split at h
      · rcases List.mem_cons.mp h with rfl | h
        · exact hcs.1
        · exact ih hcs.2 h
      · rw [List.mem_append, List.mem_append] at h
        rcases h with (h | h) | h
        · split at h
          · exact isWritable_of_mem_pad h
          · simp at h
        · have hd : c = d := by
            split at h <;> simpa using h
          rw [hd, hcs.1]
        · exact ih hcs.2 h

/-- The lines of a block have no other characters than the text. -/
theorem isWritable_of_mem_writeLiteral {column : Nat} {afterBreak : Bool} {cs : List Char}
    (hcs : ∀ c ∈ cs, isWritable c = true) {c : Char} (h : c ∈ writeLiteral column afterBreak cs) :
    isWritable c = true := by
  induction cs generalizing afterBreak with
  | nil => simp [writeLiteral] at h
  | cons d cs ih =>
      rw [List.forall_mem_cons] at hcs
      rw [writeLiteral] at h
      split at h
      · rcases List.mem_cons.mp h with rfl | h
        · exact hcs.1
        · exact ih hcs.2 h
      · rw [List.mem_append, List.mem_cons] at h
        rcases h with h | rfl | h
        · split at h
          · exact isWritable_of_mem_pad h
          · simp at h
        · exact hcs.1
        · exact ih hcs.2 h

/-- The header of a block. -/
theorem isWritable_of_mem_literalHints {cs : List Char} (hne : cs ≠ []) {c : Char}
    (h : c ∈ literalHints cs) : isWritable c = true := by
  obtain ⟨chomping, -, hhints⟩ := exists_literalHints hne
  rw [hhints, List.mem_append] at h
  rcases h with h | h
  · split at h
    · rw [List.mem_singleton.mp h]
      rfl
    · simp at h
  · cases chomping with
    | clip => simp [Chomping.mark] at h
    | strip =>
        rw [List.mem_singleton.mp h]
        rfl
    | keep =>
        rw [List.mem_singleton.mp h]
        rfl

/-- **A text** is written with characters that can be written. -/
theorem isWritable_of_mem_writeText {column : Nat} {cs : List Char} {c : Char}
    (h : c ∈ writeText column cs) : isWritable c = true := by
  cases hstyle : styleOf cs with
  | plain =>
      rw [writeText, hstyle] at h
      exact ((of_style_plain hstyle).2.2 c h).1
  | single =>
      rw [writeText, hstyle, List.mem_cons, List.mem_append, List.mem_singleton] at h
      rcases h with rfl | h | rfl
      · rfl
      · exact isWritable_of_mem_writeSingle (of_style_single hstyle).2 h
      · rfl
  | double =>
      rw [writeText, hstyle, List.mem_cons, List.mem_append, List.mem_singleton,
        List.mem_flatMap] at h
      rcases h with rfl | ⟨d, -, hd⟩ | rfl
      · rfl
      · exact (writable_of_mem_escapeDouble hd).1
      · rfl
  | literal =>
      obtain ⟨hne, hwritable⟩ := of_style_literal hstyle
      rw [writeText, hstyle, List.mem_cons, List.mem_append, List.mem_cons] at h
      rcases h with rfl | h | rfl | h
      · rfl
      · exact isWritable_of_mem_literalHints hne h
      · rfl
      · exact isWritable_of_mem_writeLiteral hwritable h

/-- Letters, digits and signs are written for a value that takes no lines of its own. -/
theorem isWritable_of_mem_writeScalar {v : Value} (hv : v.IsIntegral) {column : Nat} {c : Char}
    (h : c ∈ writeScalar column v) : isWritable c = true := by
  have hword {word : List Char} (hall : word.all isWritable = true) (h : c ∈ word) :
      isWritable c = true := List.all_eq_true.mp hall c h
  cases v with
  | null => exact hword rfl h
  | bool b => cases b <;> exact hword rfl h
  | number n =>
      cases n with
      | double x => exact absurd hv (by simp [Value.IsIntegral])
      | integer n =>
          rw [writeScalar, toList_toString_int, List.mem_append] at h
          rcases h with h | h
          · split at h
            · exact hword rfl h
            · simp at h
          · exact (writable_of_alphanum (isAlphanum_of_mem_digitsOf h)).1
  | string s => exact isWritable_of_mem_writeText h
  | array vs => exact hword rfl h
  | object ms => exact hword rfl h

/-! ### Collections -/

/-- The end of a line. -/
theorem isWritable_of_mem_endedLine {cs : List Char} (hcs : ∀ c ∈ cs, isWritable c = true)
    {c : Char} (h : c ∈ endedLine cs) : isWritable c = true := by
  rcases endedLine_eq cs with ⟨-, -, -, -, heq⟩ | heq <;> rw [heq] at h
  · exact hcs c h
  · rcases List.mem_append.mp h with h | h
    · exact hcs c h
    · rw [List.mem_singleton.mp h]
      rfl

/-- Entries below one another. -/
theorem isWritable_of_mem_stack {column : Nat} {entries : List (List Char)}
    (hentries : ∀ e ∈ entries, ∀ c ∈ e, isWritable c = true) {c : Char}
    (h : c ∈ stack column entries) : isWritable c = true := by
  induction entries with
  | nil => simp [stack] at h
  | cons e entries ih =>
      rw [List.forall_mem_cons] at hentries
      rcases entries with - | ⟨e', entries⟩
      · exact hentries.1 c h
      · rw [stack_cons_cons, List.mem_append, List.mem_append] at h
        rcases h with (h | h) | h
        · exact isWritable_of_mem_endedLine hentries.1 h
        · exact isWritable_of_mem_pad h
        · exact ih hentries.2 h

/-- The items are written behind their marks. -/
theorem exists_of_mem_writeItems {column : Nat} {vs : List Value} {entry : List Char}
    (h : entry ∈ writeItems column vs) :
    ∃ v ∈ vs, entry = '-' :: ' ' :: nodeText (column + 2) v := by
  induction vs with
  | nil => simp [writeItems] at h
  | cons v vs ih =>
      rw [writeItems, List.mem_cons] at h
      rcases h with rfl | h
      · exact ⟨v, List.mem_cons_self .., by rw [writeInline_eq]⟩
      · obtain ⟨w, hw, heq⟩ := ih h
        exact ⟨w, List.mem_cons_of_mem _ hw, heq⟩

/-- The members are written with their keys. -/
theorem exists_of_mem_writePairs {column : Nat} {ms : List (String × Value)} {entry : List Char}
    (h : entry ∈ writePairs column ms) : ∃ k v, (k, v) ∈ ms ∧ entry = pairText column k v := by
  induction ms with
  | nil => simp [writePairs] at h
  | cons m ms ih =>
      obtain ⟨k, v⟩ := m
      rw [writePairs_cons, List.mem_cons] at h
      rcases h with rfl | h
      · exact ⟨k, v, List.mem_cons_self .., rfl⟩
      · obtain ⟨l, w, hw, heq⟩ := ih h
        exact ⟨l, w, List.mem_cons_of_mem _ hw, heq⟩

/-- A member is written with characters that can be written if its value is. -/
theorem isWritable_of_mem_pairText {column : Nat} {k : String} {v : Value}
    (hv : ∀ column, ∀ c ∈ nodeText column v, isWritable c = true) {c : Char}
    (h : c ∈ pairText column k v) : isWritable c = true := by
  rw [pairText] at h
  split at h
  · rw [writeBelow_eq, List.mem_append, List.mem_cons, List.mem_append] at h
    rcases h with h | rfl | h | h
    · exact isWritable_of_mem_writeText h
    · rfl
    · rw [belowLead] at h
      split at h
      · rcases List.mem_cons.mp h with rfl | h
        · rfl
        · exact isWritable_of_mem_pad h
      · exact isWritable_of_mem_pad (@id (c ∈ pad 1) h)
    · exact hv _ c h
  · rw [writeInline_eq, List.mem_append, List.mem_append, List.mem_cons, List.mem_cons] at h
    rcases h with (h | h) | rfl | rfl | h
    · refine isWritable_of_mem_endedLine (fun d hd => ?_) h
      rw [List.mem_cons, List.mem_cons] at hd
      rcases hd with rfl | rfl | hd
      · rfl
      · rfl
      · exact isWritable_of_mem_writeText hd
    · exact isWritable_of_mem_pad h
    · rfl
    · rfl
    · exact hv _ c h

/-- A value without lines of its own is written with characters that can be written. -/
theorem isWritable_of_mem_leaf {v : Value} (hv : v.IsIntegral) (hlines : takesLines v = false)
    (column : Nat) : ∀ c ∈ nodeText column v, isWritable c = true := by
  rw [(of_takesLines_eq_false hlines column .finish).1]
  exact fun c => isWritable_of_mem_writeScalar hv

/-- **A value at a column** is written with characters that can be written. -/
theorem isWritable_of_mem_nodeText {v : Value} (hv : v.IsIntegral) (column : Nat) :
    ∀ c ∈ nodeText column v, isWritable c = true := by
  induction v using Value.induct generalizing column with
  | null => exact isWritable_of_mem_leaf hv rfl column
  | bool b => exact isWritable_of_mem_leaf hv rfl column
  | number n => exact isWritable_of_mem_leaf hv rfl column
  | string s => exact isWritable_of_mem_leaf hv rfl column
  | array vs ih =>
      rcases vs with - | ⟨v, vs⟩
      · exact isWritable_of_mem_leaf hv rfl column
      · refine fun c => isWritable_of_mem_stack fun entry hentry d hd => ?_
        obtain ⟨w, hw, rfl⟩ := exists_of_mem_writeItems hentry
        rw [List.mem_cons, List.mem_cons] at hd
        rcases hd with rfl | rfl | hd
        · rfl
        · rfl
        · exact ih w hw (Value.isIntegral_array_iff.mp hv w hw) _ d hd
  | object ms ih =>
      rcases ms with - | ⟨m, ms⟩
      · exact isWritable_of_mem_leaf hv rfl column
      · refine fun c => isWritable_of_mem_stack fun entry hentry d hd => ?_
        obtain ⟨k, w, hw, rfl⟩ := exists_of_mem_writePairs hentry
        have hvalue := Value.isIntegral_object_iff.mp hv k w hw
        exact isWritable_of_mem_pairText (fun column => ih k w hw hvalue column) hd

/-! ### Whole texts -/

/-- What is written for a value, up to the end of its last line. -/
def bodyText (v : Value) : List Char := if takesLines v then nodeText 0 v else writeScalar 2 v

/-- A text is what is written for its value, with the last line ended. -/
theorem write_eq (v : Value) : write v = endedLine (bodyText v) := by
  rcases v with - | _ | _ | _ | ⟨- | _⟩ | ⟨- | _⟩ <;> rfl

/-- **The characters of a written value.** -/
theorem isWritable_of_mem_bodyText {v : Value} (hv : v.IsIntegral) {c : Char}
    (h : c ∈ bodyText v) : isWritable c = true := by
  rw [bodyText] at h
  split at h
  · exact isWritable_of_mem_nodeText hv 0 c h
  · exact isWritable_of_mem_writeScalar hv h

/-- A text begins with a token. -/
theorem exists_bodyText {v : Value} (hv : v.IsIntegral) :
    ∃ c rest, bodyText v = c :: rest ∧ StartsToken c := by
  rw [bodyText]
  split
  · exact exists_nodeText hv 0
  · exact exists_writeScalar hv 2

/-- The end of the last line is among the line feeds that are taken away. -/
theorem dropEndWhile_write (v : Value) :
    Text.dropEndWhile (· == '\n') (write v) = follow (bodyText v) .finish := by
  rw [write_eq]
  rcases endedLine_eq (bodyText v) with ⟨-, -, -, -, heq⟩ | heq
  · rw [heq, follow]
  · rw [heq, Text.dropEndWhile_append_of_forall (by simp), follow]

/-- A whole value at the start of a text. -/
theorem settles_bodyText {v : Value} (hv : v.IsIntegral) {m : Mark} (hm : m.column = 0) :
    Settles (.of [] [] true none { rest := follow (bodyText v) .finish, mark := m }) []
      (nodeTokens (withoutLastFeeds v)) .finish := by
  have hfinish : Behind.Follows 0 .finish := ⟨trivial, beginsToken_nil⟩
  have hmargin : marginOf [] ≤ m.column := Nat.zero_le m.column
  have hleaf : takesLines v = false →
      Settles (.of [] [] true none { rest := follow (bodyText v) .finish, mark := m }) []
        (nodeTokens (withoutLastFeeds v)) .finish := by
    intro hlines
    have htokens := (of_takesLines_eq_false hlines 0 .finish).2.2.1
    rw [valueBehind] at htokens
    rw [bodyText, hlines, if_neg Bool.false_ne_true, htokens]
    exact settles_leaf hv [] true (by simp) hfinish
  rcases v with - | b | n | s | vs | ms
  case array =>
    by_cases hne : vs = []
    · subst hne
      exact hleaf rfl
    · have hvs := settles_sequence [] hne
        (fun w hw => reads_of_isIntegral (Value.isIntegral_array_iff.mp hv w hw)) hmargin
        (by rw [hm]; exact hfinish)
      rw [hm] at hvs
      obtain ⟨w, vs, rfl⟩ := List.exists_cons_of_ne_nil hne
      exact hvs
  case object =>
    by_cases hne : ms = []
    · subst hne
      exact hleaf rfl
    · have hms := settles_mapping [] hne
        (fun k w hw => reads_of_isIntegral (Value.isIntegral_object_iff.mp hv k w hw)) hmargin
        (by rw [hm]; exact hfinish)
      rw [hm] at hms
      obtain ⟨w, ms, rfl⟩ := List.exists_cons_of_ne_nil hne
      exact hms
  all_goals exact hleaf rfl

/-- **A scan of a written value** finds its tokens, without the line feeds at the end of the last
text. -/
theorem scan_write {v : Value} (hv : v.IsIntegral) :
    ∃ tokens, scan (Text.dropEndWhile (· == '\n') (write v)) = { tokens, fault := none } ∧
      tokens.map (·.kind.settled) = nodeTokens (withoutLastFeeds v) ++ [.streamEnd] := by
  obtain ⟨cs, hcs⟩ : ∃ cs, Text.dropEndWhile (· == '\n') (write v) = cs := ⟨_, rfl⟩
  have htext : follow (bodyText v) .finish = cs := by rw [← hcs, dropEndWhile_write]
  have hwritable : ∀ c ∈ cs, isWritable c = true := by
    obtain ⟨feeds, hfeeds, -⟩ := Text.exists_dropEndWhile (· == '\n') (bodyText v)
    intro c hc
    refine isWritable_of_mem_bodyText hv ?_
    rw [hfeeds]
    rw [← htext] at hc
    exact List.mem_append_left feeds hc
  have hprintable : cs.all isPrintable = true :=
    List.all_eq_true.mpr fun c hc => isPrintable_of_isWritable (hwritable c hc)
  have hbegins : BeginsToken cs := by
    obtain ⟨c, rest, hfollow, hc⟩ := exists_follow (exists_bodyText hv) .finish
    rw [← htext, hfollow]
    exact beginsToken_cons hc rest
  obtain ⟨last, t, hreaches, hemit, hdone, hkinds⟩ :=
    settles_bodyText hv (m := { line := 0, column := 0 }) rfl
  rw [htext] at hreaches
  rw [hcs, scan, hprintable, if_pos rfl, unifyBreaks_of_isWritable hwritable]
  have hready := ready_here [] [] true hbegins
    (rfl : Lexer.renewed { line := 0, column := 0 } none = .ok none)
  refine ⟨t.found.reverse, scanFrom_of_reaches hready hreaches hemit hdone ?_, ?_⟩
  · exact Nat.lt_succ_self _
  · simpa [kindsOf] using hkinds

end JsonWorkbench.Yaml
