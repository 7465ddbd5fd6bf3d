import JsonWorkbench.Proofs.Hexadecimal
import JsonWorkbench.Proofs.Text
import JsonWorkbench.Toml.Printer
import JsonWorkbench.Toml.Reader
import Mathlib.Data.List.TakeWhile
import Mathlib.Tactic.SplitIfs

/-!
# Reading TOML Strings

A text in any of the four kinds of quotes is read back as it is. In double quotes a character is
escaped or stands for itself; in single quotes every character stands for itself, so that they are
chosen only for texts without the characters that end them.

In three quotes, one or two quotes may stand inside. The reader takes a run of quotes as a whole,
and at the end of the text the run goes on in the closing quotes. The induction therefore carries
the quotes that stand directly before the rest of the text.

## Main definitions

* `EscapesTo` — how a character is written in double quotes.

## Main results

* `scanBasic_escaped`, `scanLiteral_append` — strings on one line.
* `scanLong_append` — strings of several lines.
* `scanString_writeString` — a string is read back from its text.
* `scanSimpleKey_writeKey` — a key is read back from its text.
-/

namespace JsonWorkbench.Toml

/-! ### Escapes -/

/-- A text that can stand in double quotes for a character, other than a bare quote. -/
inductive EscapesTo (long : Bool) (c : Char) : List Char → Prop
  /-- The character stands for itself. -/
  | plain (htext : isTextChar c = true) (hslash : c ≠ '\\') (hquote : c ≠ '"') :
      EscapesTo long c [c]
  /-- A line feed stands for itself in a text of several lines. -/
  | lineFeed (hlong : long = true) (hc : c = '\n') : EscapesTo long c [c]
  /-- The character is escaped. -/
  | escape {letter : Char} {more : List Char} (hgap : isBlank letter = false)
      (hline : letter ≠ '\n' ∧ letter ≠ '\r')
      (h : ∀ rest, scanEscape (letter :: (more ++ rest)) = .ok (c, rest)) :
      EscapesTo long c ('\\' :: letter :: more)

/-- A character is read by its number. -/
theorem scanCode_hexText {width : Nat} {c : Char} (hw : 0 < width) (hc : c.toNat < 16 ^ width)
    (rest : List Char) : scanCode width (Text.hexText width c.toNat ++ rest) = .ok (c, rest) := by
  have hlength : (Text.hexText width c.toNat).length = width := Text.length_hexText hw hc
  have hnumber := Text.hexNumber?_hexText width c.toNat
  have hdigits : (Text.hexText width c.toNat).takeWhile (fun d => (Text.hexValue? d).isSome) =
      Text.hexText width c.toNat :=
    List.takeWhile_eq_self_iff.mpr (Text.isSome_hexValue?_of_hexNumber? hnumber)
  rw [scanCode, List.take_left' hlength, List.drop_left' hlength, hdigits]
  simp only [hlength, if_true, hnumber, Option.bind_some, Text.scalar?_toNat]

/-- An escape by a number of four digits. -/
theorem scanEscape_number (cs : List Char) : scanEscape ('u' :: cs) = scanCode 4 cs := rfl

/-- A character that needs no escape stands for itself, a line feed apart. -/
theorem isTextChar_of_needsEscape {c : Char} (h : needsEscape c = false) (hfeed : c ≠ '\n') :
    isTextChar c = true := by
  have htab : c = '\t' → c.toNat = 9 := by
    rintro rfl
    rfl
  have hdelete : c.toNat = 0x7F → c = '\x7f' := fun hn => Char.toNat_inj.mp hn
  simp only [needsEscape, Bool.or_eq_false_iff, Bool.and_eq_false_iff, decide_eq_false_iff_not,
    beq_eq_false_iff_ne] at h
  simp only [isTextChar, Bool.or_eq_true, beq_iff_eq, Bool.and_eq_true, decide_eq_true_eq]
  rcases h with ⟨(hcontrol | htab') | hfeed', hne⟩
  · exact .inr ⟨by omega, fun hn => hne (hdelete hn)⟩
  · exact .inl (htab (not_not.mp htab'))
  · exact absurd (not_not.mp hfeed') hfeed

/-- What is written for a character in double quotes, if it is not a quote. -/
def escapeText (long : Bool) (c : Char) : List Char :=
  if c == '\x08' then ['\\', 'b']
  else if c == '\t' then ['\\', 't']
  else if c == '\n' then (if long then ['\n'] else ['\\', 'n'])
  else if c == '\x0c' then ['\\', 'f']
  else if c == '\r' then ['\\', 'r']
  else if c == '\\' then ['\\', '\\']
  else if needsEscape c then '\\' :: 'u' :: Text.hexText 4 c.toNat
  else [c]

/-- A character that is not a quote is written by itself, whatever stands before it. -/
theorem escapeFrom_cons {c : Char} (hquote : c ≠ '"') (long : Bool) (quotes : Nat)
    (cs : List Char) :
    escapeFrom long quotes (c :: cs) = escapeText long c ++ escapeFrom long 0 cs := by
  have hnot : (c == '"') = false := by simpa using hquote
  rw [escapeFrom, hnot, if_neg Bool.false_ne_true, escapeText]
  split_ifs <;> rfl

/-- A quote stands for itself as long as there are not too many in a row. -/
theorem escapeFrom_quote (long : Bool) (quotes : Nat) (cs : List Char) :
    escapeFrom long quotes ('"' :: cs) =
      if quotes < (if long then 2 else 0) then '"' :: escapeFrom long (quotes + 1) cs
      else ['\\', '"'] ++ escapeFrom long 0 cs := rfl

/-- **What is written for a character** stands for it. -/
theorem escapesTo_escapeText {c : Char} (hquote : c ≠ '"') (long : Bool) :
    EscapesTo long c (escapeText long c) := by
  rw [escapeText]
  split_ifs with hb ht hn hlong hf hr hslash hneeds
  · exact .escape rfl (by decide) fun rest => by rw [beq_iff_eq.mp hb]; rfl
  · exact .escape rfl (by decide) fun rest => by rw [beq_iff_eq.mp ht]; rfl
  · have hc : c = '\n' := beq_iff_eq.mp hn
    exact hc ▸ .lineFeed hlong hc
  · exact .escape rfl (by decide) fun rest => by rw [beq_iff_eq.mp hn]; rfl
  · exact .escape rfl (by decide) fun rest => by rw [beq_iff_eq.mp hf]; rfl
  · exact .escape rfl (by decide) fun rest => by rw [beq_iff_eq.mp hr]; rfl
  · exact .escape rfl (by decide) fun rest => by rw [beq_iff_eq.mp hslash]; rfl
  · have hsmall : c.toNat < 16 ^ 4 := by
      simp only [needsEscape, Bool.or_eq_true, Bool.and_eq_true, decide_eq_true_eq,
        beq_iff_eq] at hneeds
      rcases hneeds with ⟨⟨hlt, -⟩, -⟩ | rfl
      · exact Nat.lt_trans hlt (by decide)
      · decide
    refine .escape rfl (by decide) fun rest => ?_
    rw [scanEscape_number, scanCode_hexText (by decide) hsmall]
  · have hfeed : c ≠ '\n' := by simpa using hn
    have hno : needsEscape c = false := by simpa using hneeds
    exact .plain (isTextChar_of_needsEscape hno hfeed) (by simpa using hslash) hquote

/-- A quote may be escaped. -/
theorem escapesTo_quote (long : Bool) : EscapesTo long '"' ['\\', '"'] :=
  .escape rfl (by decide) fun _ => rfl

/-- A bare quote stands for no character. -/
theorem EscapesTo.first {long : Bool} {c : Char} {text : List Char} (h : EscapesTo long c text) :
    ∃ d more, text = d :: more ∧ d ≠ '"' := by
  cases h with
  | plain _ _ hquote => exact ⟨_, _, rfl, hquote⟩
  | lineFeed _ hc => exact ⟨_, _, rfl, by rw [hc]; decide⟩
  | escape _ _ _ => exact ⟨_, _, rfl, by decide⟩

/-- On one line every character is escaped that does not stand for itself, quotes too. -/
theorem exists_escapesTo (c : Char) (quotes : Nat) (cs : List Char) :
    ∃ text, EscapesTo false c text ∧
      escapeFrom false quotes (c :: cs) = text ++ escapeFrom false 0 cs := by
  by_cases hquote : c = '"'
  · exact ⟨_, hquote ▸ escapesTo_quote false, by rw [hquote]; rfl⟩
  · exact ⟨_, escapesTo_escapeText hquote false, escapeFrom_cons hquote false quotes cs⟩

/-! ### Strings on one line -/

/-- Behind a backslash in a text in double quotes stands an escape. -/
theorem scanBasicFrom_backslash (fuel : Nat) (cs : List Char) :
    scanBasicFrom (fuel + 1) ('\\' :: cs) =
      match scanEscape cs with
      | .error f => .error f
      | .ok (x, rest) => (scanBasicFrom fuel rest).map fun (s, behind) => (x :: s, behind) := rfl

/-- A character in double quotes is read. -/
theorem scanBasicFrom_append {c : Char} {text : List Char} (h : EscapesTo false c text)
    (fuel : Nat) (rest : List Char) :
    scanBasicFrom (fuel + 1) (text ++ rest) =
      (scanBasicFrom fuel rest).map fun (s, behind) => (c :: s, behind) := by
  cases h with
  | plain htext hslash hquote =>
      simp only [List.singleton_append, scanBasicFrom, beq_iff_eq, hquote, hslash, htext, if_false,
        if_true]
  | lineFeed hlong _ => exact absurd hlong Bool.false_ne_true
  | @escape letter more _ _ h =>
      rw [List.cons_append, List.cons_append, scanBasicFrom_backslash, h]

/-- **A text in double quotes** is read back. -/
theorem scanBasicFrom_escaped (cs rest : List Char) (quotes : Nat) {fuel : Nat}
    (hfuel : (escapeFrom false quotes cs).length < fuel) :
    scanBasicFrom fuel (escapeFrom false quotes cs ++ '"' :: rest) = .ok (cs, rest) := by
  induction cs generalizing quotes fuel with
  | nil =>
      obtain ⟨n, rfl⟩ := Nat.exists_eq_add_of_le' hfuel
      rfl
  | cons c cs ih =>
      obtain ⟨text, htext, hwrite⟩ := exists_escapesTo c quotes cs
      have hpos : 0 < text.length := by
        obtain ⟨d, more, rfl, -⟩ := htext.first
        exact Nat.succ_pos _
      rw [hwrite, List.length_append] at hfuel
      obtain ⟨n, rfl⟩ : ∃ n, fuel = n + 1 := ⟨fuel - 1, by omega⟩
      have hcs : (escapeFrom false 0 cs).length < n := by omega
      rw [hwrite, List.append_assoc, scanBasicFrom_append htext, ih 0 hcs]
      rfl

/-- A text in double quotes is read back. -/
theorem scanBasic_escaped (cs rest : List Char) :
    scanBasic (escapeFrom false 0 cs ++ '"' :: rest) = .ok (cs, rest) := by
  refine scanBasicFrom_escaped cs rest 0 ?_
  rw [List.length_append]
  omega

/-- A text without control characters and line feeds has characters that stand for themselves. -/
theorem isTextChar_of_any {cs : List Char} (hcontrol : cs.any needsEscape = false)
    (hlines : cs.contains '\n' = false) : ∀ c ∈ cs, isTextChar c = true := by
  intro c hc
  rw [List.any_eq_false] at hcontrol
  refine isTextChar_of_needsEscape (by simpa using hcontrol c hc) ?_
  rintro rfl
  exact absurd (List.contains_iff_mem.mpr hc) (by rw [hlines]; exact Bool.false_ne_true)

/-- **A text in single quotes** is read back. -/
theorem scanLiteral_append {cs : List Char} (htext : ∀ c ∈ cs, isTextChar c = true)
    (hquote : '\'' ∉ cs) (rest : List Char) :
    scanLiteral (cs ++ '\'' :: rest) = .ok (cs, rest) := by
  have hrun : ∀ c ∈ cs, (c ≠ '\'' && isTextChar c) = true := by
    intro c hc
    have hne : c ≠ '\'' := fun heq => hquote (heq ▸ hc)
    simp [hne, htext c hc]
  have hstops : Text.Stops (fun c => c ≠ '\'' && isTextChar c) ('\'' :: rest) :=
    Text.stops_cons.mpr rfl
  have hspan := Text.span_append hrun hstops
  simp only [scanLiteral, hspan]

/-! ### Strings of several lines -/

/-- The longest run of a character is at least as long as the run that has begun. -/
theorem le_longestRun (x : Char) (run : Nat) (cs : List Char) : run ≤ longestRun x run cs := by
  induction cs generalizing run with
  | nil => exact Nat.le_refl run
  | cons c cs ih =>
      rw [longestRun]
      split
      · exact Nat.le_trans (Nat.le_succ run) (ih (run + 1))
      · exact Nat.le_max_left _ _

/-- A character without runs does not occur. -/
theorem not_mem_of_longestRun {x : Char} {run : Nat} {cs : List Char}
    (h : longestRun x run cs = 0) : x ∉ cs := by
  induction cs generalizing run with
  | nil => exact List.not_mem_nil
  | cons c cs ih =>
      rw [longestRun] at h
      split at h
      · have hle := le_longestRun x (run + 1) cs
        omega
      · next hc =>
          have hcs : longestRun x 0 cs = 0 := by omega
          rw [List.mem_cons, not_or]
          exact ⟨fun heq => hc (by simp [heq]), ih hcs⟩

/-- A text that is read as a character in a string of several lines. -/
structure ReadsLong (quote c : Char) (text : List Char) : Prop where
  /-- The text begins neither with a quote nor with a line end, line feeds apart. -/
  first : ∃ d more, text = d :: more ∧ d ≠ quote ∧ d ≠ '\r' ∧ (d = '\n' → c = '\n')
  /-- Reading takes exactly the text. -/
  reads : ∀ fuel rest, scanLongFrom quote (fuel + 1) (text ++ rest) =
    (scanLongFrom quote fuel rest).map fun (s, behind) => (c :: s, behind)

/-- A line feed is read. -/
theorem readsLong_lineFeed {quote : Char} (hquote : '\n' ≠ quote) :
    ReadsLong quote '\n' ['\n'] := by
  refine ⟨⟨_, _, rfl, hquote, by decide, fun _ => rfl⟩, fun fuel rest => ?_⟩
  have hnot : ('\n' == quote) = false := by simpa using hquote
  rw [List.singleton_append, scanLongFrom, hnot, if_neg Bool.false_ne_true]
  rfl

/-- A character that stands for itself is read. -/
theorem readsLong_plain {quote c : Char} (htext : isTextChar c = true) (hquote : c ≠ quote)
    (hslash : (c == '\\' && quote == '"') = false) : ReadsLong quote c [c] := by
  have hreturn : c ≠ '\r' := by
    rintro rfl
    exact absurd htext (by decide)
  refine ⟨⟨_, _, rfl, hquote, hreturn, id⟩, fun fuel rest => ?_⟩
  have hfeed : c ≠ '\n' := by
    rintro rfl
    exact absurd htext (by decide)
  have hnot : (c == quote) = false := by simpa using hquote
  have hbreak : (c == '\n' || c == '\r') = false := by simp [hfeed, hreturn]
  rw [List.singleton_append, scanLongFrom, hnot, if_neg Bool.false_ne_true, hslash,
    if_neg Bool.false_ne_true, hbreak, if_neg Bool.false_ne_true, if_pos htext]
  rfl

/-- Behind a backslash in a text in three double quotes stands a line end or an escape. -/
theorem scanLongFrom_backslash (fuel : Nat) (cs : List Char) :
    scanLongFrom '"' (fuel + 1) ('\\' :: cs) =
      match continuation? cs with
      | some behind => (scanLongFrom '"' fuel behind).map fun (s, b) => ([] ++ s, b)
      | none =>
        match scanEscape cs with
        | .error f => .error f
        | .ok (x, behind) => (scanLongFrom '"' fuel behind).map fun (s, b) => ([x] ++ s, b) := rfl

/-- A character in three double quotes is read. -/
theorem EscapesTo.readsLong {c : Char} {text : List Char} (h : EscapesTo true c text) :
    ReadsLong '"' c text := by
  cases h with
  | plain htext hslash hquote => exact readsLong_plain htext hquote (by simp [hslash])
  | lineFeed _ hc => exact hc ▸ readsLong_lineFeed (by decide)
  | @escape letter more hgap hline h =>
      refine ⟨⟨_, _, rfl, by decide, by decide, fun heq => absurd heq (by decide)⟩,
        fun fuel rest => ?_⟩
      have hend (cs : List Char) : lineEnd (letter :: cs) = soft (letter :: cs) := by
        unfold lineEnd
        split
        · next heq => exact absurd (List.cons.inj heq).1 hline.1
        · next heq => exact absurd (List.cons.inj heq).1 hline.2
        · rfl
      have hcontinue (cs : List Char) : continuation? (letter :: cs) = none := by
        have hskip : skipBlanks (letter :: cs) = letter :: cs := by
          rw [skipBlanks, List.dropWhile_cons_of_neg (by rw [hgap]; exact Bool.false_ne_true)]
        rw [continuation?, hskip, hend]
        rfl
      rw [List.cons_append, List.cons_append, scanLongFrom_backslash, hcontinue, h]
      rfl

/-- How a text is written in three quotes, where so many quotes stand directly before it. -/
inductive LongBody (quote : Char) : Nat → List Char → List Char → Prop
  /-- Nothing is left. -/
  | nil {n : Nat} (hn : n ≤ 2) : LongBody quote n [] []
  /-- One of two quotes. -/
  | quote {n : Nat} {cs text : List Char} (hn : n < 2) (h : LongBody quote (n + 1) cs text) :
      LongBody quote n (quote :: cs) (quote :: text)
  /-- Any other character, and a quote that is escaped. -/
  | char {n : Nat} {c : Char} {cs text behind : List Char} (hn : n ≤ 2)
      (hc : ReadsLong quote c text) (h : LongBody quote 0 cs behind) :
      LongBody quote n (c :: cs) (text ++ behind)

/-- A run of quotes before another character. -/
theorem span_quotes {quote : Char} (n : Nat) {rest : List Char}
    (hrest : Text.Stops (· == quote) rest) :
    (List.replicate n quote ++ rest).span (· == quote) = (List.replicate n quote, rest) :=
  Text.span_append (fun _ hc => by rw [List.eq_of_mem_replicate hc]; exact beq_self_eq_true quote)
    hrest

/-- One or two quotes before another character are read. -/
theorem scanLongFrom_quotes {quote : Char} {n : Nat} (hn : n < 2) {rest : List Char}
    (hrest : Text.Stops (· == quote) rest) (fuel : Nat) :
    scanLongFrom quote (fuel + 1) (List.replicate (n + 1) quote ++ rest) =
      (scanLongFrom quote fuel rest).map fun (s, behind) =>
        (List.replicate (n + 1) quote ++ s, behind) := by
  have hspan := span_quotes (n + 1) hrest
  have hlength : (List.replicate (n + 1) quote).length < 3 := by
    rw [List.length_replicate]
    omega
  rw [List.replicate_succ, List.cons_append] at hspan ⊢
  rw [scanLongFrom, if_pos (beq_self_eq_true quote)]
  simp only [hspan]
  rw [← List.replicate_succ, if_pos hlength]

/-- The closing quotes, and up to two that belong to the text. -/
theorem scanLongFrom_close {quote : Char} {n : Nat} (hn : n ≤ 2) {rest : List Char}
    (hrest : Text.Stops (· == quote) rest) (fuel : Nat) :
    scanLongFrom quote (fuel + 1) (List.replicate (n + 3) quote ++ rest) =
      .ok (List.replicate n quote, rest) := by
  have hspan := span_quotes (n + 3) hrest
  have hinside : min (n + 3 - 3) 2 = n := by omega
  rw [List.replicate_succ, List.cons_append] at hspan ⊢
  rw [scanLongFrom, if_pos (beq_self_eq_true quote)]
  simp only [hspan]
  rw [← List.replicate_succ, List.length_replicate, if_neg (by omega), hinside,
    List.take_replicate, List.drop_replicate, Nat.sub_self, Nat.min_eq_left (by omega)]
  rfl

/-- **The text of a string of several lines** is read, with the quotes before it. -/
theorem scanLongFrom_of_longBody {quote : Char} {n : Nat} {cs text : List Char}
    (h : LongBody quote n cs text) {rest : List Char} (hrest : Text.Stops (· == quote) rest)
    {fuel : Nat} (hfuel : n + text.length < fuel) :
    scanLongFrom quote fuel
        (List.replicate n quote ++ (text ++ (List.replicate 3 quote ++ rest))) =
      .ok (List.replicate n quote ++ cs, rest) := by
  induction h generalizing fuel with
  | @nil n hn =>
      obtain ⟨k, rfl⟩ := Nat.exists_eq_add_of_le' hfuel
      rw [List.nil_append, ← List.append_assoc, List.replicate_append_replicate, List.append_nil]
      exact scanLongFrom_close hn hrest _
  | @quote n cs text hn h ih =>
      rw [List.length_cons] at hfuel
      have hmore := ih (by omega : n + 1 + text.length < fuel)
      rw [List.replicate_succ'] at hmore
      simpa only [List.append_assoc, List.cons_append, List.nil_append] using hmore
  | @char n c cs text behind hn hc h ih =>
      obtain ⟨d, more, htext, hd, -, -⟩ := hc.first
      rw [List.length_append, htext, List.length_cons] at hfuel
      -- the quotes before the character are read apart from it
      have hchar {k : Nat} (hk : behind.length < k) :
          scanLongFrom quote (k + 1) (text ++ (behind ++ (List.replicate 3 quote ++ rest))) =
            .ok (c :: cs, rest) := by
        have hbehind := ih (by omega : 0 + behind.length < k)
        rw [hc.reads, show behind ++ (List.replicate 3 quote ++ rest) =
          List.replicate 0 quote ++ (behind ++ (List.replicate 3 quote ++ rest)) from rfl, hbehind]
        rfl
      rw [List.append_assoc]
      cases n with
      | zero =>
          obtain ⟨k, rfl⟩ : ∃ k, fuel = k + 1 := ⟨fuel - 1, by omega⟩
          exact hchar (by omega)
      | succ n =>
          obtain ⟨k, rfl⟩ : ∃ k, fuel = k + 2 := ⟨fuel - 2, by omega⟩
          have hstops : Text.Stops (· == quote)
              (text ++ (behind ++ (List.replicate 3 quote ++ rest))) := by
            rw [htext]
            exact Text.stops_cons.mpr (by simpa using hd)
          rw [scanLongFrom_quotes (by omega) hstops, hchar (by omega)]
          rfl

/-- A text in three double quotes is written so that it can be read. -/
theorem longBody_escaped {n : Nat} (hn : n ≤ 2) (cs : List Char) :
    LongBody '"' n cs (escapeFrom true n cs) := by
  induction cs generalizing n with
  | nil => exact .nil hn
  | cons c cs ih =>
      by_cases hquote : c = '"'
      · subst hquote
        rcases Nat.lt_or_ge n 2 with hlt | hge
        · have hwrite : escapeFrom true n ('"' :: cs) = '"' :: escapeFrom true (n + 1) cs := by
            rw [escapeFrom_quote, if_pos rfl, if_pos hlt]
          exact hwrite ▸ .quote hlt (ih hlt)
        · have hwrite : escapeFrom true n ('"' :: cs) = ['\\', '"'] ++ escapeFrom true 0 cs := by
            rw [escapeFrom_quote, if_pos rfl, if_neg (Nat.not_lt.mpr hge)]
          exact hwrite ▸ .char hn (escapesTo_quote true).readsLong (ih (Nat.zero_le 2))
      · rw [escapeFrom_cons hquote]
        exact .char hn (escapesTo_escapeText hquote true).readsLong (ih (Nat.zero_le 2))

/-- A text without control characters and with no more than two single quotes in a row is read from
three single quotes. -/
theorem longBody_literal {n : Nat} {cs : List Char} (hcontrol : cs.any needsEscape = false)
    (hrun : longestRun '\'' n cs ≤ 2) : LongBody '\'' n cs cs := by
  have hn : n ≤ 2 := Nat.le_trans (le_longestRun '\'' n cs) hrun
  induction cs generalizing n with
  | nil => exact .nil hn
  | cons c cs ih =>
      rw [List.any_cons, Bool.or_eq_false_iff] at hcontrol
      rw [longestRun] at hrun
      split at hrun
      · next hc =>
          have hmore : n + 1 ≤ 2 := Nat.le_trans (le_longestRun '\'' (n + 1) cs) hrun
          rw [beq_iff_eq.mp hc]
          exact .quote hmore (ih hcontrol.2 hrun hmore)
      · next hc =>
          have hquote : c ≠ '\'' := by simpa using hc
          have hchar : ReadsLong '\'' c [c] := by
            by_cases hfeed : c = '\n'
            · exact hfeed ▸ readsLong_lineFeed (by decide)
            · exact readsLong_plain (isTextChar_of_needsEscape hcontrol.1 hfeed) hquote
                (Bool.and_eq_false_iff.mpr (.inr rfl))
          exact .char hn hchar (ih hcontrol.2 (by omega) (Nat.zero_le 2))

/-- A text without line feeds does not begin with a line end in three quotes. -/
theorem dropLineEnd_of_longBody {quote : Char} (hquote : quote ≠ '\n' ∧ quote ≠ '\r')
    {cs text : List Char} (h : LongBody quote 0 cs text) (hfeed : '\n' ∉ cs) (rest : List Char) :
    dropLineEnd (text ++ (List.replicate 3 quote ++ rest)) =
      text ++ (List.replicate 3 quote ++ rest) := by
  have hfirst {d : Char} (more : List Char) (hd : d ≠ '\n' ∧ d ≠ '\r') :
      dropLineEnd (d :: more) = d :: more := by
    unfold dropLineEnd lineEnd
    split
    · next heq =>
        split at heq
        · next hcons => exact absurd (List.cons.inj hcons).1 hd.1
        · next hcons => exact absurd (List.cons.inj hcons).1 hd.2
        · exact nomatch heq
    · rfl
  cases h with
  | nil _ => exact hfirst _ hquote
  | quote _ _ => exact hfirst _ hquote
  | char _ hc _ =>
      obtain ⟨d, more, rfl, -, hreturn, hd⟩ := hc.first
      exact hfirst _ ⟨fun heq => hfeed (List.mem_cons.mpr (.inl (hd heq).symm)), hreturn⟩

/-- **A text in three quotes** is read back. -/
theorem scanLong_append {quote : Char} (hquote : quote ≠ '\n' ∧ quote ≠ '\r')
    {cs text : List Char} (h : LongBody quote 0 cs text) {rest : List Char}
    (hrest : Text.Stops (· == quote) rest) :
    scanLong quote ((if cs.contains '\n' then ['\n'] else []) ++
      (text ++ (List.replicate 3 quote ++ rest))) = .ok (cs, rest) := by
  have hdrop : dropLineEnd ((if cs.contains '\n' then ['\n'] else []) ++
      (text ++ (List.replicate 3 quote ++ rest))) = text ++ (List.replicate 3 quote ++ rest) := by
    split
    · rfl
    · next hfeed =>
        exact dropLineEnd_of_longBody hquote h (by simpa using hfeed) rest
  have hlength : 0 + text.length < (text ++ (List.replicate 3 quote ++ rest)).length + 1 := by
    rw [List.length_append]
    omega
  rw [scanLong, hdrop]
  exact scanLongFrom_of_longBody h hrest hlength

/-! ### Strings and keys -/

/-- Two quotes that no third one follows do not open a string of several lines. -/
theorem scanString_basic (cs : List Char) {rest : List Char} (hrest : Text.Stops (· == '"') rest) :
    scanString (writeBasic cs ++ rest) = .ok (cs, rest) := by
  have hbasic {text : List Char} (h : ∀ more, text ≠ '"' :: '"' :: more) :
      scanString ('"' :: text) = scanBasic text := by
    unfold scanString
    split
    · next heq => exact absurd (List.cons.inj heq).2 (h _)
    · next heq => rw [(List.cons.inj heq).2]
    · next heq => exact absurd (List.cons.inj heq).1 (by decide)
    · next heq => exact absurd (List.cons.inj heq).1 (by decide)
    · next _ hnot _ _ => exact absurd rfl (hnot text)
  have hopen : ∀ more, escapeFrom false 0 cs ++ '"' :: rest ≠ '"' :: '"' :: more := by
    intro more heq
    rcases cs with - | ⟨c, cs⟩
    · rw [(List.cons.inj heq).2, Text.stops_cons] at hrest
      exact absurd hrest (by decide)
    · obtain ⟨text, htext, hwrite⟩ := exists_escapesTo c 0 cs
      obtain ⟨d, text, rfl, hd⟩ := htext.first
      rw [hwrite] at heq
      exact hd (List.cons.inj heq).1
  rw [writeBasic, List.cons_append, List.append_assoc, List.singleton_append, hbasic hopen,
    scanBasic_escaped]

/-- A text in single quotes is read as a string. -/
theorem scanString_literal {cs : List Char} (htext : ∀ c ∈ cs, isTextChar c = true)
    (hquote : '\'' ∉ cs) {rest : List Char} (hrest : Text.Stops (· == '\'') rest) :
    scanString (writeLiteral cs ++ rest) = .ok (cs, rest) := by
  have hopen : ∀ more, cs ++ '\'' :: rest ≠ '\'' :: '\'' :: more := by
    intro more heq
    rcases cs with - | ⟨c, cs⟩
    · rw [(List.cons.inj heq).2, Text.stops_cons] at hrest
      exact absurd hrest (by decide)
    · exact hquote (List.mem_cons.mpr (.inl (List.cons.inj heq).1.symm))
  have hliteral {text : List Char} (h : ∀ more, text ≠ '\'' :: '\'' :: more) :
      scanString ('\'' :: text) = scanLiteral text := by
    unfold scanString
    split
    · next heq => exact absurd (List.cons.inj heq).1 (by decide)
    · next heq => exact absurd (List.cons.inj heq).1 (by decide)
    · next heq => exact absurd (List.cons.inj heq).2 (h _)
    · next heq => rw [(List.cons.inj heq).2]
    · next hnot => exact absurd rfl (hnot text)
  rw [writeLiteral, List.cons_append, List.append_assoc, List.singleton_append, hliteral hopen,
    scanLiteral_append htext hquote]

/-- A text in three double quotes is read as a string. -/
theorem scanString_longBasic (cs : List Char) {rest : List Char}
    (hrest : Text.Stops (· == '"') rest) :
    scanString (writeLongBasic cs ++ rest) = .ok (cs, rest) := by
  have hscan := scanLong_append (by decide) (longBody_escaped (Nat.zero_le 2) cs) hrest
  rw [writeLongBasic, longQuotes]
  simp only [List.append_assoc]
  exact hscan

/-- A text in three single quotes is read as a string. -/
theorem scanString_longLiteral {cs : List Char} (hcontrol : cs.any needsEscape = false)
    (hrun : longestRun '\'' 0 cs ≤ 2) {rest : List Char} (hrest : Text.Stops (· == '\'') rest) :
    scanString (writeLongLiteral cs ++ rest) = .ok (cs, rest) := by
  have hscan := scanLong_append (by decide) (longBody_literal hcontrol hrun) hrest
  rw [writeLongLiteral, longQuotes]
  simp only [List.append_assoc]
  exact hscan

/-- **A string is read back from its text**, whichever quotes are chosen. -/
theorem scanString_writeString (cs : List Char) {rest : List Char}
    (hdouble : Text.Stops (· == '"') rest) (hsingle : Text.Stops (· == '\'') rest) :
    scanString (writeString cs ++ rest) = .ok (cs, rest) := by
  unfold writeString
  dsimp only
  split_ifs with hbasic hliteral hlongBasic hlongLiteral
  · exact scanString_basic cs hdouble
  · simp only [Bool.and_eq_true, Bool.not_eq_true', decide_eq_true_eq] at hliteral
    obtain ⟨⟨hcontrol, hsingles⟩, hlines⟩ := hliteral
    exact scanString_literal (isTextChar_of_any hcontrol hlines) (not_mem_of_longestRun hsingles)
      hsingle
  · exact scanString_longBasic cs hdouble
  · simp only [Bool.and_eq_true, Bool.not_eq_true', decide_eq_true_eq] at hlongLiteral
    exact scanString_longLiteral hlongLiteral.1 hlongLiteral.2 hsingle
  · exact scanString_longBasic cs hdouble
  · exact scanString_basic cs hdouble

/-- **A key is read back from its text.** -/
theorem scanSimpleKey_writeKey (k : String) {rest : List Char}
    (hrest : Text.Stops isBareChar rest) :
    scanSimpleKey (writeKey k ++ rest) = .ok (k, rest) := by
  have hbasic : scanSimpleKey (writeBasic k.toList ++ rest) = .ok (k, rest) := by
    rw [writeBasic, List.cons_append, List.append_assoc, List.singleton_append]
    simp only [scanSimpleKey, scanBasic_escaped, Except.map, String.ofList_toList]
  unfold writeKey
  dsimp only
  split_ifs with hbare hdouble hsingle
  · rw [Bool.and_eq_true, List.all_eq_true] at hbare
    obtain ⟨hne, hall⟩ := hbare
    have hspan : (k.toList ++ rest).span isBareChar = (k.toList, rest) :=
      Text.span_append hall hrest
    have hbare (d : Char) (hd : isBareChar d = false) : ∀ more, k.toList ++ rest ≠ d :: more := by
      intro more heq
      rcases hk : k.toList with - | ⟨c, cs⟩
      · rw [hk] at hne
        exact absurd hne Bool.false_ne_true
      · rw [hk] at heq hall
        have hc : isBareChar c = true := hall c (List.mem_cons_self ..)
        rw [(List.cons.inj heq).1, hd] at hc
        exact Bool.false_ne_true hc
    unfold scanSimpleKey
    split
    · next heq => exact absurd heq (hbare '"' rfl _)
    · next heq => exact absurd heq (hbare '\'' rfl _)
    · have hname : k.toList.isEmpty = false := by simpa using hne
      simp only [hspan, hname, Bool.false_eq_true, if_false, String.ofList_toList]
  · exact hbasic
  · simp only [Bool.and_eq_true, Bool.not_eq_true'] at hsingle
    obtain ⟨hcontrol, hquote⟩ := hsingle
    have htext : ∀ c ∈ k.toList, isTextChar c = true := by
      intro c hc
      have hno := List.any_eq_false.mp hcontrol c hc
      simp only [Bool.or_eq_true, not_or, beq_iff_eq, Bool.not_eq_true] at hno
      exact isTextChar_of_needsEscape hno.1 hno.2
    have hnot : '\'' ∉ k.toList := fun hmem =>
      absurd (List.contains_iff_mem.mpr hmem) (by rw [hquote]; exact Bool.false_ne_true)
    rw [writeLiteral, List.cons_append, List.append_assoc, List.singleton_append]
    simp only [scanSimpleKey, scanLiteral_append htext hnot, Except.map, String.ofList_toList]
  · exact hbasic

end JsonWorkbench.Toml
