import JsonWorkbench.Json.Printer
import JsonWorkbench.Json.Reader
import JsonWorkbench.Proofs.Hexadecimal
import JsonWorkbench.Proofs.Text

/-!
# Reading JSON Scalars

A string is read back from its text: every character that must not stand in a string is written as
an escape, and every escape is undone. It ends at its quote, so that nothing has to be known of
the text behind it. A numeral ends where the text goes on with something that is no part of a
numeral (`EndsNumeral`); up to there, the digits of an integer of 64 bits are read as that integer.

## Main definitions

* `IsGap` — white space.
* `EndsNumeral` — what may stand behind a numeral.

## Main results

* `readString_escaped` — a string is read back.
* `readNumber_digitsOf` — an integer is read back from its digits.
-/

namespace JsonWorkbench.Json

/-! ### White space -/

/-- A text of white space only. -/
def IsGap (cs : List Char) : Prop := ∀ c ∈ cs, isSpace c = true

/-- No text is white space. -/
theorem isGap_nil : IsGap [] := by
  intro c hc
  exact absurd hc List.not_mem_nil

/-- White space is skipped. -/
theorem skipSpace_append {gap : List Char} (hgap : IsGap gap) (cs : List Char) :
    skipSpace (gap ++ cs) = skipSpace cs :=
  List.dropWhile_append_of_pos hgap

/-- Nothing is skipped in front of a character that is no space. -/
theorem skipSpace_cons {c : Char} (hc : isSpace c = false) (cs : List Char) :
    skipSpace (c :: cs) = c :: cs :=
  List.dropWhile_cons_of_neg (by simp [hc])

/-- White space is skipped up to the next character. -/
theorem skipSpace_gap_cons {gap : List Char} (hgap : IsGap gap) {c : Char}
    (hc : isSpace c = false) (cs : List Char) : skipSpace (gap ++ c :: cs) = c :: cs := by
  rw [skipSpace_append hgap, skipSpace_cons hc]

/-! ### Strings -/

/-- The digits of a number below 256, behind two zeros, are read as that number. -/
theorem readHex_byte {n : Nat} (h : n < 0x100) (rest : List Char) :
    readHex ('0' :: '0' :: hexDigit (n / 16) :: hexDigit (n % 16) :: rest) = .ok n := by
  have hzero : Text.hexValue? '0' = some 0 := rfl
  have hhigh : Text.hexValue? (hexDigit (n / 16)) = some (n / 16) :=
    (Text.hexValue?_digitChar (by omega)).1
  have hlow : Text.hexValue? (hexDigit (n % 16)) = some (n % 16) :=
    (Text.hexValue?_digitChar (by omega)).1
  have hsum : ((0 * 16 + 0) * 16 + n / 16) * 16 + n % 16 = n := by omega
  simp only [readHex, hzero, hhigh, hlow, hsum]

/-- A control character that has no letter is written by its number, which is read back. -/
theorem readEscape_control {c : Char} (hc : c.toNat < 0x20) (rest : List Char) :
    readEscape ('u' :: '0' :: '0' :: hexDigit (c.toNat / 16) :: hexDigit (c.toNat % 16) :: rest) =
      .ok (c, 5) := by
  have hlow : (0xDC00 ≤ c.toNat && c.toNat ≤ 0xDFFF) = false := by simp; omega
  have hplain : (c.toNat < 0xD800 || 0xDBFF < c.toNat) = true := by simp; omega
  have hunicode : readUnicode ('0' :: '0' :: hexDigit (c.toNat / 16) ::
      hexDigit (c.toNat % 16) :: rest) = .ok (c, 4) := by
    rw [readUnicode, readHex_byte (by omega)]
    simp only [hlow, hplain, if_true, Bool.false_eq_true, if_false, Char.ofNat_toNat]
  simp [readEscape, hunicode, Except.map]

/-- **A character is read back** from what is written for it. -/
theorem readStringFrom_escapeChar (c : Char) (cs : List Char) :
    readStringFrom 0 (escapeChar c ++ cs) =
      (readStringFrom 0 cs).map fun (s, rest) => (c :: s, rest) := by
  -- behind a backslash stand a letter, or the letter `u` and four digits, which are skipped
  have hletter {letter : Char} (hread : readEscape (letter :: cs) = .ok (c, 1)) :
      readStringFrom 0 ('\\' :: letter :: cs) =
        (readStringFrom 0 cs).map fun (s, rest) => (c :: s, rest) := by
    rw [readStringFrom, hread]
    rfl
  unfold escapeChar
  split_ifs with hquote hslash hback hfeed hline hreturn htab hcontrol
  · obtain rfl := beq_iff_eq.mp hquote
    exact hletter rfl
  · obtain rfl := beq_iff_eq.mp hslash
    exact hletter rfl
  · obtain rfl := beq_iff_eq.mp hback
    exact hletter rfl
  · obtain rfl := beq_iff_eq.mp hfeed
    exact hletter rfl
  · obtain rfl := beq_iff_eq.mp hline
    exact hletter rfl
  · obtain rfl := beq_iff_eq.mp hreturn
    exact hletter rfl
  · obtain rfl := beq_iff_eq.mp htab
    exact hletter rfl
  · rw [List.cons_append, readStringFrom]
    simp only [List.cons_append, List.nil_append, readEscape_control hcontrol]
    rfl
  · rw [List.singleton_append, readStringFrom]
    simp only [hquote, hslash, hcontrol, Bool.false_eq_true, if_false]

/-- **A string is read back** from its characters and the closing quote. -/
theorem readStringFrom_escaped (cs rest : List Char) :
    readStringFrom 0 (cs.flatMap escapeChar ++ '"' :: rest) = .ok (cs, rest) := by
  induction cs with
  | nil => rfl
  | cons c cs ih =>
      rw [List.flatMap_cons, List.append_assoc, readStringFrom_escapeChar, ih]
      rfl

/-- **A string is read back**, of which the opening quote has been read. -/
theorem readString_escaped (s : String) (rest : List Char) :
    readString (s.toList.flatMap escapeChar ++ '"' :: rest) = .ok (s, rest) := by
  rw [readString, readStringFrom_escaped]
  exact congrArg (fun t => Except.ok (t, rest)) String.ofList_toList

/-! ### Numerals -/

/-- A character that would go on with the digits of an integer. -/
def continuesNumeral (c : Char) : Bool := c.isDigit || c == '.' || c == 'e' || c == 'E'

/-- A text does not begin with a part of a numeral. -/
abbrev EndsNumeral (cs : List Char) : Prop := Text.Stops continuesNumeral cs

/-- More digits do not make a number less. -/
theorem le_ofDigitChars (cs : List Char) (m : Nat) : m ≤ Nat.ofDigitChars 10 cs m := by
  rw [Nat.ofDigitChars_eq_ofDigitChars_zero]
  exact Nat.le_add_right_of_le (Nat.le_mul_of_pos_left m (Nat.pow_pos (by decide)))

/-- All digits fit if the number behind them does. -/
theorem significand_of_le {cs : List Char} {m : Nat}
    (h : Nat.ofDigitChars 10 cs m ≤ maxSignificand) :
    significand m cs = (Nat.ofDigitChars 10 cs m, []) := by
  induction cs generalizing m with
  | nil => simp [significand]
  | cons c cs ih =>
      rw [Nat.ofDigitChars_cons] at h ⊢
      have hle : 10 * m + Decimal.digitValue c ≤ maxSignificand :=
        Nat.le_trans (le_ofDigitChars cs _) h
      rw [significand]
      simp only [Nat.not_lt.mpr hle, if_false]
      exact ih h

/-- Digits without a fraction and an exponent are an integer. -/
theorem readTail_of_ends {rest : List Char} (hrest : EndsNumeral rest) (negative : Bool) (n : Nat) :
    readTail negative n [] rest = .ok (integerValue negative n, rest) := by
  unfold readTail
  split
  · exact absurd (Text.stops_cons.mp hrest) (by decide)
  · exact absurd (Text.stops_cons.mp hrest) (by decide)
  · exact absurd (Text.stops_cons.mp hrest) (by decide)
  · rfl

/-- Digits that do not begin with a zero are an integer if they fit. -/
theorem readNumber_cons {c : Char} (hc : c.isDigit = true) (hzero : c ≠ '0')
    {cs digits rest : List Char} (hspan : Decimal.spanDigits (c :: cs) = (digits, rest)) {n : Nat}
    (hfit : significand 0 digits = (n, [])) (negative : Bool) :
    readNumber negative (c :: cs) = readTail negative n [] rest := by
  unfold readNumber
  split
  · next heq => exact absurd heq (by simp)
  · next heq => exact absurd (List.cons.inj heq).1 hzero
  · next heq =>
      obtain ⟨rfl, rfl⟩ := List.cons.inj heq
      simp only [hc, if_true, hspan, hfit]

/-- **An integer is read back from its digits**, of which the sign has been read. -/
theorem readNumber_digitsOf (negative : Bool) {n : Nat} (h : n ≤ maxSignificand)
    {rest : List Char} (hrest : EndsNumeral rest) :
    readNumber negative (digitsOf n ++ rest) = .ok (integerValue negative n, rest) := by
  have hstops : Text.Stops Char.isDigit rest := by
    intro c hc
    have hnot := hrest c hc
    simp only [continuesNumeral, Bool.or_eq_false_iff] at hnot
    exact hnot.1.1.1
  rcases Nat.eq_zero_or_pos n with rfl | hpos
  · have hdigits : digitsOf 0 = ['0'] := rfl
    rw [hdigits, List.singleton_append]
    unfold readNumber
    cases rest with
    | nil => exact readTail_of_ends hrest negative 0
    | cons c rest =>
        simp only [Text.stops_cons.mp hstops, Bool.false_eq_true, if_false]
        exact readTail_of_ends hrest negative 0
  · obtain ⟨c, cs, hcons, hfirst, -⟩ := exists_digitsOf n
    have hzero : c ≠ '0' := by
      rintro rfl
      exact head?_digitsOf hpos (by rw [hcons, List.head?_cons])
    have hspan : Decimal.spanDigits (digitsOf n ++ rest) = (digitsOf n, rest) :=
      Text.span_append (fun d hd => isDigit_of_mem_digitsOf hd) hstops
    have hvalue : Nat.ofDigitChars 10 (digitsOf n) 0 = n := Nat.ofDigitChars_ten_toDigits
    have hfit : significand 0 (digitsOf n) = (n, []) := by
      rw [significand_of_le (by rw [hvalue]; exact h), hvalue]
    rw [hcons] at hspan ⊢
    rw [List.cons_append] at hspan ⊢
    rw [readNumber_cons hfirst hzero hspan (hcons ▸ hfit)]
    exact readTail_of_ends hrest negative n

end JsonWorkbench.Json
