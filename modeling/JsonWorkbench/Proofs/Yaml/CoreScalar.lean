import JsonWorkbench.Proofs.Text
import JsonWorkbench.Yaml.CoreScalar
import JsonWorkbench.Yaml.Printer

/-!
# Words and Their Values

A scalar without quotes stands for what its word says. A word that the writer takes for a text is
read as that text, and the digits of an integer that has at most 64 bits are read as that integer:
they have no zero in front, and no word begins with a digit or a sign.

## Main results

* `plainValue?_of_readsAsText` — words that are texts.
* `plainValue?_toString`, `readsAsText_toString` — the digits of an integer.
-/

namespace JsonWorkbench.Yaml

/-! ### Digits -/

/-- The digits of a number have no zero in front. -/
theorem isZeroLed_digitsOf (n : Nat) : isZeroLed (digitsOf n) = false := by
  rcases Nat.eq_zero_or_pos n with rfl | h
  · rfl
  · simp [isZeroLed, head?_digitsOf h]

/-- The digits of a number are read one by one. -/
theorem foldlM_baseDigit? {cs : List Char} (h : ∀ c ∈ cs, c.isDigit = true) (n : Nat) :
    cs.foldlM (fun n c => (baseDigit? 10 c).map (10 * n + ·)) n =
      some (Nat.ofDigitChars 10 cs n) := by
  induction cs generalizing n with
  | nil => simp
  | cons c cs ih =>
      rw [List.forall_mem_cons] at h
      have hdigit : baseDigit? 10 c = some (c.toNat - 48) := by
        have hle : c.toNat ≤ 57 := by
          have := h.1
          simp only [Char.isDigit, Bool.and_eq_true, decide_eq_true_eq] at this
          exact this.2
        have hless : c.toNat - 48 < 10 := by omega
        simp [baseDigit?, h.1, hless]
      rw [List.foldlM_cons, hdigit, Nat.ofDigitChars_cons]
      exact ih h.2 _

/-- A number is read from its digits. -/
theorem natural?_digitsOf (n : Nat) : natural? (digitsOf n) = some n := by
  have hdigits : ∀ c ∈ digitsOf n, c.isDigit = true := fun c hc => isDigit_of_mem_digitsOf hc
  have hbase : ∀ c rest, digitsOf n = '0' :: c :: rest → c.isDigit = true := by
    intro c rest heq
    exact hdigits c (by rw [heq]; simp)
  unfold natural?
  split
  · next rest heq => exact absurd (hbase _ _ heq) (by decide)
  · next rest heq => exact absurd (hbase _ _ heq) (by decide)
  · next rest heq => exact absurd (hbase _ _ heq) (by decide)
  · have hvalue : Nat.ofDigitChars 10 (digitsOf n) 0 = n := Nat.ofDigitChars_ten_toDigits
    rw [isZeroLed_digitsOf, if_neg Bool.false_ne_true, baseNumber?, isEmpty_digitsOf,
      if_neg Bool.false_ne_true, foldlM_baseDigit? hdigits, hvalue]

/-- **An integer is read from its digits.** -/
theorem integer?_toString {n : Int} (h : Number.least ≤ n ∧ n ≤ Number.greatest) :
    integer? (toString n).toList = some n := by
  have hpower : Decimal.twoPow 127 = 2 ^ 127 ∧ Decimal.twoPow 128 = 2 ^ 128 := ⟨rfl, rfl⟩
  simp only [Number.least, Number.greatest] at h
  rw [toList_toString_int]
  split
  · next hn =>
      have hspan : Decimal.spanSign (['-'] ++ digitsOf n.natAbs) = (true, digitsOf n.natAbs) := rfl
      have hle : n.natAbs ≤ Decimal.twoPow 127 := by omega
      rw [integer?, hspan]
      simp only [natural?_digitsOf, if_true, hle]
      rw [Int.ofNat_natAbs_of_nonpos (Int.le_of_lt hn), Int.neg_neg]
  · next hn =>
      have hlt : n.natAbs < Decimal.twoPow 128 := by omega
      rw [integer?, List.nil_append, spanSign_digitsOf]
      simp only [natural?_digitsOf, Bool.false_eq_true, if_false, hlt, if_true]
      rw [Int.natAbs_of_nonneg (Int.not_lt.mp hn)]

/-! ### Words -/

/-- No word begins with a digit or a sign. -/
theorem not_word_of_first {c : Char} (hc : c.isDigit = true ∨ c = '-') (cs : List Char) :
    isNullWord (String.ofList (c :: cs)) = false ∧ boolWord? (String.ofList (c :: cs)) = none := by
  have hletters : ∀ word ∈ ["null", "Null", "NULL", "~", "true", "True", "TRUE", "false", "False",
      "FALSE"], word.toList.head?.all (fun d => !d.isDigit && d != '-') = true := by decide
  have hne : ∀ word ∈ ["null", "Null", "NULL", "~", "true", "True", "TRUE", "false", "False",
      "FALSE"], String.ofList (c :: cs) ≠ word := by
    rintro word hword rfl
    have hfirst := hletters _ hword
    simp only [String.toList_ofList, List.head?_cons, Option.all_some, Bool.and_eq_true,
      Bool.not_eq_true', bne_iff_ne] at hfirst
    obtain ⟨hdigit, hsign⟩ := hfirst
    rcases hc with hc | hc
    · rw [hdigit] at hc
      exact Bool.false_ne_true hc
    · exact hsign hc
  generalize String.ofList (c :: cs) = word at hne
  constructor
  · simp [isNullWord, hne]
  · simp [boolWord?, hne]

/-- The digits of an integer begin with a digit or a sign. -/
theorem exists_toString_int (n : Int) :
    ∃ c cs, (toString n).toList = c :: cs ∧ (c.isDigit = true ∨ c = '-') := by
  obtain ⟨c, cs, hdigits, hc, -⟩ := exists_digitsOf n.natAbs
  rw [toList_toString_int, hdigits]
  split
  · exact ⟨'-', c :: cs, rfl, .inr rfl⟩
  · exact ⟨c, cs, rfl, .inl hc⟩

/-- **The digits of an integer** stand for it. -/
theorem plainValue?_toString {n : Int} (h : Number.least ≤ n ∧ n ≤ Number.greatest) :
    plainValue? (toString n).toList = some (.number (.integer n)) := by
  have hinteger := integer?_toString h
  obtain ⟨c, cs, htext, hc⟩ := exists_toString_int n
  rw [htext] at hinteger ⊢
  obtain ⟨hnull, hbool⟩ := not_word_of_first hc cs
  have hempty : (String.ofList (c :: cs)).isEmpty = false := by simp
  simp only [plainValue?, hempty, hnull, hbool, hinteger, wordValue?, Bool.or_self,
    Bool.false_eq_true, if_false]
  rw [if_pos (by simpa using h)]
  rfl

/-- A word that stands for an integer is not written for a text. -/
theorem readsAsText_toString {n : Int} (h : Number.least ≤ n ∧ n ≤ Number.greatest) :
    readsAsText (toString n).toList = false := by
  have hinteger := integer?_toString h
  simp only [readsAsText, hinteger, Option.isSome_some, Bool.or_true, Bool.true_or, Bool.not_true]

/-- **A word that is written for a text** stands for that text. -/
theorem plainValue?_of_readsAsText {cs : List Char} (h : readsAsText cs = true) :
    plainValue? cs = some (.string (String.ofList cs)) := by
  simp only [readsAsText, Bool.not_eq_true', Bool.or_eq_false_iff, Option.isSome_eq_false_iff,
    Option.isNone_iff_eq_none] at h
  obtain ⟨⟨⟨⟨⟨hempty, hnull⟩, hbool⟩, hinteger⟩, hzero⟩, hdouble⟩ := h
  simp [plainValue?, hempty, hnull, hbool, hinteger, hzero, hdouble]

/-! ### No containers -/

/-- An integer is no container. -/
theorem isContainer_of_wordValue? {n : Int} {v : Value} (h : wordValue? n = some v) :
    v.isContainer = false := by
  rw [wordValue?] at h
  split at h <;> cases h
  rfl

/-- A double is no container. -/
theorem isContainer_doubleValue (x : Float) : (doubleValue x).isContainer = false := by
  rw [doubleValue, Value.ofFloat?]
  split <;> rfl

/-- What a word stands for is no container. -/
theorem isContainer_of_plainValue? {text : List Char} {v : Value} (h : plainValue? text = some v) :
    v.isContainer = false := by
  simp only [plainValue?] at h
  split at h
  · cases h
    rfl
  · split at h
    · cases h
      rfl
    · exact isContainer_of_wordValue? h
    · split at h
      · cases h
        rfl
      · split at h <;> cases h
        · exact isContainer_doubleValue _
        · rfl

/-- What a scalar with a type stands for is no container. -/
theorem isContainer_of_typedValue? {tag text : List Char} {v : Value}
    (h : typedValue? tag text = some v) : v.isContainer = false := by
  simp only [typedValue?] at h
  split at h
  · obtain ⟨b, -, rfl⟩ := Option.map_eq_some_iff.mp h
    rfl
  · split at h
    · obtain ⟨n, -, hn⟩ := Option.bind_eq_some_iff.mp h
      exact isContainer_of_wordValue? hn
    · split at h
      · obtain ⟨x, -, rfl⟩ := Option.map_eq_some_iff.mp h
        exact isContainer_doubleValue x
      · split at h
        · split at h <;> cases h
          rfl
        · cases h
          rfl

end JsonWorkbench.Yaml
