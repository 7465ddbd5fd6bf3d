import JsonWorkbench.Json.Printer
import JsonWorkbench.Proofs.Text
import JsonWorkbench.Value.Numeral

/-!
# Numbers in Plain Text

Formats without types of their own write a number as JSON does. An integer is its digits, behind a
minus if it is negative, and is read back from them as long as it has at most 64 bits. The text of
any number has letters, digits, signs and points only, so that nothing in it has to be escaped.

## Main definitions

* `IsNumeralChar` — the characters of numbers.

## Main results

* `coerceNumber?_toString` — an integer is read back from its text.
* `isNumeralChar_of_mem_writeNumber` — the characters in the text of a number.
-/

namespace JsonWorkbench

/-! ### Integers -/

/-- The text of an integer has digits and a minus only. -/
theorem isDigit_or_eq_of_mem_toString {n : Int} {c : Char} (h : c ∈ (toString n).toList) :
    c.isDigit = true ∨ c = '-' := by
  rw [toList_toString_int, List.mem_append] at h
  rcases h with h | h
  · split at h
    · exact .inr (List.mem_singleton.mp h)
    · exact absurd h List.not_mem_nil
  · exact .inl (isDigit_of_mem_digitsOf h)

/-- The text of an integer has no blanks. -/
theorem isBlank_of_mem_toString {n : Int} {c : Char} (h : c ∈ (toString n).toList) :
    Text.isBlank c = false := by
  rcases isDigit_or_eq_of_mem_toString h with hdigit | rfl
  · simp only [Char.isDigit, Bool.and_eq_true, decide_eq_true_eq] at hdigit
    have hleast : 48 ≤ c.toNat := hdigit.1
    have hgreatest : c.toNat ≤ 57 := hdigit.2
    simp only [Text.isBlank, Bool.or_eq_false_iff, Bool.and_eq_false_iff, beq_eq_false_iff_ne,
      decide_eq_false_iff_not]
    omega
  · decide

/-- An integer is not trimmed. -/
theorem trim_toString (n : Int) : Text.trim (toString n).toList = (toString n).toList :=
  Text.trim_of_forall_not fun _ hc => isBlank_of_mem_toString hc

/-- An integer has digits. -/
theorem toString_ne_nil (n : Int) : (toString n).toList ≠ [] := by
  rw [toList_toString_int]
  exact List.append_ne_nil_of_right_ne_nil _ (digitsOf_ne_nil _)

/-- Digits behind no minus. -/
theorem spanMinus_digitsOf (n : Nat) : spanMinus (digitsOf n) = (false, digitsOf n) := by
  unfold spanMinus
  split
  · next cs hminus => exact absurd hminus (digitsOf_ne_cons rfl n cs)
  · rfl

/-- An integer of at most 64 bits is read back from its digits. -/
theorem readInteger?_toString {n : Int} (h : Number.least ≤ n ∧ n ≤ Number.greatest) :
    readInteger? (toString n).toList = some n := by
  have hall := all_isDigit_digitsOf n.natAbs
  have hne := isEmpty_digitsOf n.natAbs
  have hrange : (decide (Number.least ≤ n) && decide (n ≤ Number.greatest)) = true := by
    simp [h.1, h.2]
  rw [toList_toString_int]
  by_cases hn : n < 0
  · have hspan : spanMinus (['-'] ++ digitsOf n.natAbs) = (true, digitsOf n.natAbs) := rfl
    have hvalue : -(n.natAbs : Int) = n := by omega
    rw [if_pos hn, readInteger?, hspan]
    simp only [hne, hall, digitsValue_digitsOf, Bool.not_false, Bool.and_self, if_true, hvalue,
      hrange]
  · have hvalue : (n.natAbs : Int) = n := by omega
    rw [if_neg hn, List.nil_append, readInteger?, spanMinus_digitsOf]
    simp only [hne, hall, digitsValue_digitsOf, Bool.not_false, Bool.and_self, if_true, hvalue,
      hrange, Bool.false_eq_true, if_false]

/-- **An integer is read back from its text.** -/
theorem coerceNumber?_toString {n : Int} (h : Number.least ≤ n ∧ n ≤ Number.greatest) :
    coerceNumber? (toString n) = some (.int n) := by
  rw [coerceNumber?, readInteger?_toString h]

/-! ### The characters of numbers -/

/-- A letter, a digit, a sign or a point. -/
def IsNumeralChar (c : Char) : Prop := c.isAlphanum = true ∨ c = '-' ∨ c = '+' ∨ c = '.'

/-- Digits are characters of numbers. -/
theorem IsNumeralChar.of_isDigit {c : Char} (h : c.isDigit = true) : IsNumeralChar c :=
  .inl (by rw [Char.isAlphanum, h, Bool.or_true])

namespace Decimal

variable {digits : List Char} (hdigits : ∀ c ∈ digits, IsNumeralChar c)

include hdigits

/-- The characters of positional notation. -/
theorem isNumeralChar_of_mem_positional (point : Int) (fraction : Bool) :
    ∀ c ∈ positional digits point fraction, IsNumeralChar c := by
  have hzero : IsNumeralChar '0' := .of_isDigit (by decide)
  have hpoint : IsNumeralChar '.' := .inr (.inr (.inr rfl))
  have hpadding : ∀ (n : Nat), ∀ c ∈ List.replicate n '0', IsNumeralChar c := by
    intro n c hc
    rwa [(List.mem_replicate.mp hc).2]
  have hfraction : ∀ c ∈ (if fraction then ['.', '0'] else []), IsNumeralChar c := by
    cases fraction <;> simp [hzero, hpoint]
  unfold positional
  split
  · exact List.forall_mem_cons.mpr ⟨hzero, List.forall_mem_cons.mpr ⟨hpoint,
      List.forall_mem_append.mpr ⟨hpadding _, hdigits⟩⟩⟩
  · by_cases hlen : digits.length ≤ point.toNat
    · simp only [hlen, if_true]
      exact List.forall_mem_append.mpr ⟨List.forall_mem_append.mpr ⟨hdigits, hpadding _⟩, hfraction⟩
    · simp only [hlen, if_false]
      exact List.forall_mem_append.mpr ⟨fun c hc => hdigits c (List.mem_of_mem_take hc),
        List.forall_mem_cons.mpr ⟨hpoint, fun c hc => hdigits c (List.mem_of_mem_drop hc)⟩⟩

/-- The characters of scientific notation. -/
theorem isNumeralChar_of_mem_scientific (exponent : Int) (plus : Bool) :
    ∀ c ∈ scientific digits exponent plus, IsNumeralChar c := by
  have hpoint : IsNumeralChar '.' := .inr (.inr (.inr rfl))
  have hsign : ∀ c ∈ (if exponent < 0 then ['-'] else if plus then ['+'] else []),
      IsNumeralChar c := by
    split
    · simp [IsNumeralChar]
    · cases plus <;> simp [IsNumeralChar]
  have hexponent : ∀ c ∈ Nat.toDigits 10 exponent.natAbs, IsNumeralChar c :=
    fun c hc => .of_isDigit (isDigit_of_mem_digitsOf hc)
  unfold scientific
  refine List.forall_mem_append.mpr ⟨List.forall_mem_append.mpr ⟨?_, ?_⟩, hexponent⟩
  · match digits, hdigits with
    | [], _ => simp
    | [d], hdigits => exact hdigits
    | d :: d' :: ds, hdigits =>
        rw [List.forall_mem_cons] at hdigits
        exact List.forall_mem_cons.mpr ⟨hdigits.1, List.forall_mem_cons.mpr ⟨hpoint, hdigits.2⟩⟩
  · exact List.forall_mem_cons.mpr ⟨.inl (by decide), hsign⟩

end Decimal

/-- The characters in the text of a decimal. -/
theorem isNumeralChar_of_mem_renderMagnitude (l : Decimal.Layout) (d : Decimal) :
    ∀ c ∈ l.renderMagnitude d, IsNumeralChar c := by
  have hdigits : ∀ c ∈ Nat.toDigits 10 d.coefficient, IsNumeralChar c :=
    fun c hc => .of_isDigit (isDigit_of_mem_digitsOf hc)
  unfold Decimal.Layout.renderMagnitude
  split
  · cases l.fraction <;> simp [IsNumeralChar]
  · dsimp only
    split_ifs
    · exact Decimal.isNumeralChar_of_mem_scientific hdigits _ _
    · exact Decimal.isNumeralChar_of_mem_positional hdigits _ _

/-- **The characters in the text of a number.** -/
theorem isNumeralChar_of_mem_writeNumber (n : Number) :
    ∀ c ∈ Json.writeNumber n, IsNumeralChar c := by
  cases n with
  | integer n =>
      intro c hc
      exact (isDigit_or_eq_of_mem_toString hc).elim .of_isDigit fun h => .inr (.inl h)
  | double x =>
      have hsign : ∀ c ∈ (if Decimal.isNegative x then ['-'] else []), IsNumeralChar c := by
        cases Decimal.isNegative x <;> simp [IsNumeralChar]
      rw [Json.writeNumber, Decimal.Layout.render]
      split
      · simp [IsNumeralChar]
      · split
        · rw [String.toList_ofList]
          exact List.forall_mem_append.mpr ⟨hsign, by simp [IsNumeralChar]⟩
        · rw [String.toList_ofList]
          exact List.forall_mem_append.mpr ⟨hsign, isNumeralChar_of_mem_renderMagnitude _ _⟩

end JsonWorkbench
