import JsonWorkbench.Proofs.Numeral

/-!
# Doubles in Plain Text

The text of a finite double is a numeral with a fraction or an exponent. It is therefore read as a
numeral and never as an integer. Whether the numeral is rounded to the same double is up to the
digits that have been chosen for it (`ReadsBack`).

## Main definitions

* `IsExponent`, `IsTail` — what stands behind the whole part of such a numeral.
* `ReadsBack` — the numbers that are read back from their texts.

## Main results

* `exists_render` — the text of a finite double is a numeral with such a tail.
* `coerceNumber?_writeNumber` — a number that is read back is the number behind its text.
-/

namespace JsonWorkbench

/-! ### Numerals that are no integers -/

/-- An exponent, with its digits. -/
def IsExponent (cs : List Char) : Prop :=
  ∃ sign ds, cs = 'e' :: (sign ++ ds) ∧ (sign = [] ∨ sign = ['+'] ∨ sign = ['-']) ∧ ds ≠ [] ∧
    ∀ c ∈ ds, c.isDigit = true

/-- What stands behind the whole part of a numeral that is no integer. -/
inductive IsTail : List Char → Prop
  /-- A fraction, perhaps with an exponent. -/
  | fraction {ds behind : List Char} (hne : ds ≠ []) (hds : ∀ c ∈ ds, c.isDigit = true)
      (hbehind : behind = [] ∨ IsExponent behind) : IsTail ('.' :: (ds ++ behind))
  /-- An exponent alone. -/
  | exponent {behind : List Char} (h : IsExponent behind) : IsTail behind

/-- An exponent is read. -/
theorem IsExponent.isSome_readExponent? {cs : List Char} (h : IsExponent cs) :
    (Decimal.readExponent? cs).isSome = true := by
  obtain ⟨sign, ds, rfl, hsign, hne, hds⟩ := h
  have hall : ds.all Char.isDigit = true := List.all_eq_true.mpr hds
  have hempty : ds.isEmpty = false := List.isEmpty_eq_false_iff.mpr hne
  have hspan : (Decimal.spanSign (sign ++ ds)).2 = ds := by
    rcases hsign with rfl | rfl | rfl
    · obtain ⟨d, ds, rfl⟩ := List.exists_cons_of_ne_nil hne
      rw [List.nil_append, spanSign_of_isDigit (hds d (List.mem_cons_self ..))]
    · rfl
    · rfl
  simp [Decimal.readExponent?, hspan, hall, hempty]

/-- An exponent begins with no digit. -/
theorem IsExponent.stops {cs : List Char} (h : IsExponent cs) : Text.Stops Char.isDigit cs := by
  obtain ⟨sign, ds, rfl, -⟩ := h
  exact Text.stops_cons.mpr (by decide)

/-- The tail of a numeral begins with a character that is no digit. -/
theorem IsTail.exists_cons {tail : List Char} (h : IsTail tail) :
    ∃ c cs, tail = c :: cs ∧ c.isDigit = false := by
  cases h with
  | fraction => exact ⟨_, _, rfl, by decide⟩
  | exponent h =>
      obtain ⟨sign, ds, rfl, -⟩ := h
      exact ⟨_, _, rfl, by decide⟩

section Numeral

variable {cs whole tail : List Char} (htail : IsTail tail) (hcs : (spanMinus cs).2 = whole ++ tail)

include htail hcs

/-- Digits with such a tail, perhaps behind a minus, are no integer. -/
theorem readInteger?_of_isTail : readInteger? cs = none := by
  obtain ⟨c, rest, rfl, hc⟩ := htail.exists_cons
  have hall : (whole ++ c :: rest).all Char.isDigit = false := by simp [hc]
  simp only [readInteger?, hcs, hall, Bool.and_false, Bool.false_eq_true, if_false]

/-- Digits with such a tail, perhaps behind a minus, are a numeral. -/
theorem isNumeral_of_isTail (hne : whole ≠ []) (hwhole : ∀ c ∈ whole, c.isDigit = true) :
    isNumeral cs = true := by
  have hempty : whole.isEmpty = false := List.isEmpty_eq_false_iff.mpr hne
  have hspan : Decimal.spanDigits (whole ++ tail) = (whole, tail) := by
    refine Text.span_append hwhole ?_
    obtain ⟨c, rest, rfl, hc⟩ := htail.exists_cons
    exact Text.stops_cons.mpr hc
  rw [isNumeral, hcs, hspan]
  cases htail with
  | @fraction ds behind hds' hds hbehind =>
      have hdsempty : ds.isEmpty = false := List.isEmpty_eq_false_iff.mpr hds'
      have hstops : Text.Stops Char.isDigit behind :=
        hbehind.elim (fun h => h ▸ Text.stops_nil _) IsExponent.stops
      have hread : (Decimal.readExponent? behind).isSome = true :=
        hbehind.elim (fun h => h ▸ rfl) IsExponent.isSome_readExponent?
      have hfraction : Decimal.spanDigits (ds ++ behind) = (ds, behind) :=
        Text.span_append hds hstops
      simp only [hfraction, hempty, hdsempty, hread, Bool.not_false, Bool.and_self]
  | exponent h =>
      have hread := h.isSome_readExponent?
      obtain ⟨sign, ds, rfl, -⟩ := h
      simp [hempty, hread]

end Numeral

/-! ### The texts of doubles -/

namespace Decimal

variable {digits : List Char} (hne : digits ≠ []) (hdigits : ∀ c ∈ digits, c.isDigit = true)

include hne hdigits

/-- Positional notation with a fraction. -/
theorem exists_positional (point : Int) :
    ∃ whole tail, positional digits point true = whole ++ tail ∧ whole ≠ [] ∧
      (∀ c ∈ whole, c.isDigit = true) ∧ IsTail tail := by
  have hzeros : ∀ n, ∀ c ∈ List.replicate n '0', c.isDigit = true := by
    intro n c hc
    rw [(List.mem_replicate.mp hc).2]
    decide
  by_cases hpoint : point ≤ 0
  · refine ⟨['0'], '.' :: (List.replicate (-point).toNat '0' ++ digits ++ []), ?_, by simp,
      by simp, .fraction (by simp [hne]) ?_ (.inl rfl)⟩
    · simp [positional, hpoint]
    · exact List.forall_mem_append.mpr ⟨hzeros _, hdigits⟩
  by_cases hlength : digits.length ≤ point.toNat
  · refine ⟨digits ++ List.replicate (point.toNat - digits.length) '0', '.' :: (['0'] ++ []), ?_,
      by simp [hne], List.forall_mem_append.mpr ⟨hdigits, hzeros _⟩,
      .fraction (by simp) (by simp) (.inl rfl)⟩
    simp [positional, hpoint, hlength]
  · refine ⟨digits.take point.toNat, '.' :: (digits.drop point.toNat ++ []), ?_, ?_,
      fun c hc => hdigits c (List.mem_of_mem_take hc),
      .fraction ?_ (fun c hc => hdigits c (List.mem_of_mem_drop hc)) (.inl rfl)⟩
    · simp [positional, hpoint, hlength]
    · have hpos : 0 < point.toNat := by omega
      simp [hne, hpos.ne']
    · rw [ne_eq, List.drop_eq_nil_iff]
      omega

/-- Scientific notation. -/
theorem exists_scientific (exponent : Int) (plus : Bool) :
    ∃ whole tail, scientific digits exponent plus = whole ++ tail ∧ whole ≠ [] ∧
      (∀ c ∈ whole, c.isDigit = true) ∧ IsTail tail := by
  let sign : List Char := if exponent < 0 then ['-'] else if plus then ['+'] else []
  have hexponent : IsExponent ('e' :: (sign ++ digitsOf exponent.natAbs)) := by
    refine ⟨sign, _, rfl, ?_, digitsOf_ne_nil _, fun c hc => isDigit_of_mem_digitsOf hc⟩
    by_cases hneg : exponent < 0 <;> cases plus <;> simp [sign, hneg]
  match digits, hne, hdigits with
  | [d], _, hdigits =>
      exact ⟨[d], _, rfl, by simp, hdigits, .exponent hexponent⟩
  | d :: d' :: ds, _, hdigits =>
      rw [List.forall_mem_cons] at hdigits
      refine ⟨[d], _, ?_, by simp, by simpa using hdigits.1,
        .fraction (List.cons_ne_nil d' ds) hdigits.2 (.inr hexponent)⟩
      simp [scientific, sign, digitsOf]

end Decimal

/-- The text of a decimal that is not negative. -/
theorem exists_renderMagnitude (d : Decimal) :
    ∃ whole tail, Decimal.Layout.json.renderMagnitude d = whole ++ tail ∧ whole ≠ [] ∧
      (∀ c ∈ whole, c.isDigit = true) ∧ IsTail tail := by
  have hne : Nat.toDigits 10 d.coefficient ≠ [] := digitsOf_ne_nil _
  have hdigits : ∀ c ∈ Nat.toDigits 10 d.coefficient, c.isDigit = true :=
    fun c hc => isDigit_of_mem_digitsOf hc
  rw [Decimal.Layout.renderMagnitude]
  split
  · exact ⟨['0'], '.' :: (['0'] ++ []), rfl, by simp, by simp,
      .fraction (by simp) (by simp) (.inl rfl)⟩
  · dsimp only
    split_ifs
    · exact Decimal.exists_scientific hne hdigits _ _
    · exact Decimal.exists_positional hne hdigits _

/-- A finite double is a number, and not infinite. -/
theorem isNaN_isInf_of_isFinite {x : Float} (h : x.isFinite = true) :
    x.isNaN = false ∧ x.isInf = false := by
  change x.toModel.unpack.isFinite = true at h
  change x.toModel.unpack.isNaN = false ∧ x.toModel.unpack.isInf = false
  cases hx : x.toModel.unpack with
  | zero | finite => exact ⟨rfl, rfl⟩
  | infinity | notANumber =>
      rw [hx] at h
      exact absurd h Bool.false_ne_true

/-- **The text of a finite double** is digits with such a tail, perhaps behind a minus. -/
theorem exists_render {x : Float} (h : x.isFinite = true) :
    ∃ whole tail, (spanMinus (Json.writeNumber (.double x))).2 = whole ++ tail ∧ whole ≠ [] ∧
      (∀ c ∈ whole, c.isDigit = true) ∧ IsTail tail := by
  obtain ⟨hnan, hinf⟩ := isNaN_isInf_of_isFinite h
  obtain ⟨whole, tail, hrender, hne, hwhole, htail⟩ := exists_renderMagnitude (Decimal.ofFloat x)
  refine ⟨whole, tail, ?_, hne, hwhole, htail⟩
  simp only [Json.writeNumber, Decimal.Layout.render, hnan, hinf, Bool.false_eq_true, if_false,
    String.toList_ofList, hrender]
  cases Decimal.isNegative x with
  | true => rfl
  | false =>
      obtain ⟨d, ds, rfl⟩ := List.exists_cons_of_ne_nil hne
      have hd := hwhole d (List.mem_cons_self ..)
      unfold spanMinus
      split
      · next heq => exact absurd hd (by rw [(List.cons.inj heq).1]; decide)
      · rfl

/-! ### Reading back -/

/-- A number that is read back from its text: for an integer that is known, for a double it is a
matter of the digits of its text. -/
def ReadsBack : Number → Prop
  | .integer _ => True
  | .double x => Decimal.readFloat? (Json.writeNumber (.double x)) = some x

/-- **A number that is read back is the number behind its text.** -/
theorem coerceNumber?_writeNumber {n : Number} (h : n.WellFormed) (hback : ReadsBack n) :
    coerceNumber? (String.ofList (Json.writeNumber n)) = some (.number n) := by
  cases n with
  | integer n =>
      rw [Json.writeNumber, String.ofList_toList]
      exact coerceNumber?_toString h
  | double x =>
      obtain ⟨whole, tail, hcs, hne, hwhole, htail⟩ := exists_render h
      have hfinite : x.isFinite = true := h
      have hread : Decimal.readFloat? (Json.writeNumber (.double x)) = some x := hback
      rw [coerceNumber?, String.toList_ofList, readInteger?_of_isTail htail hcs]
      simp only [isNumeral_of_isTail htail hcs hne hwhole, if_true, hread, Option.bind_some,
        Value.ofFloat?, hfinite]

/-- No character of a number is blank. -/
theorem IsNumeralChar.isBlank_eq_false {c : Char} (h : IsNumeralChar c) :
    Text.isBlank c = false := by
  rcases h with h | rfl | rfl | rfl
  · have hnumber := toNat_of_isAlphanum h
    simp only [Text.isBlank, Bool.or_eq_false_iff, Bool.and_eq_false_iff, beq_eq_false_iff_ne,
      decide_eq_false_iff_not]
    omega
  · decide
  · decide
  · decide

/-- The text of a number is not trimmed. -/
theorem trim_writeNumber (n : Number) : Text.trim (Json.writeNumber n) = Json.writeNumber n :=
  Text.trim_of_forall_not fun c hc => (isNumeralChar_of_mem_writeNumber n c hc).isBlank_eq_false

end JsonWorkbench
