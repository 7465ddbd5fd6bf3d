import JsonWorkbench.Proofs.Numeral
import JsonWorkbench.Toml.Reader
import Mathlib.Data.List.Basic
import Mathlib.Data.List.TakeWhile

/-!
# Reading TOML Integers

What begins with a digit may be a date, a time, a double or an integer, and the reader tries them
in this order. The digits of an integer end where the line or the list that they stand in goes on,
so that a date misses its hyphen, a time its colon and a double its point or exponent. Each of
these failures leaves the next reading open.

## Main definitions

* `EndsValue` — the texts that may stand behind a value.
* `IsSoft` — the failures that leave another reading open.

## Main results

* `scanNumeric_toString` — an integer is read back from its text.
-/

namespace JsonWorkbench.Toml

/-! ### Ends of values -/

/-- A text that may stand behind a value: the end of the line, or what separates or closes the
container. -/
def EndsValue (cs : List Char) : Prop :=
  ∀ c, cs.head? = some c → c = '\n' ∨ c = ',' ∨ c = ']' ∨ c = ' '

/-- What stands behind a value is none of the characters that a value goes on with. -/
theorem EndsValue.stops {cs : List Char} (h : EndsValue cs) {p : Char → Bool}
    (hfeed : p '\n' = false) (hcomma : p ',' = false) (hclose : p ']' = false)
    (hblank : p ' ' = false) : Text.Stops p cs := by
  intro c hc
  rcases h c hc with rfl | rfl | rfl | rfl
  · exact hfeed
  · exact hcomma
  · exact hclose
  · exact hblank

/-! ### Failures that leave another reading open -/

variable {α β : Type}

/-- A failure that leaves another reading open. -/
def IsSoft (r : Except Failure α) : Prop := ∃ cs, r = soft cs

/-- A soft failure is one. -/
theorem isSoft_soft (cs : List Char) : IsSoft (soft cs : Except Failure α) := ⟨cs, rfl⟩

/-- What follows a soft failure is not read. -/
theorem IsSoft.bind {r : Except Failure α} (h : IsSoft r) (f : α → Except Failure β) :
    IsSoft (r >>= f) := by
  obtain ⟨cs, rfl⟩ := h
  exact ⟨cs, rfl⟩

/-- Another reading is tried. -/
theorem IsSoft.orElse {r : Except Failure α} (h : IsSoft r) (other : Unit → Except Failure α) :
    orElse r other = other () := by
  obtain ⟨cs, rfl⟩ := h
  rfl

/-- A soft failure has no value to change. -/
theorem IsSoft.map {r : Except Failure α} (h : IsSoft r) (f : α → β) : IsSoft (r.map f) := by
  obtain ⟨cs, rfl⟩ := h
  exact ⟨cs, rfl⟩

/-- A character that is not next is missed. -/
theorem expect_of_stops {x : Char} {cs : List Char} (h : Text.Stops (· == x) cs) :
    expect x cs = soft cs := by
  rcases cs with - | ⟨c, cs⟩
  · rfl
  · rw [Text.stops_cons] at h
    rw [expect, h, if_neg Bool.false_ne_true]

/-- A word is missed whose first letter is not next. -/
theorem isSoft_expectWord {x : Char} {word cs : List Char} (h : Text.Stops (· == x) cs) :
    IsSoft (expectWord (x :: word) cs) := by
  have hnot : (x :: word).isPrefixOf cs = false := by
    rcases cs with - | ⟨c, cs⟩
    · rfl
    · rw [Text.stops_cons, beq_eq_false_iff_ne] at h
      rw [List.isPrefixOf, beq_eq_false_iff_ne.mpr h.symm, Bool.false_and]
  rw [expectWord, hnot, if_neg Bool.false_ne_true]
  exact isSoft_soft cs

/-! ### Digits -/

section Digits

variable {ds rest : List Char} (hds : ∀ c ∈ ds, c.isDigit = true)

include hds

/-- Behind some of the digits stand others, or the end. -/
theorem stops_drop {x : Char} (hx : x.isDigit = false) (hrest : Text.Stops (· == x) rest)
    (n : Nat) :
    Text.Stops (· == x) (ds.drop n ++ rest) := by
  rcases hdrop : ds.drop n with - | ⟨c, more⟩
  · exact hrest
  · have hmem : c ∈ ds.drop n := by rw [hdrop]; exact List.mem_cons_self ..
    have hc : c.isDigit = true := hds c (List.mem_of_mem_drop hmem)
    rw [List.cons_append, Text.stops_cons, beq_eq_false_iff_ne]
    rintro rfl
    rw [hx] at hc
    exact Bool.false_ne_true hc

variable (hend : EndsValue rest)

include hend

/-- So many digits are the first ones, or there are not so many. -/
theorem scanDigits_append (n : Nat) :
    scanDigits n (ds ++ rest) = .ok (ds.take n, ds.drop n ++ rest) ∨
      IsSoft (scanDigits n (ds ++ rest)) := by
  have hdigit : Text.Stops Char.isDigit rest := hend.stops rfl rfl rfl rfl
  rw [scanDigits]
  rcases Nat.lt_or_ge ds.length n with hlt | hle
  · right
    have hrun : ((ds ++ rest).take n).takeWhile Char.isDigit = ds := by
      rw [List.take_append, List.take_of_length_le (Nat.le_of_lt hlt),
        List.takeWhile_append_of_pos hds]
      have hnone : (rest.take (n - ds.length)).takeWhile Char.isDigit = [] := by
        rcases rest with - | ⟨c, rest⟩
        · simp
        · rw [Text.stops_cons] at hdigit
          obtain ⟨k, hk⟩ : ∃ k, n - ds.length = k + 1 := ⟨n - ds.length - 1, by omega⟩
          rw [hk, List.take_succ_cons, List.takeWhile_cons_of_neg (by simp [hdigit])]
      rw [hnone, List.append_nil]
    rw [hrun]
    simp only [if_neg (Nat.ne_of_lt hlt)]
    exact isSoft_soft _
  · left
    have htake : (ds ++ rest).take n = ds.take n := List.take_append_of_le_length hle
    have hrun : (ds.take n).takeWhile Char.isDigit = ds.take n :=
      List.takeWhile_eq_self_iff.mpr fun c hc => hds c (List.mem_of_mem_take hc)
    rw [htake, hrun]
    simp only [List.length_take, Nat.min_eq_left hle, if_true,
      List.drop_append_of_le_length hle]

/-- Digits are no date. -/
theorem isSoft_scanDate : IsSoft (scanDate (ds ++ rest)) := by
  have hminus : Text.Stops (· == '-') rest := hend.stops rfl rfl rfl rfl
  rw [scanDate]
  rcases scanDigits_append hds hend 4 with hok | hsoft
  · have hexpect := expect_of_stops (stops_drop hds rfl hminus 4)
    rw [hok]
    exact ⟨_, by simp only [bind, Except.bind, hexpect]; rfl⟩
  · exact hsoft.bind _

/-- Digits are no time. -/
theorem isSoft_scanTime : IsSoft (scanTime (ds ++ rest)) := by
  have hcolon : Text.Stops (· == ':') rest := hend.stops rfl rfl rfl rfl
  have hpair : scanPair 0 23 (ds ++ rest) = .ok (ds.take 2, ds.drop 2 ++ rest) ∨
      IsSoft (scanPair 0 23 (ds ++ rest)) := by
    rw [scanPair]
    rcases scanDigits_append hds hend 2 with hok | hsoft
    · rw [hok]
      simp only [bind, Except.bind, pure, Except.pure]
      split
      · exact .inl rfl
      · exact .inr (isSoft_soft _)
    · exact .inr (hsoft.bind _)
  rw [scanTime]
  rcases hpair with hok | hsoft
  · have hexpect := expect_of_stops (stops_drop hds rfl hcolon 2)
    rw [hok]
    exact ⟨_, by simp only [bind, Except.bind, hexpect]; rfl⟩
  · exact hsoft.bind _

/-- Digits are neither a date nor a time. -/
theorem isSoft_scanDateTime : IsSoft (scanDateTime (ds ++ rest)) := by
  rw [scanDateTime, ((isSoft_scanDate hds hend).bind _).orElse]
  exact isSoft_scanTime hds hend

/-- Further digits are read up to the end. -/
theorem scanMore_append : scanMore Char.isDigit (ds ++ rest) = .ok (ds, rest) := by
  have hdigit : Text.Stops Char.isDigit rest := hend.stops rfl rfl rfl rfl
  have hline : Text.Stops (· == '_') rest := hend.stops rfl rfl rfl rfl
  induction ds with
  | nil =>
      rcases rest with - | ⟨c, rest⟩
      · rfl
      · rw [Text.stops_cons] at hdigit hline
        rw [List.nil_append]
        unfold scanMore
        split
        · next heq => exact absurd heq (by simp)
        · next heq => exact absurd (List.cons.inj heq).1 (by simpa using hline)
        · next heq => exact absurd (List.cons.inj heq).1 (by simpa using hline)
        · next heq =>
            obtain ⟨rfl, rfl⟩ := List.cons.inj heq
            rw [hdigit, if_neg Bool.false_ne_true]
  | cons d ds ih =>
      rw [List.forall_mem_cons] at hds
      have hne : d ≠ '_' := by
        rintro rfl
        exact absurd hds.1 (by decide)
      rw [List.cons_append]
      unfold scanMore
      split
      · next heq => exact absurd heq (by simp)
      · next heq => exact absurd (List.cons.inj heq).1 hne
      · next heq => exact absurd (List.cons.inj heq).1 hne
      · next heq =>
          obtain ⟨rfl, rfl⟩ := List.cons.inj heq
          rw [hds.1, if_pos rfl, ih hds.2]
          rfl

end Digits

/-! ### Integers -/

/-- The minus of a negative integer. -/
def minusOf (negative : Bool) : List Char := if negative then ['-'] else []

/-- The text of an integer as a sign and digits. -/
theorem toList_toString_eq (n : Int) :
    (toString n).toList = minusOf (decide (n < 0)) ++ digitsOf n.natAbs := by
  rw [toList_toString_int]
  by_cases hn : n < 0 <;> simp [minusOf, hn]

section Integers

variable {rest : List Char} (negative : Bool) (m : Nat)

/-- The sign is read. -/
theorem spanSign_minusOf (m : Nat) (rest : List Char) :
    spanSign (minusOf negative ++ (digitsOf m ++ rest)) =
      (minusOf negative, digitsOf m ++ rest) := by
  cases negative with
  | true => rfl
  | false =>
      rw [minusOf, if_neg Bool.false_ne_true, List.nil_append]
      unfold spanSign
      split
      · next heq => exact absurd heq (digitsOf_append_ne_cons rfl m rest _)
      · next heq => exact absurd heq (digitsOf_append_ne_cons rfl m rest _)
      · rfl

/-- Digits do not begin like an integer of another base. -/
theorem ne_based {x : Char} (hrest : Text.Stops (· == x) rest)
    (more : List Char) : minusOf negative ++ (digitsOf m ++ rest) ≠ '0' :: x :: more := by
  intro heq
  cases negative with
  | true => exact absurd (List.cons.inj heq).1 (by decide)
  | false =>
      rw [minusOf, if_neg Bool.false_ne_true, List.nil_append] at heq
      rcases Nat.eq_zero_or_pos m with rfl | hpos
      · have hcons : '0' :: rest = '0' :: x :: more := heq
        rw [(List.cons.inj hcons).2, Text.stops_cons, beq_self_eq_true] at hrest
        exact Bool.false_ne_true hrest.symm
      · have hhead := head?_digitsOf hpos
        obtain ⟨d, ds, hds, -, -⟩ := exists_digitsOf m
        rw [hds] at heq hhead
        exact hhead (by rw [(List.cons.inj heq).1]; rfl)

variable (hend : EndsValue rest)

include hend

/-- The digits of a number are read, behind its sign. -/
theorem scanDecimal_append :
    scanDecimal (minusOf negative ++ (digitsOf m ++ rest)) =
      .ok (minusOf negative ++ digitsOf m, rest) := by
  have hspan := spanSign_minusOf negative m rest
  rw [scanDecimal, hspan]
  rcases Nat.eq_zero_or_pos m with rfl | hpos
  · rfl
  · obtain ⟨d, ds, hds, hd, hmore⟩ := exists_digitsOf m
    have hzero : d ≠ '0' := by
      have hhead := head?_digitsOf hpos
      rw [hds] at hhead
      simpa using hhead
    have hsome : scanSome Char.isDigit (d :: (ds ++ rest)) = .ok (d :: ds, rest) := by
      rw [scanSome, if_pos hd, scanMore_append hmore hend]
      rfl
    simp only [hds, List.cons_append]
    split
    · next heq => exact absurd (List.cons.inj heq).1 hzero
    · rw [hsome]
      rfl

/-- An integer is no double. -/
theorem isSoft_scanDouble : IsSoft (scanDouble (minusOf negative ++ (digitsOf m ++ rest))) := by
  have hexponent : IsSoft (scanExponent rest) := by
    have he : Text.Stops (fun c => c == 'e' || c == 'E') rest := hend.stops rfl rfl rfl rfl
    rcases rest with - | ⟨c, rest⟩
    · exact isSoft_soft _
    · rw [Text.stops_cons] at he
      rw [scanExponent, he, if_neg Bool.false_ne_true]
      exact isSoft_soft _
  have hfraction : IsSoft (scanFractional rest) := by
    rw [scanFractional, expect_of_stops (hend.stops rfl rfl rfl rfl)]
    exact isSoft_soft _
  have hdigits : IsSoft (scanDigitDouble (minusOf negative ++ (digitsOf m ++ rest))) := by
    obtain ⟨left, hsoft⟩ := hfraction
    rw [scanDigitDouble, scanDecimal_append negative m hend]
    refine ⟨left, ?_⟩
    simp only [bind, Except.bind, hexponent.orElse, hsoft]
    rfl
  have hword : IsSoft (scanWordDouble (minusOf negative ++ (digitsOf m ++ rest))) := by
    obtain ⟨d, ds, hds, hd, -⟩ := exists_digitsOf m
    have hletter {x : Char} (hx : x.isDigit = false) :
        Text.Stops (· == x) (digitsOf m ++ rest) := by
      rw [hds, List.cons_append, Text.stops_cons, beq_eq_false_iff_ne]
      rintro rfl
      rw [hx] at hd
      exact Bool.false_ne_true hd
    rw [scanWordDouble, spanSign_minusOf negative m rest]
    simp only
    rw [((isSoft_expectWord (hletter rfl)).map _).orElse]
    exact (isSoft_expectWord (hletter rfl)).map _
  rw [scanDouble, hdigits.orElse]
  exact hword

/-- An integer of 63 bits and a sign is read as such. -/
theorem scanInteger_append {n : Int} (hn : signedWord? negative m = some n) :
    scanInteger (minusOf negative ++ (digitsOf m ++ rest)) = .ok (n, rest) := by
  have hspan : Decimal.spanSign (minusOf negative ++ digitsOf m) = (negative, digitsOf m) := by
    cases negative with
    | true => rfl
    | false => exact spanSign_digitsOf m
  have hbase {x : Char} (hrest : Text.Stops (· == x) rest) (more : List Char) :=
    ne_based negative m hrest more
  unfold scanInteger
  split
  · next heq => exact absurd heq (hbase (hend.stops rfl rfl rfl rfl) _)
  · next heq => exact absurd heq (hbase (hend.stops rfl rfl rfl rfl) _)
  · next heq => exact absurd heq (hbase (hend.stops rfl rfl rfl rfl) _)
  · rw [scanDecimal_append negative m hend]
    simp only [bind, Except.bind, hspan, digitsValue_digitsOf, hn]
    rfl

end Integers

/-- **An integer is read back from its text**, if it has at most 63 bits and a sign. -/
theorem scanNumeric_toString {n : Int}
    (hn : Number.least ≤ n ∧ n ≤ Number.greatestSigned) {rest : List Char} (hend : EndsValue rest) :
    scanNumeric ((toString n).toList ++ rest) = .ok (.int n, rest) := by
  have hword : signedWord? (decide (n < 0)) n.natAbs = some n := by
    have hvalue : (if decide (n < 0) then -(n.natAbs : Int) else n.natAbs) = n := by
      by_cases hneg : n < 0 <;> simp only [hneg, decide_true, decide_false, if_true,
        Bool.false_eq_true, if_false] <;> omega
    rw [signedWord?]
    simp only [hvalue]
    rw [if_pos (by simp [hn.1, hn.2])]
  have hdate : IsSoft (scanDateTime (minusOf (decide (n < 0)) ++ (digitsOf n.natAbs ++ rest))) := by
    by_cases hneg : n < 0
    · rw [decide_eq_true hneg]
      exact ⟨_, rfl⟩
    · rw [decide_eq_false hneg, minusOf, if_neg Bool.false_ne_true, List.nil_append]
      exact isSoft_scanDateTime (fun _ hc => isDigit_of_mem_digitsOf hc) hend
  rw [toList_toString_eq, List.append_assoc, scanNumeric, (hdate.map _).orElse,
    ((isSoft_scanDouble _ _ hend).map _).orElse, scanInteger_append _ _ hend hword]
  rfl

end JsonWorkbench.Toml
