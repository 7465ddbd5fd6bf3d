import JsonWorkbench.Text.Hexadecimal
import Mathlib.Algebra.Group.Nat.Defs
import Mathlib.Data.List.Basic
import Mathlib.Data.List.Induction

/-!
# Numbers by Their Hexadecimal Digits

Escapes in texts name a character by its number in base sixteen. The number is read back from its
digits, with leading zeros or without, and the character from its number.

## Main results

* `hexNumber?_hexText` — a number is read back from its hexadecimal text.
* `scalar?_toNat` — a character is the one with its number.
-/

namespace JsonWorkbench.Text

/-- The value of a digit in lower case and in upper case. -/
theorem hexValue?_digitChar {n : Nat} (h : n < 16) :
    hexValue? (Nat.digitChar n) = some n ∧ hexValue? (Nat.digitChar n).toUpper = some n := by
  have hall : ∀ m < 16, hexValue? (Nat.digitChar m) = some m ∧
      hexValue? (Nat.digitChar m).toUpper = some m := by decide
  exact hall n h

/-- The number behind digits with one more digit behind them. -/
theorem hexNumber?_append (cs : List Char) (c : Char) :
    hexNumber? (cs ++ [c]) =
      (hexNumber? cs).bind fun n => (hexValue? c).map (16 * n + ·) := by
  rw [hexNumber?, List.foldlM_append]
  simp [hexNumber?]

/-- A number is the number behind its hexadecimal digits. -/
theorem hexNumber?_toDigits (n : Nat) :
    hexNumber? ((Nat.toDigits 16 n).map Char.toUpper) = some n := by
  induction n using Nat.strongRecOn with
  | ind n ih =>
      rcases Nat.lt_or_ge n 16 with hlt | hge
      · rw [Nat.toDigits_of_lt_base hlt]
        have hone := hexNumber?_append [] (Nat.digitChar n).toUpper
        rw [List.nil_append] at hone
        rw [List.map_singleton, hone, (hexValue?_digitChar hlt).2]
        simp [hexNumber?]
      · have hmod : n % 16 < 16 := Nat.mod_lt n (by decide)
        rw [Nat.toDigits_of_base_le (by decide) hge, List.map_append, List.map_singleton,
          hexNumber?_append, ih (n / 16) (by omega), Option.bind_some,
          (hexValue?_digitChar hmod).2, Option.map_some, Nat.div_add_mod]

/-- Leading zeros do not count. -/
theorem hexNumber?_zeros (k : Nat) (cs : List Char) :
    hexNumber? (List.replicate k '0' ++ cs) = hexNumber? cs := by
  induction k with
  | zero => rfl
  | succ k ih =>
      rw [List.replicate_succ, List.cons_append, ← ih]
      rfl

/-- A number is the number behind its hexadecimal text. -/
theorem hexNumber?_hexText (width n : Nat) : hexNumber? (hexText width n) = some n := by
  rw [hexText, hexNumber?_zeros, hexNumber?_toDigits]

/-- What stands for a number has hexadecimal digits only. -/
theorem isSome_hexValue?_of_hexNumber? {cs : List Char} {n : Nat} (h : hexNumber? cs = some n) :
    ∀ c ∈ cs, (hexValue? c).isSome = true := by
  induction cs using List.reverseRecOn generalizing n with
  | nil => simp
  | append_singleton cs c ih =>
      rw [hexNumber?_append] at h
      obtain ⟨m, hm, hc⟩ := Option.bind_eq_some_iff.mp h
      obtain ⟨d, hd, -⟩ := Option.map_eq_some_iff.mp hc
      rw [List.forall_mem_append, List.forall_mem_singleton, hd]
      exact ⟨ih hm, rfl⟩

/-- The hexadecimal text of a number that is not too great has the given width. -/
theorem length_hexText {width n : Nat} (hw : 0 < width) (h : n < 16 ^ width) :
    (hexText width n).length = width := by
  have hlen : (Nat.toDigits 16 n).length ≤ width :=
    (Nat.length_toDigits_le_iff (by decide) hw).mpr h
  rw [hexText, List.length_append, List.length_replicate, List.length_map]
  omega

/-- A character is the one with its number. -/
theorem scalar?_toNat (c : Char) : scalar? c.toNat = some c := by
  have hvalid : c.toNat < 0xD800 ∨ (0xDFFF < c.toNat ∧ c.toNat < 0x110000) := c.valid
  rw [scalar?, if_pos (by simpa using hvalid), Char.ofNat_toNat]

end JsonWorkbench.Text
