/-!
# Hexadecimal Digits

Reading and writing numbers in base sixteen, as escapes in texts use them.

## Main definitions

* `hexValue?`, `hexNumber?` — the value of a digit, and of a list of digits.
* `scalar?` — the character with a number, if there is one.
* `hexText` — a number in upper-case digits, with leading zeros.
-/

namespace JsonWorkbench.Text

/-- The value of a hexadecimal digit. -/
def hexValue? (c : Char) : Option Nat :=
  if c.isDigit then some (c.toNat - 48)
  else if 'a' ≤ c && c ≤ 'f' then some (c.toNat - 87)
  else if 'A' ≤ c && c ≤ 'F' then some (c.toNat - 55)
  else none

/-- The number behind a list of hexadecimal digits. -/
def hexNumber? (digits : List Char) : Option Nat :=
  digits.foldlM (fun n c => (hexValue? c).map (16 * n + ·)) 0

/-- The character with a number; surrogates and numbers that are too great have none. -/
def scalar? (n : Nat) : Option Char :=
  if n < 0xD800 || (0xDFFF < n && n < 0x110000) then some (Char.ofNat n) else none

/-- A number in upper-case hexadecimal digits, at least `width` of them. -/
def hexText (width n : Nat) : List Char :=
  let digits := (Nat.toDigits 16 n).map Char.toUpper
  List.replicate (width - digits.length) '0' ++ digits

end JsonWorkbench.Text
