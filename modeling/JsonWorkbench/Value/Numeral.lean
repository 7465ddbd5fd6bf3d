import JsonWorkbench.Decimal.Numeral
import JsonWorkbench.Value.Basic

/-!
# Numbers in Plain Text

Formats without types of their own (cells, element text, literals) hold numbers as text. A text
that is an integer in the range of 64 bits is that integer; a decimal numeral, also with a
fraction or an exponent, is the nearest double if that is finite; everything else is no number.

## Main definitions

* `coerceNumber?` — the number that a text stands for.
-/

namespace JsonWorkbench

/-- The text without a minus at its start, and whether there was one. -/
def spanMinus : List Char → Bool × List Char
  | '-' :: cs => (true, cs)
  | cs => (false, cs)

/-- The integer in the range of 64 bits that a text of digits with an optional minus stands for. -/
def readInteger? (cs : List Char) : Option Int :=
  let (negative, digits) := spanMinus cs
  if !digits.isEmpty && digits.all Char.isDigit then
    let n : Int := Decimal.digitsValue digits
    let signed := if negative then -n else n
    if Number.least ≤ signed && signed ≤ Number.greatest then some signed else none
  else none

/-- Whether a text is a decimal numeral: an optional minus, digits, an optional fraction with
digits, an optional exponent. -/
def isNumeral (cs : List Char) : Bool :=
  let (whole, rest) := Decimal.spanDigits (spanMinus cs).2
  let (fraction, behind) : Bool × List Char :=
    match rest with
    | '.' :: more =>
      let (digits, behind) := Decimal.spanDigits more
      (!digits.isEmpty, behind)
    | _ => (true, rest)
  !whole.isEmpty && fraction && (Decimal.readExponent? behind).isSome

/-- The number that a text stands for: an integer if it fits, else a finite double. -/
def coerceNumber? (text : String) : Option Value :=
  let cs := text.toList
  match readInteger? cs with
  | some n => some (.int n)
  | none => if isNumeral cs then (Decimal.readFloat? cs).bind Value.ofFloat? else none

end JsonWorkbench
