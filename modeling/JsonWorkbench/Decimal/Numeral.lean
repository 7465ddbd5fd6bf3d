import JsonWorkbench.Decimal.Shortest

/-!
# Numerals

Reading decimal numerals exactly: the digits and the exponent are taken as they stand, and the
double nearest to that number is the answer.

## Main definitions

* `digitsValue` — the number behind a list of digits.
* `Decimal.toFloat` — the nearest double, infinite if the number is too great.
* `readFloat?` — a signed numeral with optional fraction and exponent, or a word for infinity or
  for no number.
-/

namespace JsonWorkbench.Decimal

/-- The value of an ASCII digit. -/
def digitValue (c : Char) : Nat := c.toNat - 48

/-- The number behind a list of ASCII digits. -/
def digitsValue (cs : List Char) : Nat :=
  cs.foldl (fun n c => 10 * n + digitValue c) 0

/-- The double nearest to a decimal. Exponents beyond the range of doubles are answered without
computing the power. -/
def toFloat (negative : Bool) (d : Decimal) : Float :=
  let point := d.exponent + digitCount d.coefficient
  if d.coefficient = 0 || point < -400 then nearest negative 0 1
  else if point > 400 then infinity negative
  else
    let (n, den) := inUnits d.coefficient 1 (-d.exponent)
    nearest negative n den

/-- The digits at the start of a text, and the rest. -/
def spanDigits (cs : List Char) : List Char × List Char := cs.span Char.isDigit

/-- A sign at the start of a text, as whether it is a minus, and the rest. -/
def spanSign : List Char → Bool × List Char
  | '-' :: cs => (true, cs)
  | '+' :: cs => (false, cs)
  | cs => (false, cs)

/-- An exponent `e+12` that makes up the whole text; an empty text stands for zero. -/
def readExponent? : List Char → Option Int
  | [] => some 0
  | c :: cs =>
    if c == 'e' || c == 'E' then
      let (negative, rest) := spanSign cs
      if !rest.isEmpty && rest.all Char.isDigit then
        let n : Int := digitsValue rest
        some (if negative then -n else n)
      else none
    else none

/-- A numeral without a sign: digits, an optional point with digits on at least one side, and an
optional exponent. -/
def readMagnitude? (cs : List Char) : Option Decimal :=
  let (whole, rest) := spanDigits cs
  let (fraction, rest) :=
    match rest with
    | '.' :: more => spanDigits more
    | _ => ([], rest)
  if whole.isEmpty && fraction.isEmpty then none
  else
    (readExponent? rest).map fun e =>
      { coefficient := digitsValue (whole ++ fraction), exponent := e - fraction.length }

/-- A double in the widest spelling: optional sign, numeral, or one of the words `inf`,
`infinity`, `nan` in any case. -/
def readFloat? (cs : List Char) : Option Float :=
  let (negative, rest) := spanSign cs
  let word := rest.map Char.toLower
  if word = "inf".toList || word = "infinity".toList then some (infinity negative)
  else if word = "nan".toList then some (Float.ofBits 0x7FF8000000000000)
  else (readMagnitude? rest).map (toFloat negative)

end JsonWorkbench.Decimal
