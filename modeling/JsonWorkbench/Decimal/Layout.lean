import JsonWorkbench.Decimal.Shortest

/-!
# Layouts of Decimals

How the digits of a double become text: where positional notation ends, whether a whole number
keeps a fraction of zero, and whether a positive exponent has a sign. One record says it all, and
every format has its record.

## Main definitions

* `Layout` — the decisions of a format; `Layout.render` applies them to a double.
* `Layout.json`, `Layout.yaml`, `Layout.toml`, `Layout.message`, `Layout.listing` — the formats.
-/

namespace JsonWorkbench.Decimal

/-- How a format writes the digits of a double. -/
structure Layout where
  /-- The least decimal exponent that is still written positionally, if there is a bound. -/
  least : Option Int
  /-- The least decimal exponent that is no longer written positionally, if there is a bound. -/
  beyond : Option Int
  /-- Whether a whole number in positional notation ends in a fraction of zero. -/
  fraction : Bool
  /-- Whether a positive exponent has a sign. -/
  plus : Bool
  deriving Repr, DecidableEq

/-- JSON text: positional from 10⁻⁵ up to 10¹⁶, signs on all exponents. -/
def Layout.json : Layout := ⟨some (-5), some 16, true, true⟩

/-- YAML text: as JSON text, without the sign of a positive exponent. -/
def Layout.yaml : Layout := ⟨some (-5), some 16, true, false⟩

/-- TOML text: always positional. -/
def Layout.toml : Layout := ⟨none, none, true, false⟩

/-- Bounds in messages: always positional, whole numbers without a fraction. -/
def Layout.message : Layout := ⟨none, none, false, false⟩

/-- Listed numbers: positional from 10⁻⁴ up to 10¹⁶. -/
def Layout.listing : Layout := ⟨some (-4), some 16, true, false⟩

/-- The digits with the point behind the first `point` of them, padded with zeros. -/
def positional (digits : List Char) (point : Int) (fraction : Bool) : List Char :=
  if point ≤ 0 then '0' :: '.' :: (List.replicate (-point).toNat '0' ++ digits)
  else
    let n := point.toNat
    if digits.length ≤ n then
      digits ++ List.replicate (n - digits.length) '0' ++ (if fraction then ['.', '0'] else [])
    else digits.take n ++ '.' :: digits.drop n

/-- The digits with the point behind the first of them, and the exponent. -/
def scientific (digits : List Char) (exponent : Int) (plus : Bool) : List Char :=
  let mantissa :=
    match digits with
    | [] => []
    | [d] => [d]
    | d :: ds => d :: '.' :: ds
  let sign := if exponent < 0 then ['-'] else if plus then ['+'] else []
  mantissa ++ 'e' :: sign ++ Nat.toDigits 10 exponent.natAbs

/-- The text of a decimal that is not negative. -/
def Layout.renderMagnitude (l : Layout) (d : Decimal) : List Char :=
  if d.coefficient = 0 then if l.fraction then ['0', '.', '0'] else ['0']
  else
    let digits := Nat.toDigits 10 d.coefficient
    let point := d.exponent + digits.length
    let tooSmall := match l.least with | some e => decide (point - 1 < e) | none => false
    let tooGreat := match l.beyond with | some e => decide (e ≤ point - 1) | none => false
    if tooSmall || tooGreat then scientific digits (point - 1) l.plus
    else positional digits point l.fraction

/-- The text of a double. -/
def Layout.render (l : Layout) (x : Float) : String :=
  let sign := if isNegative x then ['-'] else []
  if x.isNaN then "NaN"
  else if x.isInf then String.ofList (sign ++ ['i', 'n', 'f'])
  else String.ofList (sign ++ l.renderMagnitude (ofFloat x))

end JsonWorkbench.Decimal
