import JsonWorkbench.Decimal.Binary

/-!
# Shortest Decimals

The fewest digits that read back as a given double, and of those the nearest to it. The doubles
that round to it form an interval around it, ends included exactly when its mantissa is even. A
grid of decimals meets that interval exactly when one of the two neighbours of the value on the
grid lies in it, so grids are tried from the coarsest on, and on each of them only two numbers.

## Main definitions

* `Decimal` — a natural number times a power of ten.
* `shortest` — the shortest decimal of a magnitude.
-/

namespace JsonWorkbench

/-- The number `coefficient * 10 ^ exponent`. -/
structure Decimal where
  /-- The digits, as a number. -/
  coefficient : Nat
  /-- The power of ten. -/
  exponent : Int
  deriving Repr, DecidableEq

namespace Decimal

/-- The number of decimal digits of a natural number. -/
def digitCount (n : Nat) : Nat := (Nat.toDigits 10 n).length

/-- A fraction in units of `10 ^ k`. -/
def inUnits (num den : Nat) (k : Int) : Nat × Nat :=
  if k ≥ 0 then (num, den * tenPow k.toNat) else (num * tenPow (-k).toNat, den)

/-- The `k` with `10 ^ (k - 1) ≤ num / den < 10 ^ k`, for a positive fraction. -/
def pointPosition (num den : Nat) : Int :=
  if num ≥ den then digitCount (num / den)
  else
    let zeros := digitCount (den / num)
    let (n, d) := inUnits num den (1 - (zeros : Int))
    if n ≥ d then 2 - (zeros : Int) else 1 - (zeros : Int)

/-- The value and the two ends of its rounding interval, in quarters of its unit. -/
structure Interval where
  /-- The value. -/
  value : Nat
  /-- The lower end. -/
  low : Nat
  /-- The upper end. -/
  high : Nat
  /-- Whether the ends round to the value. -/
  closed : Bool

/-- The rounding interval of a magnitude. -/
def Binary.interval (b : Binary) : Interval :=
  { value := 4 * b.mantissa
    low := 4 * b.mantissa - (if b.narrowBelow then 1 else 2)
    high := 4 * b.mantissa + 2
    closed := b.mantissa % 2 = 0 }

/-- Whether `x` lies between the ends, all three counted in the same unit. -/
def Interval.admits (i : Interval) (scale x : Nat) : Bool :=
  if i.closed then i.low * scale ≤ x && x ≤ i.high * scale
  else i.low * scale < x && x < i.high * scale

/-- The better of the two neighbours of the value on the grid of `10 ^ k`, if either reads back.
The unit of the interval is `2 ^ q`. -/
def Interval.onGrid (i : Interval) (q k : Int) : Option Nat :=
  let up := twoPow q.toNat * tenPow (-k).toNat
  let down := twoPow (-q).toNat * tenPow k.toNat
  let below := i.value * up / down
  let above := below + 1
  match i.admits up (below * down), i.admits up (above * down) with
  | false, false => none
  | true, false => some below
  | false, true => some above
  | true, true =>
    let gapBelow := i.value * up - below * down
    let gapAbove := above * down - i.value * up
    if gapBelow < gapAbove || (gapBelow == gapAbove && below % 2 == 0) then some below else some above

/-- A number without the zeros at its end, and how many they were. -/
def stripZeros : Nat → Nat → Nat × Nat
  | 0, n => (n, 0)
  | fuel + 1, n =>
    if n ≠ 0 ∧ n % 10 = 0 then
      let (m, zeros) := stripZeros fuel (n / 10)
      (m, zeros + 1)
    else (n, 0)

/-- The first grid, from `digits` digits on, with a number that reads back. -/
def Interval.search (i : Interval) (q point : Int) : Nat → Nat → Decimal
  | 0, digits => { coefficient := i.value, exponent := point - digits }
  | more + 1, digits =>
    let k := point - digits
    match i.onGrid q k with
    | some n =>
      let (m, zeros) := stripZeros 20 n
      { coefficient := m, exponent := k + zeros }
    | none => i.search q point more (digits + 1)

/-- The shortest decimal that reads back as the magnitude. -/
def shortest (b : Binary) : Decimal :=
  if b.mantissa = 0 then { coefficient := 0, exponent := 0 }
  else
    let (n, d) := scaleDown b.mantissa 1 (-b.exponent)
    b.interval.search (b.exponent - 2) (pointPosition n d) 17 1

/-- The shortest decimal of the magnitude of a finite double. -/
def ofFloat (x : Float) : Decimal := shortest (Binary.ofBits x.toBits.toNat)

end Decimal

end JsonWorkbench
