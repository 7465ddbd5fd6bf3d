import JsonWorkbench.Decimal.Power

/-!
# Doubles as Fractions of Powers of Two

A finite double is `mantissa * 2 ^ exponent`; this module takes doubles apart and rounds an exact
fraction to the nearest one. All arithmetic is on natural numbers, so nothing here depends on
how a machine rounds.

## Main definitions

* `Binary` — magnitude of a finite double; `Binary.ofBits` reads it from the bit pattern.
* `nearestBits` — the bit pattern of the double nearest to a fraction, ties to even.
-/

namespace JsonWorkbench.Decimal

/-- The bit above the fraction of a double, which is not stored. -/
def hiddenBit : Nat := 0x10000000000000

/-- The bit of the sign. -/
def signBit : Nat := 0x8000000000000000

/-- The magnitude `mantissa * 2 ^ exponent` of a finite double. -/
structure Binary where
  /-- At most 53 bits. -/
  mantissa : Nat
  /-- The power of two that the mantissa counts. -/
  exponent : Int
  /-- Whether the next smaller double is only half as far away as the next greater one. -/
  narrowBelow : Bool
  deriving Repr, DecidableEq

/-- The magnitude behind a bit pattern of a finite double; the sign bit is left out. -/
def Binary.ofBits (bits : Nat) : Binary :=
  let fraction : Nat := bits % hiddenBit
  let biased : Nat := bits / hiddenBit % 0x800
  if biased = 0 then { mantissa := fraction, exponent := -1074, narrowBelow := false }
  else
    { mantissa := hiddenBit + fraction, exponent := (biased : Int) - 1075,
      narrowBelow := fraction = 0 && biased > 1 }

/-- A quotient rounded to the nearest natural number, a half to the even neighbour. -/
def roundDiv (num den : Nat) : Nat :=
  let q := num / den
  let r := num % den
  if 2 * r > den || (2 * r == den && q % 2 == 1) then q + 1 else q

/-- `num / den` scaled by `2 ^ (-e)`, as a fraction. -/
def scaleDown (num den : Nat) (e : Int) : Nat × Nat :=
  if e ≥ 0 then (num, den * twoPow e.toNat) else (num * twoPow (-e).toNat, den)

/-- The power of two in units of which `num / den` has 53 bits, but no less than the least one. -/
def unitExponent (num den : Nat) : Int :=
  let guess : Int := (num.log2 : Int) - (den.log2 : Int) - 53
  let (n, d) := scaleDown num den guess
  let exact := if n / d ≥ 2 * hiddenBit then guess + 1 else guess
  max exact (-1074)

/-- The bit pattern of infinity. -/
def infinityBits : Nat := 0x7FF * hiddenBit

/-- The bit pattern of the non-negative double nearest to `num / den`: of two nearest ones the one
with an even mantissa, and infinity from half a unit above the greatest finite one. -/
def nearestBits (num den : Nat) : Nat :=
  if num = 0 then 0
  else
    let e := unitExponent num den
    let (n, d) := scaleDown num den e
    let m := roundDiv n d
    let (m, e) := if m = 2 * hiddenBit then (hiddenBit, e + 1) else (m, e)
    if e > 971 then infinityBits
    else if m < hiddenBit then m
    else (e + 1075).toNat * hiddenBit + (m - hiddenBit)

/-- The double with a sign and a bit pattern. -/
def ofSignBits (negative : Bool) (bits : Nat) : Float :=
  Float.ofBits (UInt64.ofNat (if negative then signBit + bits else bits))

/-- Infinity. -/
def infinity (negative : Bool) : Float := ofSignBits negative infinityBits

/-- The double nearest to a fraction. -/
def nearest (negative : Bool) (num den : Nat) : Float :=
  ofSignBits negative (nearestBits num den)

/-- The double nearest to an integer. -/
def ofInt (n : Int) : Float := nearest (n < 0) n.natAbs 1

/-- Whether the sign bit of a double is set. -/
def isNegative (x : Float) : Bool := x.toBits.toNat ≥ signBit

/-- A finite double that is a whole number, as that number. -/
def toInt? (x : Float) : Option Int :=
  if x.isFinite then
    let b := Binary.ofBits x.toBits.toNat
    let magnitude : Option Nat :=
      if b.exponent ≥ 0 then some (b.mantissa * twoPow b.exponent.toNat)
      else if b.mantissa % twoPow (-b.exponent).toNat = 0 then
        some (b.mantissa / twoPow (-b.exponent).toNat)
      else none
    magnitude.map fun n => if isNegative x then -(n : Int) else n
  else none

end JsonWorkbench.Decimal
