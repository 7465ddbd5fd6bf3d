import JsonWorkbench.Decimal.Layout

/-!
# Quantities in Reports

Sizes, counts and times as they are shown to people.

## Main definitions

* `fixedPlaces` — a double with a number of decimal places.
* `sizeText`, `countText`, `durationText` — bytes, counts and times.
-/

namespace JsonWorkbench.Report

/-- A non-negative fraction with a number of decimal places, a half going to the even digit. -/
def fractionPlaces (places num den : Nat) : String :=
  let scaled := Decimal.roundDiv (num * Decimal.tenPow places) den
  let digits := Nat.toDigits 10 scaled
  let padded := List.replicate (places + 1 - digits.length) '0' ++ digits
  let whole := padded.take (padded.length - places)
  let rest := padded.drop (padded.length - places)
  String.ofList (if places = 0 then whole else whole ++ '.' :: rest)

/-- A finite double that is not negative, with a number of decimal places. -/
def fixedPlaces (places : Nat) (x : Float) : String :=
  let b := Decimal.Binary.ofBits x.toBits.toNat
  let (num, den) := Decimal.scaleDown b.mantissa 1 (-b.exponent)
  fractionPlaces places num den

/-- A number of bytes in a unit. -/
def inUnit (bytes unit : Nat) (name : String) : String :=
  fixedPlaces 2 (Decimal.ofInt bytes / Decimal.ofInt unit) ++ " " ++ name

/-- A number of bytes in the greatest unit that does not exceed it. -/
def sizeText (bytes : Nat) : String :=
  if bytes ≥ 0x40000000 then inUnit bytes 0x40000000 "GB"
  else if bytes ≥ 0x100000 then inUnit bytes 0x100000 "MB"
  else if bytes ≥ 1024 then inUnit bytes 1024 "KB"
  else s!"{bytes} B"

/-- Digits with a comma before every group of three from the end. -/
def groupDigits : List Char → List Char
  | [] => []
  | d :: ds =>
    if !ds.isEmpty && ds.length % 3 == 0 then d :: ',' :: groupDigits ds else d :: groupDigits ds

/-- A count with its digits in groups of three. -/
def countText (n : Nat) : String := String.ofList (groupDigits (Nat.toDigits 10 n))

/-- A number with at least three digits. -/
def threeDigits (n : Nat) : String :=
  let digits := Nat.toDigits 10 n
  String.ofList (List.replicate (3 - digits.length) '0' ++ digits)

/-- A time in the two greatest units that it has. -/
def durationText (millis : Nat) : String :=
  let secs := millis / 1000
  if secs ≥ 3600 then s!"{secs / 3600}시간 {secs % 3600 / 60}분"
  else if secs ≥ 60 then s!"{secs / 60}분 {secs % 60}초"
  else if secs > 0 then s!"{secs}.{threeDigits (millis % 1000)}초"
  else s!"{millis}ms"

end JsonWorkbench.Report
