import JsonWorkbench.Decimal.Numeral
import JsonWorkbench.Json.ReadError
import JsonWorkbench.Value.Basic

/-!
# JSON Numerals

A numeral without fraction and exponent that fits in 64 bits is an integer. Every other one is a
double, computed in double arithmetic from a significand of at most 64 bits: further integer
digits raise the exponent, further fraction digits are dropped. The result may differ from the
nearest double in the last place.

## Main definitions

* `significand` — the digits that fit in 64 bits.
* `scaled` — a significand times a power of ten, in double arithmetic.
* `readNumber` — a numeral at the start of a text.
-/

namespace JsonWorkbench.Json

/-- The greatest significand. -/
def maxSignificand : Nat := 0xFFFFFFFFFFFFFFFF

/-- The greatest exponent that is counted. -/
def maxExponent : Nat := 0x7FFFFFFF

/-- The number of the digits that fit when they are appended to `n`, and the other digits. -/
def significand (n : Nat) : List Char → Nat × List Char
  | [] => (n, [])
  | d :: ds =>
    let next := 10 * n + Decimal.digitValue d
    if next > maxSignificand then (n, d :: ds) else significand next ds

/-- The double nearest to a power of ten. -/
def powerOfTen (k : Nat) : Float := Decimal.nearest false (Decimal.tenPow k) 1

/-- A double times a power of ten, in double arithmetic; `none` if the result is too great.
Exponents below −308 are taken off in steps, which end when the double has become zero. -/
def scaleBy : Nat → Float → Int → Option Float
  | 0, x, _ => some x
  | steps + 1, x, e =>
    if e.natAbs ≤ 308 then
      if e ≥ 0 then
        let y := x * powerOfTen e.toNat
        if y.isInf then none else some y
      else some (x / powerOfTen e.natAbs)
    else if x == 0.0 then some x
    else if e ≥ 0 then none
    else scaleBy steps (x / powerOfTen 308) (e + 308)

/-- A significand times a power of ten; `none` if the result is too great. -/
def scaled (n : Nat) (e : Int) : Option Float := scaleBy 4 (Decimal.ofInt n) e

/-- A double with a sign. -/
def signed (negative : Bool) (x : Float) : Value :=
  .number (.double (if negative then -x else x))

/-- A double from its parts, with the rest of the text. -/
def finish (negative : Bool) (n : Nat) (e : Int) (rest : List Char) :
    Except Fault (Value × List Char) :=
  match scaled n e with
  | some x => .ok (signed negative x, rest)
  | none => .error (.here .numberOutOfRange rest)

/-- The digits of an exponent as a number, as far as it is counted, and the digits behind the one
at which counting stops. -/
def exponentOf (n : Nat) : List Char → Nat × Option (List Char)
  | [] => (n, none)
  | d :: ds =>
    let next := 10 * n + Decimal.digitValue d
    if next > maxExponent then (n, some ds) else exponentOf next ds

/-- An exponent, of which the letter has been read. -/
def readExponent (negative : Bool) (n : Nat) (start : Int) (cs : List Char) :
    Except Fault (Value × List Char) :=
  let (down, rest) := Decimal.spanSign cs
  let (digits, behind) := Decimal.spanDigits rest
  if digits.isEmpty then
    .error (if rest.isEmpty then .here .endInValue rest else .next .invalidNumber rest)
  else
    match exponentOf 0 digits with
    | (e, none) => finish negative n (if down then start - e else start + e) behind
    | (_, some unread) =>
      if n ≠ 0 && !down then .error (.here .numberOutOfRange (unread ++ behind))
      else .ok (signed negative 0.0, behind)

/-- The exponent, if one follows, and the end of the numeral. -/
def readScale (negative : Bool) (n : Nat) (e : Int) (cs : List Char) :
    Except Fault (Value × List Char) :=
  match cs with
  | 'e' :: rest => readExponent negative n e rest
  | 'E' :: rest => readExponent negative n e rest
  | _ => finish negative n e cs

/-- A fraction, of which the point has been read. -/
def readFraction (negative : Bool) (n : Nat) (e : Int) (cs : List Char) :
    Except Fault (Value × List Char) :=
  let (digits, rest) := Decimal.spanDigits cs
  if digits.isEmpty then
    .error (if rest.isEmpty then .here .endInValue rest else .next .invalidNumber rest)
  else
    let (m, dropped) := significand n digits
    readScale negative m (e - (digits.length - dropped.length)) rest

/-- The integer `n` with a sign, or a double where that is no integer of 64 bits. -/
def integerValue (negative : Bool) (n : Nat) : Value :=
  if !negative then .number (.integer n)
  else if 0 < n && n ≤ 0x8000000000000000 then .number (.integer (-(n : Int)))
  else signed true (Decimal.ofInt n)

/-- What may follow the integer digits: a fraction, an exponent or the end of the numeral. -/
def readTail (negative : Bool) (n : Nat) (dropped : List Char) (cs : List Char) :
    Except Fault (Value × List Char) :=
  match cs with
  | '.' :: rest => readFraction negative n dropped.length rest
  | 'e' :: rest => readExponent negative n dropped.length rest
  | 'E' :: rest => readExponent negative n dropped.length rest
  | _ =>
    if dropped.isEmpty then .ok (integerValue negative n, cs)
    else finish negative n dropped.length cs

/-- A numeral, of which the sign has been read. -/
def readNumber (negative : Bool) (cs : List Char) : Except Fault (Value × List Char) :=
  match cs with
  | [] => .error (.here .endInValue [])
  | '0' :: rest =>
    match rest with
    | c :: _ => if c.isDigit then .error (.next .invalidNumber rest) else readTail negative 0 [] rest
    | [] => readTail negative 0 [] []
  | c :: _ =>
    if c.isDigit then
      let (digits, rest) := Decimal.spanDigits cs
      let (n, dropped) := significand 0 digits
      readTail negative n dropped rest
    else .error (.next .invalidNumber cs)

end JsonWorkbench.Json
