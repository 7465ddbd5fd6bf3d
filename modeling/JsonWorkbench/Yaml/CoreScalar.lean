import JsonWorkbench.Decimal.Numeral
import JsonWorkbench.Value.Basic

/-!
# The Values of Scalars

What a scalar without quotes stands for: nothing, a truth value, an integer in one of four bases,
a decimal or a text. Digits behind a leading zero are a text. Integers of more than 64 but at most
128 bits are neither: they are recognised and refused; still greater ones are decimals.

## Main definitions

* `isNullWord`, `boolWord?`, `integer?`, `double?` — the single kinds.
* `plainValue?` — the value of a scalar without quotes.
* `typedValue?` — the value of a scalar that has a type.
-/

namespace JsonWorkbench.Yaml

/-- A word for nothing. -/
def isNullWord (s : String) : Bool := s == "null" || s == "Null" || s == "NULL" || s == "~"

/-- The truth value of a word. -/
def boolWord? (s : String) : Option Bool :=
  if s == "true" || s == "True" || s == "TRUE" then some true
  else if s == "false" || s == "False" || s == "FALSE" then some false
  else none

/-- Digits of which the first of several is a zero. -/
def isZeroLed (digits : List Char) : Bool :=
  digits.length > 1 && digits.head? == some '0' && digits.all Char.isDigit

/-- Whether a text consists of zero-led digits, perhaps behind a sign. -/
def isZeroLedText (cs : List Char) : Bool := isZeroLed (Decimal.spanSign cs).2

/-- The value of a digit in a base up to sixteen. -/
def baseDigit? (base : Nat) (c : Char) : Option Nat :=
  let n :=
    if c.isDigit then c.toNat - 48
    else if 'a' ≤ c && c ≤ 'f' then c.toNat - 87
    else if 'A' ≤ c && c ≤ 'F' then c.toNat - 55
    else base
  if n < base then some n else none

/-- The number behind digits in a base, of which there is at least one. -/
def baseNumber? (base : Nat) (cs : List Char) : Option Nat :=
  if cs.isEmpty then none
  else cs.foldlM (fun n c => (baseDigit? base c).map (base * n + ·)) 0

/-- The natural number that a text stands for: decimal, or in the base that a letter behind a zero
names. -/
def natural? : List Char → Option Nat
  | '0' :: 'x' :: cs => baseNumber? 16 cs
  | '0' :: 'o' :: cs => baseNumber? 8 cs
  | '0' :: 'b' :: cs => baseNumber? 2 cs
  | cs => if isZeroLed cs then none else baseNumber? 10 cs

/-- The integer that a text stands for, if it has at most 128 bits. -/
def integer? (cs : List Char) : Option Int :=
  let (negative, body) := Decimal.spanSign cs
  match natural? body with
  | none => none
  | some n =>
    if negative then if n ≤ Decimal.twoPow 127 then some (-(n : Int)) else none
    else if n < Decimal.twoPow 128 then some n else none

/-- The double that a text stands for; the words for infinity and for no number give doubles that
are not finite. -/
def double? (cs : List Char) : Option Float :=
  let body := match cs with
    | '+' :: rest => rest
    | _ => cs
  let text := String.ofList body
  let whole := String.ofList cs
  let isSigned := match body with
    | '+' :: _ => true
    | '-' :: _ => cs.length ≠ body.length
    | _ => false
  if isSigned then none
  else if text == ".inf" || text == ".Inf" || text == ".INF" then
    some (Decimal.infinity false)
  else if whole == "-.inf" || whole == "-.Inf" || whole == "-.INF" then
    some (Decimal.infinity true)
  else if whole == ".nan" || whole == ".NaN" || whole == ".NAN" then
    some (Float.ofBits 0x7FF8000000000000)
  else (Decimal.readFloat? body).bind fun x => if x.isFinite then some x else none

/-- An integer as a value, if it has at most 64 bits. -/
def wordValue? (n : Int) : Option Value :=
  if Number.least ≤ n && n ≤ Number.greatest then some (.int n) else none

/-- A double as a value; without a finite one there is nothing. -/
def doubleValue (x : Float) : Value := (Value.ofFloat? x).getD .null

/-- The value of a scalar without quotes, unless it is an integer that is too great. -/
def plainValue? (cs : List Char) : Option Value :=
  let s := String.ofList cs
  if s.isEmpty || isNullWord s then some .null
  else
    match boolWord? s, integer? cs with
    | some b, _ => some (.bool b)
    | none, some n => wordValue? n
    | none, none =>
      if isZeroLedText cs then some (.string s)
      else
        match double? cs with
        | some x => some (doubleValue x)
        | none => some (.string s)

/-- The start of the names of the known types. -/
def typeStart : List Char := "tag:yaml.org,2002:".toList

/-- The value of a scalar with a type, unless it has no value of that type. A type that is not
known makes it a text. -/
def typedValue? (tag : List Char) (cs : List Char) : Option Value :=
  let s := String.ofList cs
  if tag = typeStart ++ "bool".toList then (boolWord? s).map .bool
  else if tag = typeStart ++ "int".toList then (integer? cs).bind wordValue?
  else if tag = typeStart ++ "float".toList then (double? cs).map doubleValue
  else if tag = typeStart ++ "null".toList then if isNullWord s then some .null else none
  else some (.string s)

end JsonWorkbench.Yaml
