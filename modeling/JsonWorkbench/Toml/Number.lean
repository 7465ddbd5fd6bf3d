import JsonWorkbench.Decimal.Numeral
import JsonWorkbench.Text.Hexadecimal
import JsonWorkbench.Toml.Scan
import JsonWorkbench.Value.Basic

/-!
# Numbers in TOML

Integers of 64 bits with a sign, decimal or in one of three other bases, and doubles. Single
underscores may stand between digits. A double that is too great is refused, unless it is
negative.

## Main definitions

* `scanDecimal`, `scanBased` — the integers.
* `scanDouble` — the doubles.
-/

namespace JsonWorkbench.Toml

/-- Further digits of a class, without the underscores between them. -/
def scanMore (p : Char → Bool) : List Char → Except Failure (List Char × List Char)
  | [] => .ok ([], [])
  | '_' :: [] => final []
  | '_' :: d :: cs =>
    if p d then (scanMore p cs).map fun (ds, rest) => (d :: ds, rest) else final (d :: cs)
  | c :: cs =>
    if p c then (scanMore p cs).map fun (ds, rest) => (c :: ds, rest) else .ok ([], c :: cs)

/-- Digits of a class, at least one. -/
def scanSome (p : Char → Bool) (cs : List Char) : Except Failure (List Char × List Char) :=
  match cs with
  | [] => soft []
  | c :: rest => if p c then (scanMore p rest).map fun (ds, rest) => (c :: ds, rest) else soft cs

/-- A sign, if one is next, and the text behind it. -/
def spanSign : List Char → List Char × List Char
  | '+' :: cs => (['+'], cs)
  | '-' :: cs => (['-'], cs)
  | cs => ([], cs)

/-- Decimal digits with an optional sign; a leading zero is the only digit. -/
def scanDecimal (cs : List Char) : Except Failure (List Char × List Char) :=
  let (sign, digits) := spanSign cs
  match digits with
  | '0' :: rest => .ok (sign ++ ['0'], rest)
  | _ => (scanSome Char.isDigit digits).map fun (ds, rest) => (sign ++ ds, rest)

/-- The integer of 64 bits behind a sign and a magnitude. -/
def signedWord? (negative : Bool) (n : Nat) : Option Int :=
  let i : Int := if negative then -(n : Int) else n
  if Number.least ≤ i && i ≤ Number.greatestSigned then some i else none

/-- A digit of a base up to sixteen. -/
def isBaseDigit (base : Nat) (c : Char) : Bool :=
  ((Text.hexValue? c).map fun d => decide (d < base)).getD false

/-- The number behind digits of a base. -/
def baseValue (base : Nat) (digits : List Char) : Nat :=
  digits.foldl (fun n c => base * n + (Text.hexValue? c).getD 0) 0

/-- An integer in a base, of which the letter for the base has been read. -/
def scanBased (base : Nat) (cs : List Char) : Except Failure (Int × List Char) :=
  committed do
    let (digits, rest) ← scanSome (isBaseDigit base) cs
    match signedWord? false (baseValue base digits) with
    | some n => return (n, rest)
    | none => final cs

/-- An integer. -/
def scanInteger (cs : List Char) : Except Failure (Int × List Char) :=
  match cs with
  | '0' :: 'x' :: rest => scanBased 16 rest
  | '0' :: 'o' :: rest => scanBased 8 rest
  | '0' :: 'b' :: rest => scanBased 2 rest
  | _ => do
    let (text, rest) ← scanDecimal cs
    let (negative, digits) := Decimal.spanSign text
    match signedWord? negative (Decimal.digitsValue digits) with
    | some n => return (n, rest)
    | none => final cs

/-- An exponent. -/
def scanExponent (cs : List Char) : Except Failure (List Char × List Char) :=
  match cs with
  | [] => soft []
  | c :: rest =>
    if c == 'e' || c == 'E' then
      let (sign, digits) := spanSign rest
      (committed (scanSome Char.isDigit digits)).map fun (ds, rest) => ('e' :: sign ++ ds, rest)
    else soft cs

/-- A fraction with an optional exponent. -/
def scanFractional (cs : List Char) : Except Failure (List Char × List Char) := do
  let rest ← expect '.' cs
  let (digits, rest) ← committed (scanSome Char.isDigit rest)
  let (exponent, rest) ← optionally rest (scanExponent rest)
  return ('.' :: digits ++ exponent.getD [], rest)

/-- A double in digits. -/
def scanDigitDouble (cs : List Char) : Except Failure (Float × List Char) := do
  let (whole, behind) ← scanDecimal cs
  let (part, rest) ← orElse (scanExponent behind) fun _ => scanFractional behind
  match Decimal.readFloat? (whole ++ part) with
  | some x => if x == Decimal.infinity false then final cs else return (x, rest)
  | none => final cs

/-- The word for infinity or for no number, with an optional sign; neither has a finite double. -/
def scanWordDouble (cs : List Char) : Except Failure (Float × List Char) :=
  let (_, word) := spanSign cs
  orElse
    ((expectWord ['i', 'n', 'f'] word).map fun rest => (Decimal.infinity false, rest))
    fun _ =>
      (expectWord ['n', 'a', 'n'] word).map fun rest => (Float.ofBits 0x7FF8000000000000, rest)

/-- A double. -/
def scanDouble (cs : List Char) : Except Failure (Float × List Char) :=
  orElse (scanDigitDouble cs) fun _ => scanWordDouble cs

end JsonWorkbench.Toml
