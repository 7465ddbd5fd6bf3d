import JsonWorkbench.Decimal.Numeral
import JsonWorkbench.Text.Blank
import JsonWorkbench.Toml.Scan

/-!
# Dates and Times

A date, a time, or both with an optional distance to universal time. They are kept as text, in
one spelling: a capital `T` between date and time, a capital `Z` for universal time, and at most
nine digits of a second without zeros at the end.

## Main definitions

* `scanDate`, `scanTime`, `scanOffset` — the parts.
* `scanDateTime` — a date, a time, or both.
-/

namespace JsonWorkbench.Toml

/-- Exactly `n` digits. -/
def scanDigits (n : Nat) (cs : List Char) : Except Failure (List Char × List Char) :=
  let digits := (cs.take n).takeWhile Char.isDigit
  if digits.length = n then .ok (digits, cs.drop n) else soft cs

/-- A number of two digits in a range. -/
def scanPair (least greatest : Nat) (cs : List Char) : Except Failure (List Char × List Char) := do
  let (digits, rest) ← scanDigits 2 cs
  let n := Decimal.digitsValue digits
  if least ≤ n && n ≤ greatest then return (digits, rest) else soft cs

/-- The number of days of a month. -/
def daysOf (year month : Nat) : Nat :=
  if month = 2 then
    if year % 4 = 0 && (year % 100 ≠ 0 || year % 400 = 0) then 29 else 28
  else if month = 4 || month = 6 || month = 9 || month = 11 then 30
  else 31

/-- A date of the calendar. -/
def scanDate (cs : List Char) : Except Failure (List Char × List Char) := do
  let (year, cs) ← scanDigits 4 cs
  let cs ← expect '-' cs
  let (month, cs) ← committed (scanPair 1 12 cs)
  let cs ← committed (expect '-' cs)
  let (day, rest) ← committed (scanPair 1 31 cs)
  if Decimal.digitsValue day ≤ daysOf (Decimal.digitsValue year) (Decimal.digitsValue month) then
    return (year ++ '-' :: month ++ '-' :: day, rest)
  else final cs

/-- A fraction of a second, with its point; nothing if it is zero. -/
def scanFraction (cs : List Char) : Except Failure (List Char × List Char) := do
  let cs ← expect '.' cs
  let (digits, rest) := cs.span Char.isDigit
  if digits.isEmpty then soft cs
  else
    match Text.dropEndWhile (· == '0') (digits.take 9) with
    | [] => return ([], rest)
    | kept => return ('.' :: kept, rest)

/-- A time of the day. -/
def scanTime (cs : List Char) : Except Failure (List Char × List Char) := do
  let (hour, cs) ← scanPair 0 23 cs
  let cs ← expect ':' cs
  let (minute, cs) ← committed (scanPair 0 59 cs)
  let cs ← committed (expect ':' cs)
  let (second, cs) ← committed (scanPair 0 60 cs)
  let (fraction, rest) ← optionally cs (scanFraction cs)
  return (hour ++ ':' :: minute ++ ':' :: second ++ fraction.getD [], rest)

/-- A distance to universal time; none at all has a plus. -/
def scanOffset (cs : List Char) : Except Failure (List Char × List Char) :=
  match cs with
  | [] => soft []
  | c :: rest =>
    if c == 'Z' || c == 'z' then .ok (['Z'], rest)
    else if c == '+' || c == '-' then
      committed do
        let (hours, rest) ← scanPair 0 23 rest
        let rest ← expect ':' rest
        let (minutes, rest) ← scanPair 0 59 rest
        let digits := hours ++ ':' :: minutes
        let sign := if digits = ['0', '0', ':', '0', '0'] then '+' else c
        return (sign :: digits, rest)
    else soft cs

/-- A time with an optional distance to universal time, behind the date and what separates them. -/
def scanTimeBehind (cs : List Char) : Except Failure (List Char × List Char) :=
  match cs with
  | [] => soft []
  | c :: rest =>
    if c == 'T' || c == 't' || c == ' ' then do
      let (time, rest) ← scanTime rest
      let (offset, rest) ← optionally rest (scanOffset rest)
      return ('T' :: time ++ offset.getD [], rest)
    else soft cs

/-- A date with an optional time, or a time. -/
def scanDateTime (cs : List Char) : Except Failure (List Char × List Char) :=
  orElse
    (do
      let (date, rest) ← scanDate cs
      let (time, rest) ← optionally rest (scanTimeBehind rest)
      return (date ++ time.getD [], rest))
    fun _ => scanTime cs

end JsonWorkbench.Toml
