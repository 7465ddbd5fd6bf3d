import JsonWorkbench.Json.Printer
import JsonWorkbench.Path.Basic
import JsonWorkbench.Regex.Basic
import JsonWorkbench.Value.Equality

/-!
# Conditions

What a filter asks of an item: comparisons of a field with a literal, matches of a regular
expression, and whether a field counts as true, joined by "all of" and "any of".

Comparisons are loose. A missing field is null; a number, a truth value or null compared with a
text is compared as a number; an array or an object equals only one of its own kind.

## Main definitions

* `Clause`, `Condition` — the conditions.
* `looseEquals`, `compareLoose`, `isTruthy`, `toNumber` — the comparisons.
* `Clause.holds`, `Condition.isMet` — whether an item satisfies a condition.
-/

namespace JsonWorkbench

/-! ### Loose comparison -/

namespace Value

/-- The number that a scalar stands for, if any. -/
def toNumber : Value → Option Float
  | .null => some 0.0
  | .bool b => some (if b then 1.0 else 0.0)
  | .number n => some n.toFloat
  | .string s =>
    let cs := Text.trim s.toList
    if cs.isEmpty then some 0.0 else Decimal.readFloat? cs
  | _ => none

/-- Whether a value that may be missing counts as true. -/
def isTruthy : Option Value → Bool
  | none => false
  | some .null => false
  | some (.bool b) => b
  | some (.number n) => n.toFloat != 0.0
  | some (.string s) => !s.isEmpty
  | some _ => true

/-- Loose equality of a value that may be missing with a literal. -/
def looseEquals (actual : Option Value) (literal : Value) : Bool :=
  match actual.getD .null, literal with
  | .null, .null => true
  | .null, _ => false
  | _, .null => false
  | a, b =>
    if a.kind = b.kind then a.looseEq b
    else if a.isContainer || b.isContainer then false
    else
      match a.toNumber, b.toNumber with
      | some x, some y => x == y
      | _, _ => false

/-- The order of two doubles, if neither is "not a number". -/
def compareFloats (x y : Float) : Option Ordering :=
  if x < y then some .lt else if y < x then some .gt else if x == y then some .eq else none

/-- The order of two texts by code points. -/
def compareTexts (a b : String) : Ordering :=
  if a < b then .lt else if a = b then .eq else .gt

/-- The order of a value that may be missing and a literal, where they can be compared: two texts
as texts, all other scalars as numbers. -/
def compareLoose (actual : Option Value) (literal : Value) : Option Ordering :=
  match actual, literal with
  | none, _ => none
  | some (.string a), .string b => some (compareTexts a b)
  | some a, b =>
    if a.isContainer || b.isContainer then none
    else
      match a.toNumber, b.toNumber with
      | some x, some y => compareFloats x y
      | _, _ => none

end Value

/-! ### Conditions -/

/-- A comparison. -/
inductive CompareOp where
  | eq
  | ne
  | gt
  | lt
  | ge
  | le
  deriving Repr, DecidableEq

/-- Whether a value that may be missing compares so with a literal. -/
def CompareOp.holds (op : CompareOp) (actual : Option Value) (literal : Value) : Bool :=
  match op with
  | .eq => Value.looseEquals actual literal
  | .ne => !Value.looseEquals actual literal
  | .gt => Value.compareLoose actual literal == some .gt
  | .lt => Value.compareLoose actual literal == some .lt
  | .ge => Value.compareLoose actual literal == some .gt || Value.compareLoose actual literal == some .eq
  | .le => Value.compareLoose actual literal == some .lt || Value.compareLoose actual literal == some .eq

/-- The place of a field in an item: a path that has no filters. -/
abbrev Field := Segments Empty

/-- A part of a condition. -/
inductive Clause where
  /-- All parts hold. -/
  | all (parts : List Clause)
  /-- Some part holds. -/
  | any (parts : List Clause)
  /-- A field compares with a literal. -/
  | compare (field : Field) (op : CompareOp) (literal : Value)
  /-- The text of a field has a match. -/
  | pattern (field : Field) (regex : Regex)
  /-- A field counts as true. -/
  | truthy (field : Field)
  /-- Nothing holds. -/
  | never

/-- A condition with the text that it was read from. -/
structure Condition where
  /-- The text, without blanks at its ends. -/
  source : String
  /-- What it asks. -/
  clause : Clause

/-- Whether the text of a value that may be missing has a match; a value that is no text is taken
by its compact JSON text. -/
def Regex.matchesValue (r : Regex) : Option Value → Bool
  | some (.string s) => r.isMatch s
  | some v => r.isMatch (Json.minify v)
  | none => false

mutual

/-- Whether an item satisfies a clause. -/
def Clause.holds (item : Value) : Clause → Bool
  | .all parts => Clause.allHold item parts
  | .any parts => Clause.anyHolds item parts
  | .compare field op literal => op.holds (locate item field) literal
  | .pattern field regex => regex.matchesValue (locate item field)
  | .truthy field => Value.isTruthy (locate item field)
  | .never => false

/-- Whether an item satisfies every clause of a list. -/
def Clause.allHold (item : Value) : List Clause → Bool
  | [] => true
  | c :: cs => c.holds item && Clause.allHold item cs

/-- Whether an item satisfies some clause of a list. -/
def Clause.anyHolds (item : Value) : List Clause → Bool
  | [] => false
  | c :: cs => c.holds item || Clause.anyHolds item cs

end

/-- Whether an item satisfies a condition. -/
def Condition.isMet (c : Condition) (item : Value) : Bool := c.clause.holds item

end JsonWorkbench
