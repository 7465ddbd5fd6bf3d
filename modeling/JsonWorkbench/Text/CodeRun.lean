/-!
# Runs of Code Points

Character classes and case mappings are kept as tables of runs: a first and a last code point
and the step between members. A step of two holds alphabets whose upper-case and lower-case
letters alternate, so that such a block is one row.

## Main definitions

* `CodeTable` — a class of characters; `CodeTable.covers` asks whether it has a character.
* `CaseTable` — a mapping of characters; `CaseTable.map` applies it.
-/

namespace JsonWorkbench.Text

/-- The code points `first`, `first + step`, … up to `last`. -/
structure CodeRun where
  /-- The least member. -/
  first : Nat
  /-- The greatest member. -/
  last : Nat
  /-- The distance between neighbours. -/
  step : Nat
  deriving Repr, DecidableEq

/-- Whether a code point is a member of the run. -/
def CodeRun.contains (r : CodeRun) (n : Nat) : Bool :=
  r.first ≤ n && n ≤ r.last && (n - r.first) % r.step == 0

/-- A class of characters, as the runs that make it up. -/
abbrev CodeTable := List CodeRun

/-- Whether one of the runs holds the character. -/
def CodeTable.covers (runs : CodeTable) (c : Char) : Bool :=
  runs.any (·.contains c.toNat)

/-- A run whose members all lie at one distance from their images. -/
structure CaseRun where
  /-- The members. -/
  members : CodeRun
  /-- What has to be added to a member to get its image. -/
  shift : Int
  deriving Repr, DecidableEq

/-- A mapping of characters that moves the members of its runs and fixes all others. -/
abbrev CaseTable := List CaseRun

/-- The image of a character: shifted by the first run that holds it, else itself. -/
def CaseTable.map (runs : CaseTable) (c : Char) : Char :=
  match runs.find? (·.members.contains c.toNat) with
  | some r => Char.ofNat (c.toNat + r.shift).toNat
  | none => c

end JsonWorkbench.Text
