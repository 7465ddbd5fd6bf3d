import JsonWorkbench.Decimal.Numeral
import JsonWorkbench.Text.Blank
import JsonWorkbench.Text.Search
import JsonWorkbench.Value.Basic

/-!
# Paths

A path is a list of segments that leads from a document to values in it. The two literal segments
name one place; the others select many. What a filter is stays open here: the type of filters is
a parameter, so that the fields in a condition can be paths without filters.

## Main definitions

* `Segment`, `Segments` — the segments and the paths made of them.
* `showPath` — the text of a path; `pointer` — its JSON pointer.
* `step`, `locate` — the value that literal segments lead to.
-/

namespace JsonWorkbench

/-- A step of a path. -/
inductive Segment (φ : Type) where
  /-- The member under a key; a numeral is an index where there is an array. -/
  | key (name : String)
  /-- The item at an index. -/
  | index (i : Nat)
  /-- All items. -/
  | wildcard
  /-- The items between two bounds, the second excluded. -/
  | slice (first last : Option Nat)
  /-- The items that satisfy a condition. -/
  | filter (condition : φ)
  /-- The members under a key at any depth. -/
  | descendant (name : String)
  deriving Repr, DecidableEq

/-- A path over filters of some type. -/
abbrev Segments (φ : Type) := List (Segment φ)

namespace Segment

/-- Whether the segment names one place. -/
def isLiteral : Segment φ → Bool
  | .key _ | .index _ => true
  | _ => false

/-- Whether the segment slices, filters or descends. -/
def isAdvanced : Segment φ → Bool
  | .slice _ _ | .filter _ | .descendant _ => true
  | _ => false

end Segment

/-! ### The text of a path -/

/-- Whether a key can stand behind a dot as it is. -/
def isPlainKey (key : String) : Bool :=
  let cs := key.toList
  !cs.isEmpty && !cs.any fun c =>
    c == '.' || c == '[' || c == ']' || c == '\'' || c == '"' || Text.isBlank c

/-- The digits of a natural number. -/
def digitsOf (n : Nat) : List Char := Nat.toDigits 10 n

/-- The digits of a bound, if there is one. -/
def boundText : Option Nat → List Char
  | some n => digitsOf n
  | none => []

/-- The text of a segment, given the texts of filters. -/
def segmentText (source : φ → String) : Segment φ → List Char
  | .key k =>
    if isPlainKey k then '.' :: k.toList
    else ['[', '\''] ++ Text.replaceText ['\''] ['\\', '\''] k.toList ++ ['\'', ']']
  | .index i => '[' :: digitsOf i ++ [']']
  | .wildcard => ['[', '*', ']']
  | .slice first last => '[' :: boundText first ++ ':' :: boundText last ++ [']']
  | .filter c => ['[', '?', '('] ++ (source c).toList ++ [')', ']']
  | .descendant k => '.' :: '.' :: k.toList

/-- The text of a path, given the texts of filters. -/
def segmentsText (source : φ → String) (path : Segments φ) : String :=
  String.ofList ('$' :: path.flatMap (segmentText source))

/-- A character of a reference token, escaped. -/
def escapeToken (cs : List Char) : List Char :=
  Text.replaceText ['/'] ['~', '1'] (Text.replaceText ['~'] ['~', '0'] cs)

/-- The JSON pointer of a path; a segment that is not literal stands there by its text. -/
def segmentsPointer (source : φ → String) (path : Segments φ) : String :=
  String.ofList (path.flatMap fun s =>
    '/' :: match s with
      | .key k => escapeToken k.toList
      | .index i => digitsOf i
      | other => segmentText source other)

/-! ### Following literal segments -/

/-- A natural number of 64 bits, as digits with an optional plus. -/
def readIndex? (cs : List Char) : Option Nat :=
  let digits :=
    match cs with
    | '+' :: rest => rest
    | _ => cs
  if !digits.isEmpty && digits.all Char.isDigit && Decimal.digitsValue digits < 0x10000000000000000 then
    some (Decimal.digitsValue digits)
  else none

/-- The index that a key stands for where there is an array. -/
def keyIndex? (key : String) : Option Nat := readIndex? key.toList

/-- The value one literal segment further. -/
def step : Value → Segment φ → Option Value
  | .object ms, .key k => Members.get? ms k
  | .array vs, .key k => (keyIndex? k).bind (vs[·]?)
  | .array vs, .index i => vs[i]?
  | _, _ => none

/-- The value that a path of literal segments leads to. -/
def locate : Value → Segments φ → Option Value
  | v, [] => some v
  | v, s :: path => (step v s).bind (locate · path)

end JsonWorkbench
